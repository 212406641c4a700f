import ChainScript.Failure
import ChainScript.Scope

/-!
# Traces

What an execution leaves behind beside its result: the steps it took, the voices it entered and
left, the primitives it called, and its warnings, in the order in which all this happened.
-/

namespace ChainScript

/-- Something that happens during an execution. -/
inductive Event where
  /-- A step is about to be taken in a scope. -/
  | step (token : String) (scope : Scope)
  /-- A voice has been entered and its chain will run in a scope. -/
  | entered (voice : String) (scope : Scope)
  | left (voice : String)
  /-- A primitive has been called with a scope of its own inside the scope of the caller. -/
  | called (primitive : String) (caller own : Scope)
  | warned (failure : Failure)

/-- Events, oldest first. -/
abbrev Trace := List Event

/-- The failure, if the event is a warning. -/
def Event.warning? : Event → Option Failure
  | warned failure => some failure
  | _ => none

/-- The warnings of a trace. -/
def Trace.warnings (t : Trace) : List Failure :=
  t.filterMap Event.warning?

/-- The voices that are running after the events, innermost first, if `running` were before. There
is no answer for events that leave a voice which is not the innermost. -/
def Trace.running? (running : List String) : Trace → Option (List String)
  | [] => some running
  | .entered voice _ :: rest => Trace.running? (voice :: running) rest
  | .left voice :: rest =>
    match running with
    | [] => none
    | innermost :: outer => if innermost = voice then Trace.running? outer rest else none
  | _ :: rest => Trace.running? running rest

namespace Trace

@[simp]
theorem warnings_nil : warnings [] = [] := rfl

@[simp]
theorem warnings_append (t u : Trace) : warnings (t ++ u) = warnings t ++ warnings u :=
  List.filterMap_append

@[simp]
theorem warnings_warned (failure : Failure) (t : Trace) :
    warnings (.warned failure :: t) = failure :: warnings t := rfl

@[simp]
theorem warnings_step (token : String) (scope : Scope) (t : Trace) :
    warnings (.step token scope :: t) = warnings t := rfl

@[simp]
theorem warnings_entered (voice : String) (scope : Scope) (t : Trace) :
    warnings (.entered voice scope :: t) = warnings t := rfl

@[simp]
theorem warnings_left (voice : String) (t : Trace) :
    warnings (.left voice :: t) = warnings t := rfl

@[simp]
theorem warnings_called (primitive : String) (caller own : Scope) (t : Trace) :
    warnings (.called primitive caller own :: t) = warnings t := rfl

end Trace

end ChainScript
