import ChainScript.Step
import ChainScript.Trace

/-!
# Evaluation

A chain takes its steps one after the other; `last` always has the result of the latest one. A step
that names a voice runs the chain of that voice in a scope inside the scope of the caller, and only
the result comes back. A voice that is running already is not entered again, so there are never
more voices running than the store has, and every execution ends.

The steps of one chain are taken by structural recursion. How a voice is entered is a parameter
there, and `Library.enter` ties the knot.
-/

namespace ChainScript

/-- How a voice is entered: from its name, the scope of the caller and the last result come the
result of the voice and what happened. -/
abbrev Enter := String → Scope → Value → Value × Trace

/-- What comes of running a chain in a scope: its result, the scope as it is left, and what
happened. -/
structure Run where
  value : Value
  scope : Scope
  trace : Trace

/-- The warnings of the run. -/
def Run.warnings (r : Run) : List Failure :=
  Trace.warnings r.trace

/-- The names that have the last result in the scope of a primitive unless they are bound. -/
def aliases : List String := ["input", "path", "file", "line"]

/-- The scope in which a primitive is called. -/
def callScope (caller : Scope) (last : Value) : Scope :=
  caller.child.setAllIfUnbound aliases last

/-- The scope in which the chain of a voice runs. The last result of the caller is bound to `input`
and to each parameter, whatever the caller has under these names. -/
def voiceScope (caller : Scope) (parameters : List String) (last : Value) : Scope :=
  (caller.child.set "input" last).setAll parameters last

/-! ### Single steps -/

/-- Calls a primitive. A failure or a breakdown gives an absent value and a warning. What the
primitive writes to its scope is lost. -/
def Library.call (lib : Library) (name : String) (caller : Scope) (last : Value) : Value × Trace :=
  match lib.registry.primitive? name with
  | none => (.absent, [.warned (.missing name)])
  | some p =>
    let own := callScope caller last
    match (p.call lib.files own).1.result with
    | .ok v => (v, [.called name caller own])
    | .error reason => (.absent, [.called name caller own, .warned (.primitive name reason)])

/-- The call of a registered primitive has the outcome that the primitive has in the scope it is
called with, and this is the scope that the call shows. -/
theorem Library.call_eq {lib : Library} {name : String} {p : Primitive}
    (hp : lib.registry.primitive? name = some p) (caller : Scope) (last : Value) :
    lib.call name caller last =
      match (p.call lib.files (callScope caller last)).1.result with
      | .ok v => (v, [.called name caller (callScope caller last)])
      | .error reason => (.absent,
          [.called name caller (callScope caller last), .warned (.primitive name reason)]) := by
  simp only [call, hp]

namespace Meaning

/-- Runs what a single token means. A fresh name takes the last result, unless that is absent: then
it stands for itself like any other unknown token. -/
def run (lib : Library) (enter : Enter) (scope : Scope) (last : Value) : Meaning → Run
  | bound _ value | constant _ value | literal value => { value, scope, trace := [] }
  | voice name _ _ =>
    let (value, trace) := enter name scope last
    { value, scope, trace }
  | primitive name =>
    let (value, trace) := lib.call name scope last
    { value, scope, trace }
  | fresh name =>
    if last.isAbsent then
      { value := .str name, scope, trace := [.warned (.unresolved name)] }
    else { value := last, scope := scope.set name last, trace := [] }
  | unresolved token => { value := .str token, scope, trace := [.warned (.unresolved token)] }
  | empty => { value := .absent, scope, trace := [] }

/-- Tries what an alternative means. An unknown token is a failed alternative and binds nothing. -/
def attempt (lib : Library) (enter : Enter) (scope : Scope) (last : Value) :
    Meaning → Value × Trace
  | fresh token | unresolved token => (.absent, [.warned (.unresolved token)])
  | m =>
    let r := m.run lib enter scope last
    (r.value, r.trace)

/-- Tries alternatives until one gives a result that is neither absent nor empty. If none does, the
results are combined. Those before the first alternative are in `passed`. -/
def route (lib : Library) (enter : Enter) (scope : Scope) (last : Value) (passed : List Value) :
    List Meaning → Value × Trace
  | [] => (Value.combine passed, [])
  | m :: rest =>
    let (value, trace) := m.attempt lib enter scope last
    if value.isVacant then
      let (winner, more) := route lib enter scope last (passed ++ [value]) rest
      (winner, trace ++ more)
    else (value, trace)

end Meaning

/-- Runs a step. A compound step leaves the scope as it is. -/
def Step.run (lib : Library) (enter : Enter) (scope : Scope) (last : Value) : Step → Run
  | single m => m.run lib enter scope last
  | compound alternatives =>
    let (value, trace) := Meaning.route lib enter scope last [] alternatives
    { value, scope, trace }

/-! ### Chains -/

namespace Library

/-- Takes the steps one after the other. Each token is resolved in the scope that the steps before
it have left. -/
def runSteps (lib : Library) (enter : Enter) : List String → Scope → Value → Run
  | [], scope, last => { value := last, scope, trace := [] }
  | token :: rest, scope, last =>
    let r := (Step.resolve lib scope token).run lib enter scope last
    let after := lib.runSteps enter rest (r.scope.set "last" r.value) r.value
    { after with trace := .step token scope :: r.trace ++ after.trace }

/-- Runs the steps of a chain text. The seed is the result that precedes the first step. -/
def runChain (lib : Library) (enter : Enter) (chain : String) (scope : Scope) (seed : Value) :
    Run :=
  lib.runSteps enter (Chain.steps chain) (scope.set "last" seed) seed

/-- The number of chain voices that are not running. -/
def idle (lib : Library) (running : List String) : Nat :=
  lib.store.chainNames.countP (· ∉ running)

theorem idle_cons_lt {lib : Library} {running : List String} {name : String}
    (hname : name ∈ lib.store.chainNames) (hidle : name ∉ running) :
    lib.idle (name :: running) < lib.idle running :=
  countP_not_mem_cons_lt hname hidle

/-- Enters a voice while others are running. One of these is not entered again. -/
def enter (lib : Library) (running : List String) (name : String) (caller : Scope) (last : Value) :
    Value × Trace :=
  match _hv : lib.store.voice? name with
  | none => (.absent, [.warned (.missing name)])
  | some v =>
    match _hbody : v.body with
    | .literal value => (value, [])
    | .chain text =>
      if _hrunning : name ∈ running then (.absent, [.warned (.cycle name)])
      else
        let scope := voiceScope caller v.parameters last
        let r := lib.runChain (fun n s x => lib.enter (name :: running) n s x) text scope last
        (r.value, .entered name scope :: r.trace ++ [.left name])
termination_by lib.idle running
decreasing_by
  have hchain : v.chain? = some text := by simp [Voice.chain?, _hbody]
  exact idle_cons_lt (Store.mem_chainNames_of_voice? _hv hchain) _hrunning

/-- Runs a chain text in a scope while the given voices are running. -/
def execute (lib : Library) (running : List String) (chain : String) (scope : Scope)
    (seed : Value) : Run :=
  lib.runChain (lib.enter running) chain scope seed

/-- Runs a chain text in a scope under the name of a voice, unless that voice is running. -/
def executeVoice (lib : Library) (running : List String) (name chain : String) (scope : Scope)
    (seed : Value) : Run :=
  if name ∈ running then { value := .absent, scope, trace := [.warned (.cycle name)] }
  else
    let r := lib.execute (name :: running) chain scope seed
    { r with trace := .entered name scope :: r.trace ++ [.left name] }

/-- Entering a chain voice is executing its chain in the scope of the voice. -/
theorem enter_eq_executeVoice {lib : Library} {name text : String} {v : Voice}
    (hv : lib.store.voice? name = some v) (hbody : v.body = .chain text)
    (running : List String) (caller : Scope) (last : Value) :
    lib.enter running name caller last =
      let r := lib.executeVoice running name text (voiceScope caller v.parameters last) last
      (r.value, r.trace) := by
  rw [enter]
  split
  · next h => simp [hv] at h
  · next w h =>
    rw [hv] at h
    cases h
    split
    · next h' => simp [hbody] at h'
    · next text' h' =>
      rw [hbody] at h'
      cases h'
      by_cases hrunning : name ∈ running
      · simp [executeVoice, hrunning]
      · simp [executeVoice, hrunning, execute]

end Library

end ChainScript
