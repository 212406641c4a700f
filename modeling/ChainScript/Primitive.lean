import ChainScript.Failure
import ChainScript.FileTree
import ChainScript.Scope

/-!
# Primitives

Functions that a chain can call by name. A primitive reads its arguments from the scope it is
given, may read files, and may write to its scope. It ends with a value, with a failure, or by
breaking down.
-/

namespace ChainScript

/-- How a call of a primitive ends. -/
inductive Outcome where
  | value (v : Value)
  | failure (f : Failure)
  /-- The primitive broke down. It may have left a note. -/
  | breakdown (note? : Option String)

/-- A function of the files and a scope. Beside the outcome it gives the scope as it left it. -/
structure Primitive where
  call : FileTree → Scope → Outcome × Scope

/-- Primitives by name. -/
abbrev Registry := Catalogue (Prod.fst : String × Primitive → String)

namespace Registry

/-- The primitive with the given name. -/
def primitive? (r : Registry) (name : String) : Option Primitive :=
  (r.find? name).map Prod.snd

/-- Adds a primitive, instead of the one with the same name if there is one. -/
def register (r : Registry) (name : String) (p : Primitive) : Registry :=
  r.insert (name, p)

theorem primitive?_register (r : Registry) (name other : String) (p : Primitive) :
    (r.register name p).primitive? other = if name = other then some p else r.primitive? other := by
  rw [primitive?, register, Catalogue.find?_insert]
  split <;> rfl

end Registry

namespace Outcome

/-- The outcome of a computation that may fail. -/
def ofExcept : Except Failure Value → Outcome
  | .ok v => value v
  | .error f => failure f

/-- The value, or the sentence that reports why there is none. A breakdown without a note is
reported by one word. -/
def result : Outcome → Except String Value
  | value v => .ok v
  | failure f => .error f.message
  | breakdown note? => .error (note?.getD "panicked")

end Outcome

/-- The primitive that only reads its scope. -/
def Primitive.ofScope (f : Scope → Except Failure Value) : Primitive where
  call _ scope := (.ofExcept (f scope), scope)

/-- The primitive that only reads its scope and the files. -/
def Primitive.ofFiles (f : FileTree → Scope → Except Failure Value) : Primitive where
  call files scope := (.ofExcept (f files scope), scope)

/-! ### Arguments -/

/-- The value of the first of the names that has one which is not absent. The first name stands for
the argument in the report. -/
def Scope.argument (s : Scope) (name : String) (others : List String) : Except Failure Value :=
  match s.firstOf? (name :: others) with
  | some v => .ok v
  | none => .error (.invalid name "missing")

/-- The argument as text. Lists and maps are refused. -/
def Scope.textArgument (s : Scope) (name : String) (others : List String) :
    Except Failure String :=
  match s.argument name others with
  | .error f => .error f
  | .ok (.list _) | .ok (.map _) => .error (.invalid name "expected text")
  | .ok v => .ok v.display

end ChainScript
