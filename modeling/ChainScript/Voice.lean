import ChainScript.Value

/-!
# Voices and definitions

What a definition file declares: voices, which are named chains or values, and definitions, which
are named lists of fields and only document.
-/

namespace ChainScript

/-- What a voice stands for: a value, or a chain kept as text and read each time it runs. -/
inductive Body where
  | literal (value : Value)
  | chain (text : String)

/-- A named chain or value. The parameters are the names that receive the last result of the
caller. -/
structure Voice where
  name : String
  parameters : List String
  body : Body

/-- A named list of fields. It is never checked against values. -/
structure Definition where
  name : String
  fields : List String
  deriving DecidableEq

/-- The text of the chain, if the voice is one. -/
def Voice.chain? (v : Voice) : Option String :=
  match v.body with
  | .chain text => some text
  | .literal _ => none

/-- The bodies are the same. -/
def Body.same : Body → Body → Bool
  | literal v, literal w => v.same w
  | chain s, chain t => s == t
  | _, _ => false

/-- The voices have the same name, parameters and body. -/
def Voice.same (v w : Voice) : Bool :=
  v.name == w.name && v.parameters == w.parameters && v.body.same w.body

end ChainScript
