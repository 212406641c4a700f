import ChainScript.Chain
import ChainScript.Primitive
import ChainScript.Store

/-!
# Steps

What the tokens of a chain mean. Bound names come before voices, voices before primitives, and only
what is none of these is read as a literal. A step with plus signs is compound and means each of
its alternatives.
-/

namespace ChainScript

/-- What a single token means. -/
inductive Meaning where
  /-- A name that is bound. -/
  | bound (name : String) (value : Value)
  /-- A voice that is a chain. -/
  | voice (name : String) (parameters : List String) (chain : String)
  /-- A voice that is a value. -/
  | constant (name : String) (value : Value)
  | primitive (name : String)
  | literal (value : Value)
  /-- An identifier that means nothing yet and takes the last result. -/
  | fresh (name : String)
  /-- Any other text, which stands for itself. -/
  | unresolved (token : String)
  | empty

/-- What a step means. A compound step has at least two alternatives. -/
inductive Step where
  | single (meaning : Meaning)
  | compound (alternatives : List Meaning)

/-- The voices that chains are resolved against, and the primitives and files they can use. None of
these changes while a chain runs. -/
structure Library where
  store : Store
  registry : Registry
  files : FileTree

namespace Meaning

/-- What a voice means as a token. -/
def ofVoice (v : Voice) : Meaning :=
  match v.body with
  | .chain text => voice v.name v.parameters text
  | .literal value => constant v.name value

/-- What a token means that is no name of anything. -/
def ofLexeme (token : String) : Meaning :=
  match Lexeme.category token.toList with
  | .empty => empty
  | .identifier => fresh token
  | .other => unresolved token
  | .quoted | .number | .boolean =>
    match Lexeme.literal? token.toList with
    | some value => literal value
    | none => unresolved token

/-- What a single token means in a scope. -/
def resolve (lib : Library) (scope : Scope) (token : String) : Meaning :=
  match scope.get? token with
  | some value => bound token value
  | none =>
    match lib.store.voice? token with
    | some v => ofVoice v
    | none => if lib.registry.contains token then primitive token else ofLexeme token

end Meaning

/-- What a step means in a scope. -/
def Step.resolve (lib : Library) (scope : Scope) (token : String) : Step :=
  let alternatives := Chain.alternatives token
  if 1 < alternatives.length then .compound (alternatives.map (Meaning.resolve lib scope))
  else .single (Meaning.resolve lib scope (Text.trimmed token))

/-! ### The order of resolution -/

namespace Meaning

theorem resolve_of_get? {lib : Library} {scope : Scope} {token : String} {value : Value}
    (h : scope.get? token = some value) : resolve lib scope token = bound token value := by
  simp [resolve, h]

theorem resolve_of_voice? {lib : Library} {scope : Scope} {token : String} {v : Voice}
    (hscope : scope.get? token = none) (h : lib.store.voice? token = some v) :
    resolve lib scope token = ofVoice v := by
  simp [resolve, hscope, h]

theorem resolve_of_primitive {lib : Library} {scope : Scope} {token : String}
    (hscope : scope.get? token = none) (hvoice : lib.store.voice? token = none)
    (h : lib.registry.contains token = true) : resolve lib scope token = primitive token := by
  simp [resolve, hscope, hvoice, h]

theorem resolve_of_unknown {lib : Library} {scope : Scope} {token : String}
    (hscope : scope.get? token = none) (hvoice : lib.store.voice? token = none)
    (h : lib.registry.contains token = false) : resolve lib scope token = ofLexeme token := by
  simp [resolve, hscope, hvoice, h]

end Meaning

end ChainScript
