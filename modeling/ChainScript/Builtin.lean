import ChainScript.Path
import ChainScript.Primitive
import ChainScript.Series.Zeros
import ChainScript.Text.Case

/-!
# Built-in primitives

The primitives that every context starts with: text functions, reading of files, and the search for
the zeros of a series.
-/

namespace ChainScript.Builtin

open Text

/-- The first of `last` and `input` that is not absent. -/
def identity (s : Scope) : Except Failure Value :=
  .ok ((s.firstOf? ["last", "input"]).getD .absent)

/-- Applies a function to the text argument. -/
def mapText (f : List Char → List Char) (s : Scope) : Except Failure Value :=
  (s.textArgument "last" ["input", "line"]).map fun text => .str (String.ofList (f text.toList))

/-- The number of characters of a text, or of the entries of a list or a map. -/
def length (s : Scope) : Except Failure Value :=
  (s.argument "last" ["input", "line"]).bind fun
    | .str text => .ok (.number (Float.ofNat text.length))
    | .list items => .ok (.number (Float.ofNat items.length))
    | .map fields => .ok (.number (Float.ofNat fields.length))
    | _ => .error (.invalid "last" "expected text or a collection")

/-- The text of a file. Relative paths start at the root. -/
def readFile (root : String) (files : FileTree) (s : Scope) : Except Failure Value :=
  (s.textArgument "path" ["file", "input", "last"]).bind fun relative =>
    let path := Path.join root relative
    match files.read path with
    | .ok text => .ok (.str text)
    | .error fault => .error (.unreadable path fault.message)

/-! ### Zeros -/

/-- A spectrum is not what it has to be. -/
def badSpectrum : Failure := .invalid "spectrum" "expected numbers"

/-- The character separates the numbers of a spectrum. -/
def separatesNumbers (c : Char) : Bool :=
  c == ',' || isBlank c

/-- The coefficients that a value stands for: one number, a list of numbers, or numbers in a text
with commas or blanks between them. -/
def readSpectrum (v : Value) : Except Failure (List Float) :=
  let numbers? : Option (List Float) :=
    match v with
    | .number x => some [x]
    | .list items => items.mapM Value.toNumber?
    | .str text => (words separatesNumbers text.toList).mapM Decimal.readFloat?
    | _ => none
  match numbers? with
  | some xs => .ok xs
  | none => .error badSpectrum

/-- A bound of the stretch: the field of that name of `region`, or else the value of that name. An
absent bound has a default. -/
def readBound (s : Scope) (name : String) (default : Float) : Except Failure Float :=
  match ((s.get? "region").bind fun region => region.field? name).or (s.get? name) with
  | none | some .absent => .ok default
  | some v =>
    match v.toNumber?.filter Float.isFinite with
    | some x => .ok x
    | none => .error (.invalid name "expected a finite number")

/-- A zero as a map. -/
def zeroValue (z : Zero) : Value :=
  .ofFields [("real", .number z.real), ("imaginary", .number z.imaginary),
    ("residual", .number z.residual), ("converged", .bool z.converged)]

/-- The zeros of the series with the given spectrum, between `min` and `max`. -/
def findZeros (settings : Search) (s : Scope) : Except Failure Value := do
  let spectrum ← (s.argument "spectrum" ["last", "input"]).bind readSpectrum
  let low ← readBound s "min" 0
  let high ← readBound s "max" 50
  let zeros := (Series.ofSpectrum spectrum).findZeros settings (.between low high)
  pure (.list (zeros.map zeroValue))

/-- The built-in primitives for a root directory and a way to search for zeros. -/
def registry (root : String) (settings : Search) : Registry :=
  .ofList Prod.fst [
    ("identity", .ofScope identity),
    ("trim", .ofScope (mapText trim)),
    ("upper", .ofScope (mapText toUpper)),
    ("lower", .ofScope (mapText toLower)),
    ("length", .ofScope length),
    ("read_file", .ofFiles (readFile root)),
    ("find_zeros", .ofScope (findZeros settings))]

end ChainScript.Builtin
