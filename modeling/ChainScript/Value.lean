import ChainScript.Catalogue
import ChainScript.Decimal.Numeral
import ChainScript.Decimal.Shortest
import ChainScript.Text.Blank
import ChainScript.Text.Quoted

/-!
# Values

What a step of a chain can produce, how a value is shown, and when two values count as the same.
-/

namespace ChainScript

/-- A value. `absent` is the lack of a result and differs from the empty text and from zero. The
fields of a map are in ascending order of their names, each name once; `Value.ofFields` sees to
that. -/
inductive Value where
  | absent
  | str (text : String)
  | number (x : Float)
  | bool (b : Bool)
  | list (items : List Value)
  | map (fields : List (String × Value))

/-- A value under a name. -/
abbrev Binding := String × Value

/-- Bindings in ascending order of their names. -/
abbrev Bindings := Catalogue (Prod.fst : Binding → String)

namespace Value

instance : Inhabited Value := ⟨absent⟩

/-- The map with the listed fields, of which the last with a name counts. -/
def ofFields (fields : List Binding) : Value :=
  map (Catalogue.ofList Prod.fst fields).entries

/-- There is no result. -/
def isAbsent : Value → Bool
  | absent => true
  | _ => false

theorem isAbsent_iff {v : Value} : v.isAbsent = true ↔ v = absent := by
  cases v <;> simp [isAbsent]

/-- Absent values and the empty text never win a compound step. -/
def isVacant : Value → Bool
  | absent => true
  | str text => text.isEmpty
  | _ => false

/-- The text, if the value is one. -/
def text? : Value → Option String
  | str text => some text
  | _ => none

/-- The number, if the value is one. -/
def number? : Value → Option Float
  | number x => some x
  | _ => none

/-- The number that the value is, or that its text reads as between blanks. -/
def toNumber? : Value → Option Float
  | number x => some x
  | str text => Decimal.readFloat? (Text.trim text.toList)
  | _ => none

/-- The items of a list. -/
def items? : Value → Option (List Value)
  | list items => some items
  | _ => none

/-- The fields of a map. -/
def fields? : Value → Option (List Binding)
  | map fields => some fields
  | _ => none

/-- The field of a map with the given name. -/
def field? (v : Value) (name : String) : Option Value :=
  v.fields?.bind (List.lookup name)

/-! ### Showing values -/

mutual

/-- The text of a value. Inside a list or a map a text is quoted and an absent value is named. -/
def render (inside : Bool) : Value → String
  | absent => if inside then "absent" else ""
  | str text => if inside then String.ofList (Text.quoted text.toList) else text
  | number x => String.ofList (Decimal.write x)
  | bool b => if b then "true" else "false"
  | list items => "[" ++ ", ".intercalate (renderItems items) ++ "]"
  | map fields => Text.braced (", ".intercalate (renderFields fields))

/-- The texts of the items of a list. -/
def renderItems : List Value → List String
  | [] => []
  | item :: rest => render true item :: renderItems rest

/-- The texts of the fields of a map. The names are not quoted. -/
def renderFields : List Binding → List String
  | [] => []
  | (name, value) :: rest => (name ++ ": " ++ render true value) :: renderFields rest

end

/-- The text of a value that stands by itself. -/
def display (v : Value) : String :=
  v.render false

/-! ### Sameness -/

mutual

/-- The values are the same, where numbers are compared as numbers: the two zeros are the same and
the result of an undefined operation is not the same as itself. -/
def same : Value → Value → Bool
  | absent, absent => true
  | str s, str t => s == t
  | number x, number y => x == y
  | bool b, bool c => b == c
  | list xs, list ys => sameItems xs ys
  | map xs, map ys => sameFields xs ys
  | _, _ => false

/-- The lists have the same items in the same order. -/
def sameItems : List Value → List Value → Bool
  | [], [] => true
  | x :: xs, y :: ys => same x y && sameItems xs ys
  | _, _ => false

/-- The maps have the same names with the same values. -/
def sameFields : List Binding → List Binding → Bool
  | [], [] => true
  | (n, x) :: xs, (m, y) :: ys => n == m && same x y && sameFields xs ys
  | _, _ => false

end

/-! ### Combining values -/

/-- The sum of the numbers. The empty sum is the negative zero, which adds nothing to any number. -/
def sum (xs : List Float) : Float :=
  xs.foldl (· + ·) (-0.0)

/-- What several results amount to together. Absent ones do not count; numbers are added, texts are
joined, and otherwise the first result stands for all. -/
def combine (results : List Value) : Value :=
  let present := results.filter fun v => !v.isAbsent
  match present with
  | [] => absent
  | first :: _ =>
    match present.mapM number? with
    | some xs => number (sum xs)
    | none =>
      match present.mapM text? with
      | some texts => str (String.join texts)
      | none => first

end Value

end ChainScript
