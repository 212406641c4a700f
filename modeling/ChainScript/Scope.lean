import ChainScript.Value

/-!
# Scopes

The names visible at a point of an execution. A scope has bindings of its own and those of the
scopes around it. Reading falls through to the scopes around; writing changes the scope's own
bindings only.
-/

namespace ChainScript

/-- Own bindings, and those of the scopes around from the inside to the outside. -/
structure Scope where
  own : Bindings
  outer : List Bindings

namespace Scope

/-- The scope that stands alone and binds nothing. -/
def empty : Scope := { own := .empty, outer := [] }

instance : Inhabited Scope := ⟨empty⟩

/-- The scope that stands alone with the given bindings. -/
def ofBindings (own : Bindings) : Scope := { own, outer := [] }

/-- A new scope inside this one. -/
def child (s : Scope) : Scope :=
  { own := .empty, outer := s.own :: s.outer }

/-- The scope around this one. -/
def parent? (s : Scope) : Option Scope :=
  match s.outer with
  | [] => none
  | own :: outer => some { own, outer }

/-- All bindings from the inside to the outside. -/
def layers (s : Scope) : List Bindings :=
  s.own :: s.outer

/-- The value that a name has in the innermost of the layers that bind it. -/
def lookup (layers : List Bindings) (name : String) : Option Value :=
  layers.findSome? fun layer => (layer.find? name).map Prod.snd

/-- The value of a name. -/
def get? (s : Scope) (name : String) : Option Value :=
  lookup s.layers name

/-- The name has a value, which may be absent. -/
def contains (s : Scope) (name : String) : Bool :=
  (s.get? name).isSome

/-- The value of a name, absent if there is none. -/
def value (s : Scope) (name : String) : Value :=
  (s.get? name).getD .absent

/-- Binds a name in the scope itself. -/
def set (s : Scope) (name : String) (value : Value) : Scope :=
  { s with own := s.own.insert (name, value) }

/-- Binds a name in the scope itself unless it has a value already. -/
def setIfUnbound (s : Scope) (name : String) (value : Value) : Scope :=
  if s.contains name then s else s.set name value

/-- Binds each of the names to the same value. -/
def setAll (s : Scope) (names : List String) (value : Value) : Scope :=
  names.foldl (fun s name => s.set name value) s

/-- Binds those of the names that have no value to the same value. -/
def setAllIfUnbound (s : Scope) (names : List String) (value : Value) : Scope :=
  names.foldl (fun s name => s.setIfUnbound name value) s

/-- The value of the first of the names that has one which is not absent. -/
def firstOf? (s : Scope) (names : List String) : Option Value :=
  (names.filterMap s.get?).find? fun v => !v.isAbsent

/-- The names bound in the scope itself, in ascending order. -/
def ownNames (s : Scope) : List String :=
  s.own.keys

/-- One set of bindings with the values of all visible names. -/
def visible (s : Scope) : Bindings :=
  s.layers.foldr (fun layer around => layer.entries.foldl Catalogue.insert around) .empty

/-- The visible names in ascending order. -/
def names (s : Scope) : List String :=
  s.visible.keys

/-! ### Reading after writing -/

theorem get?_eq (s : Scope) (name : String) :
    s.get? name = ((s.own.find? name).map Prod.snd).or (lookup s.outer name) := by
  simp only [get?, layers, lookup, List.findSome?_cons]
  cases (s.own.find? name).map Prod.snd <;> rfl

@[simp]
theorem get?_empty (name : String) : empty.get? name = none := rfl

@[simp]
theorem get?_child (s : Scope) (name : String) : s.child.get? name = s.get? name := by
  rw [get?_eq]
  rfl

@[simp]
theorem parent?_child (s : Scope) : s.child.parent? = some s := rfl

theorem get?_set (s : Scope) (name other : String) (value : Value) :
    (s.set name value).get? other = if name = other then some value else s.get? other := by
  rw [get?_eq, get?_eq]
  simp only [set, Catalogue.find?_insert]
  by_cases hname : name = other <;> simp [hname]

@[simp]
theorem get?_set_self (s : Scope) (name : String) (value : Value) :
    (s.set name value).get? name = some value := by
  simp [get?_set]

theorem get?_set_of_ne (s : Scope) {name other : String} (value : Value) (h : name ≠ other) :
    (s.set name value).get? other = s.get? other := by
  simp [get?_set, h]

theorem get?_setIfUnbound (s : Scope) (name other : String) (value : Value) :
    (s.setIfUnbound name value).get? other =
      if name = other then some ((s.get? other).getD value) else s.get? other := by
  rw [setIfUnbound]
  split
  · next hbound =>
    rw [contains, Option.isSome_iff_exists] at hbound
    obtain ⟨v, hv⟩ := hbound
    by_cases hname : name = other
    · subst hname
      simp [hv]
    · simp [hname]
  · next hunbound =>
    rw [contains, Option.not_isSome_iff_eq_none] at hunbound
    rw [get?_set]
    by_cases hname : name = other
    · subst hname
      simp [hunbound]
    · simp [hname]

@[simp]
theorem outer_set (s : Scope) (name : String) (value : Value) :
    (s.set name value).outer = s.outer := rfl

end Scope

end ChainScript
