/-!
# Catalogues

A catalogue holds entries by a key that each entry carries, in ascending order of the keys and at
most one for a key. The order is part of the type, so two catalogues with the same entries are
equal however they came about. Voices, definitions, primitives and bindings are kept this way.
-/

namespace ChainScript

/-- Entries in ascending order of their keys, with no key twice. -/
structure Catalogue {α : Type} (key : α → String) where
  entries : List α
  sorted : entries.Pairwise (key · < key ·)

namespace Catalogue

variable {α : Type} {key : α → String}

@[ext]
theorem ext {c d : Catalogue key} (h : c.entries = d.entries) : c = d := by
  cases c
  cases d
  cases h
  rfl

/-- The catalogue without entries. -/
def empty : Catalogue key := ⟨[], .nil⟩

instance : Inhabited (Catalogue key) := ⟨empty⟩

/-- The entry with the given key. -/
def find? (c : Catalogue key) (k : String) : Option α :=
  c.entries.find? (key · = k)

/-- There is an entry with the given key. -/
def contains (c : Catalogue key) (k : String) : Bool :=
  (c.find? k).isSome

/-- The keys in ascending order. -/
def keys (c : Catalogue key) : List String :=
  c.entries.map key

/-- The number of entries. -/
def size (c : Catalogue key) : Nat :=
  c.entries.length

/-- Puts an entry at its place among ordered entries, instead of the one with the same key. -/
def place (key : α → String) (a : α) : List α → List α
  | [] => [a]
  | b :: rest =>
    if key a < key b then a :: b :: rest
    else if key a = key b then a :: rest
    else b :: place key a rest

theorem mem_place {a b : α} {entries : List α} (h : b ∈ place key a entries) :
    b = a ∨ b ∈ entries := by
  induction entries with
  | nil => simpa [place] using h
  | cons e rest ih =>
    simp only [place] at h
    split at h
    · simpa using h
    · split at h
      · simp only [List.mem_cons] at h ⊢
        exact h.imp_right .inr
      · simp only [List.mem_cons] at h ⊢
        rcases h with h | h
        · exact .inr (.inl h)
        · exact (ih h).imp_right .inr

theorem lt_of_not_lt_of_ne {a b : String} (hnlt : ¬ a < b) (hne : a ≠ b) : b < a :=
  Decidable.byContradiction fun hngt =>
    hne (String.le_antisymm (String.not_lt.mp hngt) (String.not_lt.mp hnlt))

theorem pairwise_place {a : α} {entries : List α} (h : entries.Pairwise (key · < key ·)) :
    (place key a entries).Pairwise (key · < key ·) := by
  induction entries with
  | nil => simp [place]
  | cons e rest ih =>
    obtain ⟨hfirst, hlater⟩ := List.pairwise_cons.mp h
    simp only [place]
    split
    · next hlt =>
      refine List.pairwise_cons.mpr ⟨fun b hb => ?_, h⟩
      rcases List.mem_cons.mp hb with rfl | hb
      · exact hlt
      · exact String.lt_trans hlt (hfirst b hb)
    · next hnlt =>
      split
      · next hkey => exact List.pairwise_cons.mpr ⟨fun b hb => hkey ▸ hfirst b hb, hlater⟩
      · next hne =>
        refine List.pairwise_cons.mpr ⟨fun b hb => ?_, ih hlater⟩
        rcases mem_place hb with rfl | hb
        · exact lt_of_not_lt_of_ne hnlt hne
        · exact hfirst b hb

/-- Adds an entry, instead of the one with the same key if there is one. -/
def insert (c : Catalogue key) (a : α) : Catalogue key :=
  ⟨place key a c.entries, pairwise_place c.sorted⟩

/-- The catalogue of the listed entries, of which the last with a key counts. -/
def ofList (key : α → String) (entries : List α) : Catalogue key :=
  entries.foldl insert empty

/-! ### Lookup -/

@[simp]
theorem find?_empty (k : String) : (empty : Catalogue key).find? k = none := rfl

theorem key_of_find? {c : Catalogue key} {k : String} {a : α} (h : c.find? k = some a) :
    key a = k := by
  simpa using List.find?_some h

theorem mem_of_find? {c : Catalogue key} {k : String} {a : α} (h : c.find? k = some a) :
    a ∈ c.entries :=
  List.mem_of_find?_eq_some h

theorem find?_place {a : α} {entries : List α} (h : entries.Pairwise (key · < key ·)) (k : String) :
    (place key a entries).find? (key · = k) =
      if key a = k then some a else entries.find? (key · = k) := by
  induction entries with
  | nil => by_cases hk : key a = k <;> simp [place, hk]
  | cons e rest ih =>
    obtain ⟨_, hlater⟩ := List.pairwise_cons.mp h
    simp only [place]
    split
    · by_cases hk : key a = k <;> simp [List.find?_cons, hk]
    · split
      · next hkey => by_cases hk : key a = k <;> simp [← hkey, hk]
      · next hne =>
        by_cases hk : key a = k
        · have : key e ≠ k := fun he => hne (hk.trans he.symm)
          simp [this, ih hlater, hk]
        · simp [List.find?_cons, ih hlater, hk]

/-- Insertion changes what is found under one key only. -/
theorem find?_insert (c : Catalogue key) (a : α) (k : String) :
    (c.insert a).find? k = if key a = k then some a else c.find? k :=
  find?_place c.sorted k

@[simp]
theorem find?_insert_self (c : Catalogue key) (a : α) : (c.insert a).find? (key a) = some a := by
  simp [find?_insert]

/-- Of ordered entries that are added one after the other, the one with the key is found, and
otherwise what was there before. -/
theorem find?_foldl_insert {entries : List α} (h : entries.Pairwise (key · < key ·))
    (c : Catalogue key) (k : String) :
    (entries.foldl insert c).find? k = (entries.find? (key · = k)).or (c.find? k) := by
  induction entries generalizing c with
  | nil => rfl
  | cons e rest ih =>
    obtain ⟨hfirst, hlater⟩ := List.pairwise_cons.mp h
    rw [List.foldl_cons, ih hlater, find?_insert]
    by_cases hk : key e = k
    · have hnone : rest.find? (key · = k) = none := by
        rw [List.find?_eq_none]
        intro b hb hkey
        have hlt := hfirst b hb
        rw [hk, of_decide_eq_true hkey] at hlt
        exact String.lt_irrefl _ hlt
      simp [hk, hnone]
    · simp [hk]

theorem find?_eq_none_iff {c : Catalogue key} {k : String} : c.find? k = none ↔ k ∉ c.keys := by
  simp only [find?, keys, List.find?_eq_none, List.mem_map, decide_eq_true_eq]
  exact ⟨fun h ⟨a, ha, hk⟩ => h a ha hk, fun h a ha hk => h ⟨a, ha, hk⟩⟩

theorem contains_iff {c : Catalogue key} {k : String} : c.contains k = true ↔ k ∈ c.keys := by
  rw [contains, Option.isSome_iff_ne_none, Ne, find?_eq_none_iff, Decidable.not_not]

end Catalogue

end ChainScript
