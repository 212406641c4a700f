import ChainScript.Series.Zeros
import Mathlib.Data.List.Sort
import Mathlib.Tactic.Lemma
import Mathlib.Tactic.SplitIfs

/-!
# Merging entries that are near each other

Going through the entries never makes one up and never changes their order: an entry takes the place
of the one kept last, or comes after it. The first entry always leaves one behind. This is so however
entries are compared; zeros are compared by their imaginary parts and by their residuals.
-/

namespace ChainScript

section

variable {α : Type} (near better : α → α → Bool)

/-- The better one of two entries and what follows them. -/
lemma better_sublist (last next : α) (rest : List α) :
    ((if better next last then next else last) :: rest).Sublist (last :: next :: rest) := by
  split_ifs
  · exact List.sublist_cons_self last (next :: rest)
  · exact (List.sublist_cons_self next rest).cons_cons last

lemma mergeFrom_sublist (last : α) (rest : List α) :
    (mergeFrom near better last rest).Sublist (last :: rest) := by
  fun_induction mergeFrom near better last rest with
  | case1 last => exact List.Sublist.refl _
  | case2 last next rest _ ih => exact ih.trans (better_sublist better last next rest)
  | case3 last next rest _ ih => exact ih.cons_cons last

lemma mergeFrom_ne_nil (last : α) (rest : List α) : mergeFrom near better last rest ≠ [] := by
  fun_induction mergeFrom near better last rest with
  | case1 last => exact List.cons_ne_nil _ _
  | case2 last next rest _ ih => exact ih
  | case3 last next rest _ _ => exact List.cons_ne_nil _ _

lemma mergeNear_sublist (entries : List α) : (mergeNear near better entries).Sublist entries := by
  cases entries with
  | nil => exact List.Sublist.refl _
  | cons first rest => exact mergeFrom_sublist near better first rest

lemma mergeNear_eq_nil_iff {entries : List α} :
    mergeNear near better entries = [] ↔ entries = [] := by
  cases entries with
  | nil => exact iff_of_true rfl rfl
  | cons first rest =>
    exact iff_of_false (mergeFrom_ne_nil near better first rest) (List.cons_ne_nil _ _)

/-- Entries of which none is near an earlier one stay as they are. -/
lemma mergeNear_of_pairwise {entries : List α}
    (h : entries.Pairwise fun a b => near a b = false) : mergeNear near better entries = entries := by
  cases entries with
  | nil => rfl
  | cons first rest =>
    rw [mergeNear]
    induction rest generalizing first with
    | nil => rfl
    | cons next rest ih =>
      obtain ⟨hfirst, hrest⟩ := List.pairwise_cons.mp h
      rw [mergeFrom, hfirst next (List.mem_cons_self ..), if_neg Bool.false_ne_true, ih next hrest]

lemma mergeNear_of_not_near (h : ∀ a b, near a b = false) (entries : List α) :
    mergeNear near better entries = entries :=
  mergeNear_of_pairwise near better (List.pairwise_of_forall h)

/-! ### Sorting by a key -/

variable {L : Type} [LinearOrder L]

lemma key_trans (key : α → L) (a b c : α) (hab : decide (key a ≤ key b) = true)
    (hbc : decide (key b ≤ key c) = true) : decide (key a ≤ key c) = true :=
  decide_eq_true ((of_decide_eq_true hab).trans (of_decide_eq_true hbc))

lemma key_total (key : α → L) (a b : α) :
    (decide (key a ≤ key b) || decide (key b ≤ key a)) = true := by
  rw [Bool.or_eq_true, decide_eq_true_iff, decide_eq_true_iff]
  exact le_total (key a) (key b)

end

/-- How entries are compared when they are merged: the order in which they are sorted, which of them
lie near each other, and which is the better of two. -/
structure Comparisons (α : Type) where
  before : α → α → Bool
  near : α → α → Bool
  better : α → α → Bool
  trans : ∀ a b c, before a b = true → before b c = true → before a c = true
  total : ∀ a b, (before a b || before b a) = true

namespace Comparisons

variable {α : Type}

/-- The entries in the order in which they are merged. -/
def sorted (c : Comparisons α) (entries : List α) : List α :=
  entries.mergeSort c.before

/-- The entries in their order, merged where they are near each other. -/
def merge (c : Comparisons α) (entries : List α) : List α :=
  mergeNear c.near c.better (c.sorted entries)

variable (c : Comparisons α) (entries : List α)

lemma perm_sorted : (c.sorted entries).Perm entries :=
  List.mergeSort_perm _ _

lemma pairwise_sorted : (c.sorted entries).Pairwise fun a b => c.before a b = true :=
  List.pairwise_mergeSort c.trans c.total entries

lemma merge_sublist : (c.merge entries).Sublist (c.sorted entries) :=
  mergeNear_sublist _ _ _

/-- Merged entries are in their order. -/
lemma pairwise_merge : (c.merge entries).Pairwise fun a b => c.before a b = true :=
  (c.pairwise_sorted entries).sublist (c.merge_sublist entries)

lemma sorted_merge : c.sorted (c.merge entries) = c.merge entries :=
  List.mergeSort_of_pairwise (c.pairwise_merge entries)

lemma length_merge_le : (c.merge entries).length ≤ entries.length :=
  (c.merge_sublist entries).length_le.trans_eq (c.perm_sorted entries).length_eq

variable {entries}

lemma mem_of_mem_merge {a : α} (h : a ∈ c.merge entries) : a ∈ entries :=
  (c.perm_sorted entries).mem_iff.mp ((c.merge_sublist entries).subset h)

lemma merge_eq_nil_iff : c.merge entries = [] ↔ entries = [] := by
  rw [merge, mergeNear_eq_nil_iff, sorted, ← List.length_eq_zero_iff, List.length_mergeSort,
    List.length_eq_zero_iff]

/-- Nothing is lost where no entry is near another. -/
lemma merge_perm {c : Comparisons α} (h : ∀ a b, c.near a b = false) (entries : List α) :
    (c.merge entries).Perm entries := by
  rw [merge, mergeNear_of_not_near _ _ h]
  exact c.perm_sorted entries

end Comparisons

namespace Zero

/-- Zeros are compared by their imaginary parts and by their residuals. -/
def comparisons (distance : Float) : Comparisons Zero where
  before a b := rank a.imaginary ≤ rank b.imaginary
  near := near distance
  better := better
  trans := key_trans fun z : Zero => rank z.imaginary
  total := key_total fun z : Zero => rank z.imaginary

lemma merge_eq (distance : Float) (zeros : List Zero) :
    merge distance zeros = (comparisons distance).merge zeros := rfl

variable {distance : Float} {zeros : List Zero}

lemma mem_of_mem_merge {z : Zero} (h : z ∈ merge distance zeros) : z ∈ zeros := by
  rw [merge_eq] at h
  exact (comparisons distance).mem_of_mem_merge h

/-- Merged zeros are in ascending order. -/
lemma pairwise_merge (distance : Float) (zeros : List Zero) :
    (merge distance zeros).Pairwise fun a b => rank a.imaginary ≤ rank b.imaginary := by
  rw [merge_eq]
  exact ((comparisons distance).pairwise_merge zeros).imp of_decide_eq_true

lemma length_merge_le : (merge distance zeros).length ≤ zeros.length := by
  rw [merge_eq]
  exact (comparisons distance).length_merge_le zeros

lemma merge_eq_nil_iff : merge distance zeros = [] ↔ zeros = [] := by
  rw [merge_eq]
  exact (comparisons distance).merge_eq_nil_iff

end Zero

end ChainScript
