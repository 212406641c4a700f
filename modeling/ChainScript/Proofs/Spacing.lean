import ChainScript.Decimal.Dyadic
import ChainScript.Proofs.Merging
import Mathlib.Algebra.Order.Field.Rat
import Mathlib.Algebra.Order.Group.Abs
import Mathlib.Data.Set.Finite.Lemmas

/-!
# Merging keeps entries apart and keeps the best

What merging keeps is judged where numbers are exact: each entry has a place and a residual in an
ordered field, or in any ordered group, and the comparisons agree with these. An entry that takes the
place of another has a higher place and a smaller residual. So the last entry only moves away from
the entries before it, and whatever gives way leaves something better behind.
-/

namespace ChainScript

namespace Comparisons

variable {α K : Type} [AddCommGroup K] [LinearOrder K] {c : Comparisons α}
  {place residual : α → K} {distance : K} {entries : List α}

/-- The comparisons of the entries agree with exact places and residuals: places ascend in the order
in which entries are sorted, entries are near each other if their places are closer together than the
distance, and the better entry is the one with the smaller residual. -/
structure ReadIn (c : Comparisons α) (place residual : α → K) (distance : K) (entries : List α) :
    Prop where
  place_le : ∀ a ∈ entries, ∀ b ∈ entries, c.before a b = true → place a ≤ place b
  near_iff : ∀ a ∈ entries, ∀ b ∈ entries, c.near a b = true ↔ |place b - place a| < distance
  better_iff : ∀ a ∈ entries, ∀ b ∈ entries, c.better a b = true ↔ residual a < residual b

/-- Entries that are compared by exact places and residuals to begin with. -/
def exact (place residual : α → K) (distance : K) : Comparisons α where
  before a b := place a ≤ place b
  near a b := |place b - place a| < distance
  better a b := residual a < residual b
  trans := key_trans place
  total := key_total place

lemma readIn_exact (place residual : α → K) (distance : K) (entries : List α) :
    (exact place residual distance).ReadIn place residual distance entries where
  place_le _ _ _ _ := of_decide_eq_true
  near_iff _ _ _ _ := decide_eq_true_iff
  better_iff _ _ _ _ := decide_eq_true_iff

namespace ReadIn

lemma subset {others : List α} (h : c.ReadIn place residual distance entries)
    (hsub : others ⊆ entries) : c.ReadIn place residual distance others where
  place_le a ha b hb := h.place_le a (hsub ha) b (hsub hb)
  near_iff a ha b hb := h.near_iff a (hsub ha) b (hsub hb)
  better_iff a ha b hb := h.better_iff a (hsub ha) b (hsub hb)

/-! ### Residuals -/

variable {last : α} {rest : List α}

/-- Of two entries the one that is kept is no worse than both. -/
lemma residual_better_le (h : c.ReadIn place residual distance entries) {next : α}
    (hlast : last ∈ entries) (hnext : next ∈ entries) :
    residual (if c.better next last then next else last) ≤ residual last ∧
      residual (if c.better next last then next else last) ≤ residual next := by
  have hbetter := h.better_iff next hnext last hlast
  split_ifs with hif
  · exact ⟨(hbetter.mp hif).le, le_rfl⟩
  · rw [hbetter, not_lt] at hif
    exact ⟨le_rfl, hif⟩

lemma best_mergeFrom (h : c.ReadIn place residual distance (last :: rest)) :
    ∀ a ∈ last :: rest, ∃ k ∈ mergeFrom c.near c.better last rest, residual k ≤ residual a := by
  fun_induction mergeFrom c.near c.better last rest with
  | case1 last =>
    intro a ha
    exact ⟨a, ha, le_rfl⟩
  | case2 last next rest _ ih =>
    have hkept := ih (h.subset (better_sublist c.better last next rest).subset)
    have hmem : last ∈ last :: next :: rest ∧ next ∈ last :: next :: rest := by simp
    obtain ⟨hlast, hnext⟩ := h.residual_better_le hmem.1 hmem.2
    obtain ⟨k, hk, hle⟩ := hkept _ (List.mem_cons_self ..)
    intro a ha
    rcases List.mem_cons.mp ha with rfl | ha
    · exact ⟨k, hk, hle.trans hlast⟩
    · rcases List.mem_cons.mp ha with rfl | ha
      · exact ⟨k, hk, hle.trans hnext⟩
      · exact hkept a (List.mem_cons_of_mem _ ha)
  | case3 last next rest _ ih =>
    intro a ha
    rcases List.mem_cons.mp ha with rfl | ha
    · exact ⟨a, List.mem_cons_self .., le_rfl⟩
    · obtain ⟨k, hk, hle⟩ := ih (h.subset (List.subset_cons_self _ _)) a ha
      exact ⟨k, List.mem_cons_of_mem _ hk, hle⟩

/-! ### Places -/

lemma apart_mergeFrom [IsOrderedAddMonoid K] (h : c.ReadIn place residual distance (last :: rest))
    (hsorted : (last :: rest).Pairwise fun a b => place a ≤ place b) :
    (mergeFrom c.near c.better last rest).Pairwise fun a b => distance ≤ place b - place a := by
  fun_induction mergeFrom c.near c.better last rest with
  | case1 last => exact List.pairwise_singleton _ last
  | case2 last next rest _ ih =>
    have hsub := better_sublist c.better last next rest
    exact ih (h.subset hsub.subset) (hsorted.sublist hsub)
  | case3 last next rest hnear ih =>
    obtain ⟨hlast, hrest⟩ := List.pairwise_cons.mp hsorted
    have hkept := mergeFrom_sublist c.near c.better next rest
    refine List.pairwise_cons.mpr ⟨?_, ih (h.subset (List.subset_cons_self _ _)) hrest⟩
    intro k hk
    -- what is kept after the last entry comes no earlier than the next one
    have hnext : place next ≤ place k := by
      rcases List.mem_cons.mp (hkept.subset hk) with rfl | hk
      · exact le_rfl
      · exact List.rel_of_pairwise_cons hrest hk
    have hfar : distance ≤ |place next - place last| := by
      rw [h.near_iff last (by simp) next (by simp), not_lt] at hnear
      exact hnear
    calc distance ≤ |place next - place last| := hfar
      _ = place next - place last := abs_of_nonneg (sub_nonneg.mpr (hlast next (by simp)))
      _ ≤ place k - place last := sub_le_sub_right hnext _

/-! ### Merging as a whole -/

lemma sorted (h : c.ReadIn place residual distance entries) :
    c.ReadIn place residual distance (c.sorted entries) :=
  h.subset (c.perm_sorted entries).subset

lemma pairwise_sorted (h : c.ReadIn place residual distance entries) :
    (c.sorted entries).Pairwise fun a b => place a ≤ place b :=
  (c.pairwise_sorted entries).imp_of_mem fun ha hb => h.sorted.place_le _ ha _ hb

lemma apart_merge [IsOrderedAddMonoid K] (h : c.ReadIn place residual distance entries) :
    (c.merge entries).Pairwise fun a b => distance ≤ place b - place a := by
  have hread := h.sorted
  have hascending := h.pairwise_sorted
  rw [merge]
  cases hsorted : c.sorted entries with
  | nil => exact List.Pairwise.nil
  | cons first rest =>
    rw [hsorted] at hread hascending
    exact hread.apart_mergeFrom hascending

lemma best_merge (h : c.ReadIn place residual distance entries) {a : α} (ha : a ∈ entries) :
    ∃ k ∈ c.merge entries, residual k ≤ residual a := by
  have hread := h.sorted
  have hmem := (c.perm_sorted entries).mem_iff.mpr ha
  rw [merge]
  cases hsorted : c.sorted entries with
  | nil =>
    rw [hsorted] at hmem
    cases hmem
  | cons first rest =>
    rw [hsorted] at hread hmem
    exact hread.best_mergeFrom a hmem

lemma exists_best_merge (h : c.ReadIn place residual distance entries) (hne : entries ≠ []) :
    ∃ k ∈ c.merge entries, ∀ a ∈ entries, residual k ≤ residual a := by
  obtain ⟨b, hb, hbest⟩ := Set.exists_min_image {a | a ∈ entries} residual
    (List.finite_toSet entries) (List.exists_mem_of_ne_nil entries hne)
  obtain ⟨k, hk, hle⟩ := h.best_merge hb
  exact ⟨k, hk, fun a ha => hle.trans (hbest a ha)⟩

lemma merge_merge [IsOrderedAddMonoid K]
    (h : c.ReadIn place residual distance entries) :
    c.merge (c.merge entries) = c.merge entries := by
  have hkept : ∀ a ∈ c.merge entries, a ∈ entries := fun a ha => c.mem_of_mem_merge ha
  rw [merge, sorted_merge]
  refine mergeNear_of_pairwise _ _ (h.apart_merge.imp_of_mem fun {a b} ha hb hle => ?_)
  rw [Bool.eq_false_iff, Ne, h.near_iff a (hkept a ha) b (hkept b hb), not_lt]
  exact hle.trans (le_abs_self _)

end ReadIn

/-- Whatever places, residuals and distance there are, entries can be compared by them. Comparisons
that agree with them merge the entries as follows. Some of the entries are kept, in the order of
their places. Any two of them are at least the distance apart. For each entry one is kept that is no
worse, so that a best one is always kept, and merging once more changes nothing. -/
theorem merge_keeps_apart_and_best [IsOrderedAddMonoid K] (place residual : α → K) (distance : K)
    (entries : List α) :
    (exact place residual distance).ReadIn place residual distance entries ∧
      ∀ c : Comparisons α, c.ReadIn place residual distance entries →
        (c.sorted entries).Perm entries ∧
        (c.sorted entries).Pairwise (fun a b => place a ≤ place b) ∧
        (c.merge entries).Sublist (c.sorted entries) ∧
        (c.merge entries).Pairwise (fun a b => distance ≤ |place a - place b|) ∧
        (∀ a ∈ entries, ∃ k ∈ c.merge entries, residual k ≤ residual a) ∧
        (entries ≠ [] → ∃ k ∈ c.merge entries, ∀ a ∈ entries, residual k ≤ residual a) ∧
        c.merge (c.merge entries) = c.merge entries := by
  refine ⟨readIn_exact place residual distance entries, fun c h => ?_⟩
  refine ⟨c.perm_sorted entries, h.pairwise_sorted, c.merge_sublist entries, ?_,
    fun a ha => h.best_merge ha, h.exists_best_merge, h.merge_merge⟩
  refine h.apart_merge.imp fun {a b} hle => ?_
  rw [abs_sub_comm]
  exact hle.trans (le_abs_self _)

end Comparisons

namespace Cluster

/-- The number that a finite floating-point number stands for. -/
def value (x : Float) : ℚ :=
  let m := Decimal.magnitude x
  let size := mkRat (m.mantissa * 2 ^ m.exponent.toNat) (2 ^ (-m.exponent).toNat)
  if Decimal.isNegative x then -size else size

/-- A zero, one `2 ^ -27` above it that is better, one `2 ^ -20` above it that is worse, and one far
away. -/
def zeros : List Zero :=
  [⟨0.5, 2, 1e-6, false⟩, ⟨0.5, 7, 1e-12, true⟩, ⟨0.5, 2.00000095367431640625, 1e-5, false⟩,
    ⟨0.5, 2.000000007450580596923828125, 1e-11, true⟩]

theorem merge_keeps_apart_and_best_cluster :
    (Zero.comparisons 1e-6).ReadIn (fun z => value z.imaginary) (fun z => value z.residual)
        (value 1e-6) zeros ∧
      (Zero.merge 1e-6 zeros).Sublist ((Zero.comparisons 1e-6).sorted zeros) ∧
      (Zero.merge 1e-6 zeros).Pairwise
        (fun a b => value 1e-6 ≤ |value a.imaginary - value b.imaginary|) ∧
      (∀ a ∈ zeros, ∃ k ∈ Zero.merge 1e-6 zeros, value k.residual ≤ value a.residual) ∧
      (∃ k ∈ Zero.merge 1e-6 zeros, ∀ a ∈ zeros, value k.residual ≤ value a.residual) ∧
      Zero.merge 1e-6 (Zero.merge 1e-6 zeros) = Zero.merge 1e-6 zeros := by
  have hread : (Zero.comparisons 1e-6).ReadIn (fun z => value z.imaginary)
      (fun z => value z.residual) (value 1e-6) zeros :=
    ⟨by decide +kernel, by decide +kernel, by decide +kernel⟩
  obtain ⟨-, -, hkept, hapart, hbest, hleast, hagain⟩ :=
    (Comparisons.merge_keeps_apart_and_best (fun z => value z.imaginary)
      (fun z : Zero => value z.residual) (value 1e-6) zeros).2 _ hread
  exact ⟨hread, hkept, hapart, hbest, hleast (List.cons_ne_nil _ _), hagain⟩

end Cluster

end ChainScript
