import ChainScript.Proofs.Comparing
import ChainScript.Proofs.Searching

/-!
# Zeros outside the stretch

A Newton step ends in the stretch that is searched, so a guess that is refined at all ends there. A
guess at which no step is taken is reported where it is, and guesses are not kept in the stretch:
the last sample may lie above it, for the length of the stretch is rounded, and so may a crossing.
-/

namespace ChainScript

open Comparison

namespace Stretch

variable {r : Stretch}

/-- The number lies in the stretch. -/
def Holds (r : Stretch) (t : Float) : Prop :=
  r.low ≤ t ∧ t ≤ r.high

instance (r : Stretch) (t : Float) : Decidable (r.Holds t) :=
  inferInstanceAs (Decidable (_ ∧ _))

lemma larger_cases {low : Float} (hlow : low.isNaN = false) (t : Float) :
    larger t low = low ∨ larger t low = t ∧ t.isNaN = false ∧ low ≤ t := by
  rw [larger]
  split_ifs with ht hnan hlt
  · exact Or.inl rfl
  · rw [hlow] at hnan
    cases hnan
  · exact Or.inl rfl
  · have hnumber : t.isNaN = false := Bool.of_not_eq_true ht
    exact Or.inr ⟨rfl, hnumber, le_of_not_lt hnumber hlow hlt⟩

lemma smaller_cases {t high : Float} (ht : t.isNaN = false) (hhigh : high.isNaN = false) :
    smaller t high = high ∨ smaller t high = t ∧ t ≤ high := by
  rw [smaller, if_neg ((Bool.not_eq_true _).mpr ht), if_neg ((Bool.not_eq_true _).mpr hhigh)]
  split_ifs with hlt
  · exact Or.inl rfl
  · exact Or.inr ⟨rfl, le_of_not_lt hhigh ht hlt⟩

lemma holds_clamp (h : r.low ≤ r.high) (t : Float) : r.Holds (r.clamp t) := by
  obtain ⟨hlow, hhigh⟩ := isNaN_of_le h
  have hlarger : (larger t r.low).isNaN = false ∧ r.low ≤ larger t r.low := by
    rcases larger_cases hlow t with heq | ⟨heq, ht, hle⟩
    · rw [heq]
      exact ⟨hlow, le_refl hlow⟩
    · rw [heq]
      exact ⟨ht, hle⟩
  rw [Holds, clamp]
  rcases smaller_cases hlarger.1 hhigh with heq | ⟨heq, hle⟩
  · rw [heq]
    exact ⟨h, le_refl hhigh⟩
  · rw [heq]
    exact ⟨hlarger.2, hle⟩

end Stretch

lemma Zero.near_eq_false {distance : Float} (h : ¬ 0 < distance) (a b : Zero) :
    near distance a b = false :=
  decide_eq_false fun hnear => h (zero_lt_of_abs_lt hnear)

lemma Zero.merge_perm {distance : Float} (h : ¬ 0 < distance) (zeros : List Zero) :
    (merge distance zeros).Perm zeros := by
  rw [merge_eq]
  exact Comparisons.merge_perm (near_eq_false h) zeros

namespace Series

variable {f : Series} {settings : Search} {r : Stretch}

/-- Where a Newton step from an imaginary part leads before it is kept in the stretch, if one is
taken there. -/
def newton? (f : Series) (settings : Search) (t : Float) : Option Float :=
  let s := onLine settings t
  let value := f.evaluate s
  let slope := f.derivative s
  let next := t - (value / slope).im
  if value.norm < settings.tolerance then none
  else if slope.norm < flat then none
  else if next.isFinite then some next
  else none

/-- The refinement takes no step at a guess. -/
def Rests (f : Series) (settings : Search) (t : Float) : Prop :=
  settings.steps = 0 ∨ f.newton? settings t = none

lemma refine_succ (steps : Nat) (t : Float) :
    f.refine settings r (steps + 1) t =
      (f.newton? settings t).elim t fun next => f.refine settings r steps (r.clamp next) := by
  rw [refine, newton?]
  dsimp only
  split_ifs <;> rfl

/-- A refinement ends in the stretch or never leaves the guess. -/
lemma holds_refine_or (h : r.low ≤ r.high) (steps : Nat) (t : Float) :
    r.Holds (f.refine settings r steps t) ∨
      f.refine settings r steps t = t ∧ (steps = 0 ∨ f.newton? settings t = none) := by
  -- after a step the next guess is in the stretch, whether or not it is refined further
  induction steps generalizing t with
  | zero => exact Or.inr ⟨rfl, Or.inl rfl⟩
  | succ steps ih =>
    rw [refine_succ]
    cases hnewton : f.newton? settings t with
    | none => exact Or.inr ⟨rfl, Or.inr rfl⟩
    | some next =>
      rcases ih (r.clamp next) with hholds | ⟨hstays, -⟩
      · exact Or.inl hholds
      · left
        rw [Option.elim_some, hstays]
        exact Stretch.holds_clamp h next

lemma refine_of_rests {t : Float} (h : f.Rests settings t) :
    f.refine settings r settings.steps t = t := by
  rcases h with hsteps | hnewton
  · rw [hsteps]
    rfl
  · cases settings.steps with
    | zero => rfl
    | succ steps =>
      rw [refine_succ, hnewton]
      rfl

lemma mem_candidates_iff {z : Zero} :
    z ∈ f.candidates settings r ↔ ∃ guess ∈ guesses settings (f.samples settings r),
      f.zeroAt settings (f.refine settings r settings.steps guess) = z :=
  List.mem_map

/-- All candidates lie in the stretch just when the guesses do at which nothing is refined. -/
lemma holds_candidates_iff (h : r.low ≤ r.high) :
    (∀ z ∈ f.candidates settings r, r.Holds z.imaginary) ↔
      ∀ guess ∈ guesses settings (f.samples settings r),
        f.Rests settings guess → r.Holds guess := by
  constructor
  · intro hcandidates guess hguess hrests
    have hholds := hcandidates _ (mem_candidates_iff.mpr ⟨guess, hguess, rfl⟩)
    rwa [zeroAt, refine_of_rests hrests] at hholds
  · intro hguesses z hz
    obtain ⟨guess, hguess, rfl⟩ := mem_candidates_iff.mp hz
    rcases holds_refine_or h settings.steps guess with hholds | ⟨hstays, hrests⟩
    · exact hholds
    · rw [zeroAt, hstays]
      exact hguesses guess hguess hrests

/-- In a stretch that is not upside down, a zero is reported outside only where it was guessed and
no step was taken, which takes a series that does not vanish everywhere. Where no two zeros are
merged, this is exact: all zeros lie in the stretch just when all those guesses do. -/
theorem findZeros_outside (f : Series) (settings : Search) (h : r.low ≤ r.high) :
    (∀ z ∈ f.findZeros settings r, r.Holds z.imaginary ∨
      f.isDegenerate = false ∧ z.imaginary ∈ guesses settings (f.samples settings r) ∧
        f.Rests settings z.imaginary) ∧
      (f.isDegenerate = false → ¬ 0 < settings.merge →
        ((∀ z ∈ f.findZeros settings r, r.Holds z.imaginary) ↔
          ∀ guess ∈ guesses settings (f.samples settings r),
            f.Rests settings guess → r.Holds guess)) := by
  refine ⟨fun z hz => ?_, fun hdegenerate hmerge => ?_⟩
  · cases hdegenerate : f.isDegenerate with
    | true =>
      rw [findZeros, if_pos hdegenerate, List.mem_singleton] at hz
      subst hz
      exact Or.inl (Stretch.holds_clamp h 0)
    | false =>
      rw [findZeros_eq hdegenerate] at hz
      obtain ⟨guess, hguess, rfl⟩ := mem_candidates_iff.mp (Zero.mem_of_mem_merge hz)
      rcases holds_refine_or h settings.steps guess with hholds | ⟨hstays, hrests⟩
      · exact Or.inl hholds
      · rw [zeroAt, hstays]
        exact Or.inr ⟨rfl, hguess, hrests⟩
  · rw [findZeros_eq hdegenerate, ← holds_candidates_iff h]
    exact forall_congr' fun z => imp_congr_left (Zero.merge_perm hmerge _).mem_iff

/-- A sample that vanishes is reported where it is, wherever that may be. -/
lemma zeroAt_mem_findZeros {t : Float} (hdegenerate : f.isDegenerate = false)
    (hmerge : ¬ 0 < settings.merge) (ht : t ∈ sampleParts settings r)
    (h : (f.evaluate (onLine settings t)).norm < settings.tolerance) :
    f.zeroAt settings t ∈ f.findZeros settings r := by
  have hguess : t ∈ guesses settings (f.samples settings r) := by
    refine List.mem_append_left _ (List.mem_map.mpr ⟨(t, f.evaluate (onLine settings t)), ?_, rfl⟩)
    exact List.mem_filter.mpr ⟨List.mem_map.mpr ⟨t, ht, rfl⟩, decide_eq_true h⟩
  have hrests : f.Rests settings t := Or.inr (if_pos h)
  rw [findZeros_eq hdegenerate, (Zero.merge_perm hmerge _).mem_iff]
  exact mem_candidates_iff.mpr ⟨t, hguess, by rw [refine_of_rests hrests]⟩

end Series

namespace Overshoot

/-- A stretch so long that its length is rounded up to a multiple of `2 ^ -9`. -/
def stretch : Stretch := ⟨-9e12, 1961236.0815⟩

/-- Two samples, at the ends, whose distance is the rounded length. -/
def settings : Search := { samples := 2, merge := 0 }

def series : Series := .ofSpectrum [1]

theorem findZeros_outside_overshoot :
    stretch.low ≤ stretch.high ∧ series.isDegenerate = false ∧ ¬ 0 < settings.merge ∧
      (∀ z ∈ series.findZeros settings stretch, stretch.Holds z.imaginary ∨
        series.isDegenerate = false ∧
          z.imaginary ∈ Series.guesses settings (series.samples settings stretch) ∧
          series.Rests settings z.imaginary) ∧
      ((∀ z ∈ series.findZeros settings stretch, stretch.Holds z.imaginary) ↔
        ∀ guess ∈ Series.guesses settings (series.samples settings stretch),
          series.Rests settings guess → stretch.Holds guess) := by
  have h : stretch.low ≤ stretch.high := by decide +kernel
  have hdegenerate : series.isDegenerate = false := by decide +kernel
  have hmerge : ¬ 0 < settings.merge := by decide +kernel
  obtain ⟨houtside, hexact⟩ := Series.findZeros_outside series settings h
  exact ⟨h, hdegenerate, hmerge, houtside, hexact hdegenerate hmerge⟩

/-- The last sample, less than `2 ^ -10` above the stretch. -/
def top : Float := 1961236.08203125

/-- If the series almost vanishes at the last sample, a zero is reported above the stretch. -/
theorem exists_zero_outside : stretch.low ≤ stretch.high ∧
    ((series.evaluate (Series.onLine settings top)).norm < settings.tolerance →
      ∃ z ∈ series.findZeros settings stretch,
        z.converged = true ∧ ¬ stretch.Holds z.imaginary) := by
  refine ⟨by decide +kernel, fun h => ?_⟩
  have hparts : Series.sampleParts settings stretch = [stretch.low, top] := by decide +kernel
  have htop : top ∈ Series.sampleParts settings stretch := by
    rw [hparts]
    exact List.mem_cons_of_mem _ (List.mem_singleton_self _)
  have houtside : ¬ stretch.Holds top := by decide +kernel
  have hreports := Series.reports_zeroAt series settings top
  refine ⟨series.zeroAt settings top, ?_, hreports.converged.mpr h, houtside⟩
  exact Series.zeroAt_mem_findZeros (by decide +kernel) (by decide +kernel) htop h

end Overshoot

end ChainScript
