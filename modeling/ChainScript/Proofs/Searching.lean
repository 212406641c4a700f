import ChainScript.Proofs.Merging

/-!
# What a search for zeros reports

Whatever the arithmetic gives, a zero is reported with the residual and the flag that belong to the
point where it ends up: a candidate is made only after its refinement, and merging keeps candidates
as they are. Merging also keeps them in order, and leaves none only where there was none.
-/

namespace ChainScript

/-- The pairs of neighbours in a list stand there one after the other. -/
lemma mem_zip_tail_iff {α : Type} {a b : α} {l : List α} :
    (a, b) ∈ l.zip l.tail ↔ [a, b] <:+: l := by
  induction l with
  | nil => simp
  | cons first rest ih =>
    cases rest with
    | nil =>
      refine iff_of_false List.not_mem_nil fun h => ?_
      exact absurd h.length_le (by simp)
    | cons second rest =>
      rw [List.tail_cons, List.zip_cons_cons, List.mem_cons, List.infix_cons_iff]
      refine or_congr ?_ ih
      simp

namespace Series

variable {f : Series} {settings : Search} {r : Stretch}

/-- The zeros before they are merged: each guess where its refinement ends. -/
def candidates (f : Series) (settings : Search) (r : Stretch) : List Zero :=
  (guesses settings (f.samples settings r)).map fun guess =>
    f.zeroAt settings (f.refine settings r settings.steps guess)

/-- The zero is reported as the series says at its point. -/
structure Reports (f : Series) (settings : Search) (z : Zero) : Prop where
  real : z.real = settings.realPart
  residual : z.residual = (f.evaluate ⟨z.real, z.imaginary⟩).norm
  converged : z.converged = true ↔ z.residual < settings.tolerance

lemma reports_zeroAt (f : Series) (settings : Search) (t : Float) :
    f.Reports settings (f.zeroAt settings t) where
  real := rfl
  residual := rfl
  converged := decide_eq_true_iff

lemma findZeros_eq (h : f.isDegenerate = false) :
    f.findZeros settings r = Zero.merge settings.merge (f.candidates settings r) := by
  rw [findZeros, if_neg (by simp [h]), candidates]

lemma length_samples (f : Series) (settings : Search) (r : Stretch) :
    (f.samples settings r).length = max settings.samples 2 := by
  simp [samples, sampleParts]

/-- There is at most one guess at each sample and one between two neighbours. -/
lemma length_guesses_le (settings : Search) (samples : List (Float × Point)) :
    (guesses settings samples).length ≤ samples.length + (samples.length - 1) := by
  rw [guesses, List.length_append, List.length_map]
  refine Nat.add_le_add (List.length_filter_le _ _) ?_
  refine (List.length_filterMap_le _ _).trans ?_
  rw [List.length_zip, List.length_tail]
  exact Nat.min_le_right _ _

/-- There is a guess just when a sample vanishes or there is a crossing between neighbours. -/
lemma guesses_ne_nil_iff {samples : List (Float × Point)} :
    guesses settings samples ≠ [] ↔
      (∃ sample ∈ samples, vanishes settings sample = true) ∨
        ∃ a b, [a, b] <:+: samples ∧ (crossing? settings a b).isSome = true := by
  rw [guesses, Ne, List.append_eq_nil_iff, not_and_or]
  refine or_congr ?_ ?_
  · simp
  · simp only [List.filterMap_eq_nil_iff, Prod.forall, mem_zip_tail_iff, not_forall,
      Option.ne_none_iff_isSome, exists_prop, Prod.exists]

/-- A series that does not vanish everywhere is searched with consistent results: each zero is on
the line, with the residual of its point and the flag that belongs to it; they are in ascending
order; there are at most as many as samples and gaps between these; and there is one just when some
sample vanishes or there is a crossing between two neighbouring samples. -/
theorem findZeros_consistent (settings : Search) (r : Stretch) (h : f.isDegenerate = false) :
    (∀ z ∈ f.findZeros settings r, f.Reports settings z) ∧
      (f.findZeros settings r).Pairwise (fun a b => rank a.imaginary ≤ rank b.imaginary) ∧
      (f.findZeros settings r).length ≤ 2 * max settings.samples 2 - 1 ∧
      (f.findZeros settings r ≠ [] ↔
        (∃ sample ∈ f.samples settings r, vanishes settings sample = true) ∨
          ∃ a b, [a, b] <:+: f.samples settings r ∧ (crossing? settings a b).isSome = true) := by
  rw [findZeros_eq h]
  refine ⟨fun z hz => ?_, Zero.pairwise_merge _ _, ?_, ?_⟩
  · obtain ⟨guess, -, rfl⟩ := List.mem_map.mp (Zero.mem_of_mem_merge hz)
    exact reports_zeroAt f settings _
  · have hguesses := length_guesses_le settings (f.samples settings r)
    rw [length_samples] at hguesses
    calc (Zero.merge settings.merge (f.candidates settings r)).length
        ≤ (f.candidates settings r).length := Zero.length_merge_le
      _ = (guesses settings (f.samples settings r)).length := List.length_map _
      _ ≤ max settings.samples 2 + (max settings.samples 2 - 1) := hguesses
      _ = 2 * max settings.samples 2 - 1 := by omega
  · rw [Ne, Zero.merge_eq_nil_iff, candidates, List.map_eq_nil_iff]
    exact guesses_ne_nil_iff

end Series

namespace Cosine

/-- On the line with real part one half, a multiple of a cosine. -/
def series : Series := .ofSpectrum [1]

def settings : Search := { samples := 8 }

def stretch : Stretch := ⟨0, 10⟩

theorem findZeros_consistent_cosine : series.isDegenerate = false ∧
    (∀ z ∈ series.findZeros settings stretch, series.Reports settings z) ∧
      (series.findZeros settings stretch).Pairwise
        (fun a b => rank a.imaginary ≤ rank b.imaginary) ∧
      (series.findZeros settings stretch).length ≤ 2 * max settings.samples 2 - 1 ∧
      (series.findZeros settings stretch ≠ [] ↔
        (∃ sample ∈ series.samples settings stretch,
          Series.vanishes settings sample = true) ∨
          ∃ a b, [a, b] <:+: series.samples settings stretch ∧
            (Series.crossing? settings a b).isSome = true) := by
  have h : series.isDegenerate = false := by decide +kernel
  exact ⟨h, Series.findZeros_consistent settings stretch h⟩

end Cosine

end ChainScript
