import ChainScript.Proofs.Trim
import Mathlib.Data.List.TakeDrop

/-!
# What is found where text is cut

A text that was put together around a character is taken apart there again if the character does not
stand elsewhere. Texts between commas and blanks are found again as the pieces or the words.
-/

namespace ChainScript.Text

/-! ### The first and the last place -/

lemma breakAt?_append {c : Char} {s : List Char} (h : c ∉ s) (t : List Char) :
    breakAt? c (s ++ c :: t) = some (s, t) := by
  induction s with
  | nil => rw [List.nil_append, breakAt?, if_pos rfl]
  | cons d s ih =>
    rw [List.mem_cons, not_or] at h
    rw [List.cons_append, breakAt?, if_neg (Ne.symm h.1), ih h.2, Option.map_some]

lemma breakAt?_eq_none_iff {c : Char} {t : List Char} : breakAt? c t = none ↔ c ∉ t := by
  constructor
  · intro h hmem
    obtain ⟨s, r, rfl, hs⟩ := List.eq_append_cons_of_mem hmem
    rw [breakAt?_append hs] at h
    cases h
  · intro h
    rw [Option.eq_none_iff_forall_ne_some]
    rintro ⟨before, after⟩ hbreak
    apply h
    rw [(eq_append_of_breakAt? hbreak).1]
    simp

lemma beforeLast?_append {c : Char} {t : List Char} (h : c ∉ t) (s : List Char) :
    beforeLast? c (s ++ c :: t) = some s := by
  have hreverse : c ∉ t.reverse := by simpa using h
  rw [beforeLast?, List.reverse_append, List.reverse_cons, List.append_assoc,
    List.singleton_append, breakAt?_append hreverse, Option.map_some]
  simp

lemma stripEnd?_append (text ending : List Char) :
    stripEnd? ending (text ++ ending) = some text := by
  rw [stripEnd?, List.reverse_append, stripStart?_append, Option.map_some, List.reverse_reverse]

lemma breakAtBlank_append {s : List Char} (h : ∀ c ∈ s, isBlank c = false) {b : Char}
    (hb : isBlank b = true) (t : List Char) : breakAtBlank (s ++ b :: t) = (s, b :: t) := by
  have hs : ∀ c ∈ s, (!isBlank c) = true := by simpa using h
  rw [breakAtBlank, List.span_eq_takeWhile_dropWhile, List.takeWhile_append_of_pos hs,
    List.dropWhile_append_of_pos hs]
  simp [hb]

/-! ### Pieces and words -/

variable {p : Char → Bool} {s : List Char}

lemma pieces_eq_splitOnP (p : Char → Bool) (text : List Char) :
    pieces p text = text.splitOnP p := by
  induction text with
  | nil => rfl
  | cons c rest ih =>
    rw [pieces, List.splitOnP_cons_eq_if_modifyHead, ← ih]
    split
    · rfl
    · cases hrest : pieces p rest with
      | nil => exact absurd hrest (pieces_ne_nil p rest)
      | cons piece more => rfl

lemma pieces_of_forall (h : ∀ c ∈ s, p c = false) : pieces p s = [s] := by
  rw [pieces_eq_splitOnP, List.splitOnP_eq_singleton h]

lemma pieces_append_cons (h : ∀ c ∈ s, p c = false) {c : Char} (hc : p c = true) (t : List Char) :
    pieces p (s ++ c :: t) = s :: pieces p t := by
  rw [pieces_eq_splitOnP, List.splitOnP_append_cons_of_forall_mem h c hc, ← pieces_eq_splitOnP]

@[simp] lemma words_nil (p : Char → Bool) : words p [] = [] := by
  simp [words, pieces]

lemma words_cons {c : Char} (hc : p c = true) (t : List Char) : words p (c :: t) = words p t := by
  rw [words, ← List.nil_append (c :: t), pieces_append_cons (by simp) hc]
  simp [words]

/-- A word ends where a separator comes. -/
lemma words_append_cons (hne : s ≠ []) (h : ∀ c ∈ s, p c = false) {c : Char} (hc : p c = true)
    (t : List Char) : words p (s ++ c :: t) = s :: words p t := by
  rw [words, pieces_append_cons h hc]
  simp [words, hne]

end ChainScript.Text
