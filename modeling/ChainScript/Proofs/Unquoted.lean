import ChainScript.Proofs.Grammar

/-!
# Texts without quotes

Where no quote stands in a text, both ways of splitting cut it at the same places. Then nothing but a
power of ten can keep a plus sign within an alternative. Only the text before the sign and one
character after it decide, so that the whole alternative need not be a number: more than digits may
follow, and the number before may have a power of ten already.
-/

namespace ChainScript

open Text Decimal.Numeral

/-! ### Both ways of splitting -/

namespace Separator

variable {s : Separator} {piece text : List Char}

lemma splitQuotedFrom_of_unquoted (h : ∀ c ∈ text, Lexeme.isQuote c = false) :
    s.splitQuotedFrom none piece text = some (s.splitPlainFrom piece text) := by
  -- no quote opens, so the parts of a piece that have been passed stay the same
  induction piece, text using scan_induction s with
  | nil piece => rw [splitQuotedFrom_nil, splitPlainFrom_nil]
  | cut piece text after hcut ih =>
    have hopen : ∀ c ∈ text.head?, (Lexeme.isQuote c && allBlank piece) = false := by
      intro c hc
      rw [h c (List.mem_of_head? hc), Bool.false_and]
    have hafter : ∀ c ∈ after, Lexeme.isQuote c = false := by
      intro c hc
      apply h
      rw [eq_append_of_cut? hcut]
      exact List.mem_append_right _ hc
    rw [splitQuotedFrom_cut hopen hcut, splitPlainFrom_cut hcut, ih hafter, Option.map_some]
  | skip piece c rest hcut ih =>
    obtain ⟨hc, hrest⟩ := List.forall_mem_cons.mp h
    have hopen : (Lexeme.isQuote c && allBlank piece) = false := by rw [hc, Bool.false_and]
    rw [splitQuotedFrom_skip hopen hcut, splitPlainFrom_skip hcut, ih hrest]

/-- Heeding quotes makes no difference to a text that has none: it does split the text, and it gives
the same pieces. -/
theorem splitQuoted_eq_splitPlain (s : Separator) (h : ∀ c ∈ text, Lexeme.isQuote c = false) :
    s.splitQuoted text = some (s.splitPlain text) :=
  splitQuotedFrom_of_unquoted h

/-- Signs of powers of ten beside signs that are none, and arrows that share their dashes. -/
theorem splitQuoted_eq_splitPlain_mixed :
    (∀ c ∈ "1e+2e+3 + .e+4->+-.5E+6-->>x+".toList, Lexeme.isQuote c = false) ∧
      plus.splitQuoted "1e+2e+3 + .e+4->+-.5E+6-->>x+".toList =
        some (plus.splitPlain "1e+2e+3 + .e+4->+-.5E+6-->>x+".toList) ∧
      arrow.splitQuoted "1e+2e+3 + .e+4->+-.5E+6-->>x+".toList =
        some (arrow.splitPlain "1e+2e+3 + .e+4->+-.5E+6-->>x+".toList) := by
  have h : ∀ c ∈ "1e+2e+3 + .e+4->+-.5E+6-->>x+".toList, Lexeme.isQuote c = false :=
    Chain.bare_of_all (by decide)
  exact ⟨h, splitQuoted_eq_splitPlain plus h, splitQuoted_eq_splitPlain arrow h⟩

lemma split_of_unquoted (h : ∀ c ∈ text, Lexeme.isQuote c = false) :
    s.split text = s.splitPlain text := by
  rw [split, splitQuoted, splitQuotedFrom_of_unquoted h, Option.getD_some, splitPlain]

/-! ### Plus signs -/

variable {m u w x t : List Char} {e : Char}

/-- After minus signs a digit or a point comes after no other sign. -/
lemma dropWhile_isSign_eq (h : Lexeme.startsNumber (m.dropWhile (· == '-')) = true) :
    m.dropWhile Lexeme.isSign = m.dropWhile (· == '-') := by
  induction m with
  | nil => rfl
  | cons c r ih =>
    by_cases hc : c = '-'
    · subst hc
      exact ih h
    · have hdrop : (c :: r).dropWhile (· == '-') = c :: r :=
        List.dropWhile_cons_of_neg (by simpa using hc)
      rw [hdrop] at h ⊢
      have hstart : c.isDigit = true ∨ c = '.' := by simpa [Lexeme.startsNumber] using h
      rw [List.dropWhile_cons_of_neg]
      rw [Lexeme.isSign_eq_false hstart]
      exact Bool.false_ne_true

/-- What may stand before the sign of a power of ten is a number that does not start with a plus
sign, and an `e`. -/
lemma exists_of_isMantissa (h : isMantissa x = true) :
    ∃ u e, x = u ++ [e] ∧ (e = 'e' ∨ e = 'E') ∧ Lexeme.isNumeral u = true ∧
      u.head? ≠ some '+' := by
  obtain ⟨e, hlast, he, hpower⟩ : ∃ e, x.getLast? = some e ∧ (e = 'e' ∨ e = 'E') ∧
      (Lexeme.startsNumber (x.dropLast.dropWhile (· == '-')) &&
        Decimal.isNumber x.dropLast) = true := by
    rw [isMantissa] at h
    split at h
    · next hlast => exact ⟨'e', hlast, Or.inl rfl, h⟩
    · next hlast => exact ⟨'E', hlast, Or.inr rfl, h⟩
    · cases h
  obtain ⟨hstart, hnumber⟩ := Bool.and_eq_true_iff.mp hpower
  refine ⟨x.dropLast, e, (List.dropLast_append_getLast? e hlast).symm, he, ?_, ?_⟩
  · rw [← dropWhile_isSign_eq hstart] at hstart
    exact Lexeme.isNumeral_iff.mpr (Lexeme.isWritten_of_isNumber hstart hnumber)
  · intro hplus
    obtain ⟨r, hr⟩ := List.head?_eq_some_iff.mp hplus
    rw [hr] at hstart
    cases hstart

/-- A plus sign at which a text is not cut stands after a mantissa and before a digit. -/
lemma of_uncut_plus (htrimmed : Trimmed t) (h : plus.Uncut [] t) (ht : t = x ++ '+' :: w) :
    isMantissa x = true ∧ ∃ d ∈ w.head?, d.isDigit = true := by
  have hcut : plus.cut? x ('+' :: w) = none := h x ('+' :: w) ht (List.cons_ne_nil _ _)
  have hends : plus.ends x w = false := by
    rw [cut?, Option.filter_eq_none_iff] at hcut
    exact Bool.of_not_eq_true (hcut w rfl)
  rw [ends, Bool.not_eq_false', Bool.and_eq_true, Option.any_eq_true] at hends
  have hleft : trimLeft x = x := by
    cases x with
    | nil => rfl
    | cons c r => exact trimLeft_cons_of_not_blank (htrimmed.1 c (by rw [ht]; rfl)) r
  rw [hleft] at hends
  exact ⟨hends.2, hends.1⟩

/-- A number, an `e`, a plus sign and more are a number just when there is no power of ten before
the `e` and nothing but digits after the plus sign. -/
lemma isNumeral_power_iff (hu : Lexeme.isNumeral u = true) (hplus : u.head? ≠ some '+')
    (he : e = 'e' ∨ e = 'E') : Lexeme.isNumeral (u ++ [e] ++ '+' :: w) = true ↔
      ('e' ∉ u ∧ 'E' ∉ u) ∧ allDigits w = true := by
  constructor
  · intro h
    have hhead : (u ++ [e] ++ '+' :: w).head? ≠ some '+' := by
      cases u with
      | nil => cases hu
      | cons c r => exact hplus
    obtain ⟨sign, m, d, hsign, hm, -, heq, hw⟩ := exists_power_of_plus h hhead
    obtain ⟨rfl, -⟩ := List.append_inj' heq rfl
    have hpower : ∀ c, c = 'e' ∨ c = 'E' → c ∉ sign ++ m := by
      intro c hc hmem
      obtain ⟨hdigit, hpoint, hminus⟩ : c.isDigit = false ∧ c ≠ '.' ∧ c ≠ '-' := by
        rcases hc with rfl | rfl <;> decide
      rcases List.mem_append.mp hmem with hmem | hmem
      · rcases hsign with rfl | rfl
        · cases hmem
        · exact hminus (List.mem_singleton.mp hmem)
      · exact hm.not_mem hdigit hpoint hmem
    exact ⟨⟨hpower 'e' (Or.inl rfl), hpower 'E' (Or.inr rfl)⟩, hw⟩
  · rintro ⟨hpower, hw⟩
    obtain ⟨sign, v, hs, ⟨m, f, hm, hf, rfl⟩, rfl⟩ := Lexeme.isNumeral_iff.mp hu
    rcases hf with _ | @⟨d, es, digits, hd, -, -⟩
    · have hwritten : IsWritten (m ++ e :: (['+'] ++ w)) :=
        ⟨m, _, hm, .power he (Or.inr (Or.inl rfl)) hw, rfl⟩
      simpa using Lexeme.isNumeral_of_isWritten hs hwritten
    · have hmem : d ∈ sign ++ (m ++ d :: (es ++ digits)) := by simp
      rcases hd with rfl | rfl
      · exact absurd hmem hpower.1
      · exact absurd hmem hpower.2

end Separator

/-! ### Alternatives -/

namespace Chain

open Separator

lemma uncut_of_mem_alternatives {t a : String} (h : ∀ c ∈ t.toList, Lexeme.isQuote c = false)
    (ha : a ∈ alternatives t) : Trimmed a.toList ∧ plus.Uncut [] a.toList := by
  rw [alternatives, splitAlternatives, split_of_unquoted h, List.map_map] at ha
  obtain ⟨p, hp, rfl⟩ := List.mem_map.mp ha
  rw [Function.comp_apply, String.toList_ofList]
  exact ⟨trimmed_trim p, (uncut_of_mem_splitPlain hp).trim⟩

/-- In a step without quotes, a plus sign that stands within an alternative comes after a number and
an `e`, and a digit comes after it. The alternative is a number itself just when the number before
the sign has no power of ten and only digits come after the sign. -/
theorem plus_within_alternative {t a : String} {x w : List Char}
    (hquotes : ∀ c ∈ t.toList, Lexeme.isQuote c = false) (ha : a ∈ alternatives t)
    (hplus : a.toList = x ++ '+' :: w) :
    ∃ u e, x = u ++ [e] ∧ (e = 'e' ∨ e = 'E') ∧ Lexeme.category u = .number ∧
      (∃ d ∈ w.head?, d.isDigit = true) ∧
      (Lexeme.category a.toList = .number ↔ ('e' ∉ u ∧ 'E' ∉ u) ∧ allDigits w = true) := by
  obtain ⟨htrimmed, huncut⟩ := uncut_of_mem_alternatives hquotes ha
  obtain ⟨hmantissa, hdigit⟩ := of_uncut_plus htrimmed huncut hplus
  obtain ⟨u, e, rfl, he, hu, hhead⟩ := exists_of_isMantissa hmantissa
  refine ⟨u, e, rfl, he, Lexeme.category_of_isNumeral hu, hdigit, ?_⟩
  rw [Lexeme.category_eq_number_iff, hplus]
  exact isNumeral_power_iff hu hhead he

/-- A number between alternatives that are none. -/
theorem plus_within_alternative_between :
    (∀ c ∈ "tree+2 + -2.5E+3 + 1e+".toList, Lexeme.isQuote c = false) ∧
      "-2.5E+3" ∈ alternatives "tree+2 + -2.5E+3 + 1e+" ∧
      "-2.5E+3".toList = "-2.5E".toList ++ '+' :: "3".toList ∧
      ∃ u e, "-2.5E".toList = u ++ [e] ∧ (e = 'e' ∨ e = 'E') ∧ Lexeme.category u = .number ∧
        (∃ d ∈ "3".toList.head?, d.isDigit = true) ∧
        (Lexeme.category "-2.5E+3".toList = .number ↔
          ('e' ∉ u ∧ 'E' ∉ u) ∧ allDigits "3".toList = true) := by
  have hquotes : ∀ c ∈ "tree+2 + -2.5E+3 + 1e+".toList, Lexeme.isQuote c = false :=
    bare_of_all (by decide)
  have ha : "-2.5E+3" ∈ alternatives "tree+2 + -2.5E+3 + 1e+" := by decide +kernel
  have hplus : "-2.5E+3".toList = "-2.5E".toList ++ '+' :: "3".toList := by decide +kernel
  exact ⟨hquotes, ha, hplus, plus_within_alternative hquotes ha hplus⟩

/-- A letter after the power of ten keeps the plus sign in an alternative that is no number. -/
theorem plus_within_no_number :
    (∀ c ∈ "1e+2x".toList, Lexeme.isQuote c = false) ∧ "1e+2x" ∈ alternatives "1e+2x" ∧
      '+' ∈ "1e+2x".toList ∧ Lexeme.category "1e+2x".toList ≠ .number := by
  refine ⟨bare_of_all (by decide), ?_, by decide, ?_⟩
  · decide +kernel
  · decide +kernel

end Chain

end ChainScript
