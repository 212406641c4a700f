import ChainScript.Proofs.ChainText
import Mathlib.Data.List.Forall2

/-!
# Splitting again what was split

The steps of a chain text, written as a chain, are read as the same steps, and so are the
alternatives of a step. This holds for every text. Where all quotes are closed, each piece is passed
over when it is met again. Where a quote stays open, the text is split at all separators, and what
counts is that it stays open: the pieces between all separators tell this, whatever blanks there are
around them.
-/

namespace ChainScript

open Text

/-! ### Quotes in numbers -/

namespace Decimal

lemma isQuote_eq_false_of_readUnsigned? {t : List Char} (h : (readUnsigned? t).isSome = true) :
    ∀ c ∈ t, Lexeme.isQuote c = false := by
  intro c hc
  rw [readUnsigned?] at h
  cases hr : Numeral.read? t with
  | some n =>
    have hwritten : Numeral.IsWritten t := Numeral.read?_isSome_iff.mp (by rw [hr]; rfl)
    exact (Numeral.isNumberChar_of_isWritten hwritten c hc).plain.1
  | none =>
    have hlower : c.toLower ∈ t.map Char.toLower := List.mem_map_of_mem hc
    rw [Bool.eq_false_iff]
    intro hquote
    have hsame : c.toLower = c := by
      rcases Lexeme.isQuote_iff.mp hquote with rfl | rfl <;> decide
    rw [hsame] at hlower
    simp only [hr, readWord?] at h
    split_ifs at h with hinf hnan
    · rcases hinf with hinf | hinf <;> rw [hinf] at hlower <;>
        rcases Lexeme.isQuote_iff.mp hquote with rfl | rfl <;> revert hlower <;> decide
    · rw [hnan] at hlower
      rcases Lexeme.isQuote_iff.mp hquote with rfl | rfl <;> revert hlower <;> decide
    · cases h

/-- No number is written with quotes. -/
lemma isQuote_eq_false_of_isNumber {t : List Char} (h : isNumber t = true) :
    ∀ c ∈ t, Lexeme.isQuote c = false := by
  rw [isNumber] at h
  unfold readFloat? at h
  split at h
  · intro c hc
    rcases List.mem_cons.mp hc with rfl | hc
    · decide
    · exact isQuote_eq_false_of_readUnsigned? h c hc
  · intro c hc
    rw [Option.isSome_map] at h
    rcases List.mem_cons.mp hc with rfl | hc
    · decide
    · exact isQuote_eq_false_of_readUnsigned? h c hc
  · exact isQuote_eq_false_of_readUnsigned? h

end Decimal

namespace Separator

variable {s : Separator} {quote : Option Char} {piece text : List Char}

lemma isQuote_eq_false_of_isMantissa (h : isMantissa piece = true) :
    ∀ c ∈ piece, Lexeme.isQuote c = false := by
  have hlast : ∀ e, piece.getLast? = some e → Lexeme.isQuote e = false →
      Decimal.isNumber piece.dropLast = true → ∀ c ∈ piece, Lexeme.isQuote c = false := by
    intro e he hquote hnumber c hc
    rw [← List.dropLast_append_getLast? e he] at hc
    rcases List.mem_append.mp hc with hc | hc
    · exact Decimal.isQuote_eq_false_of_isNumber hnumber c hc
    · rw [List.mem_singleton.mp hc]
      exact hquote
  rw [isMantissa] at h
  split at h
  · next he => exact hlast 'e' he (by decide) (Bool.and_eq_true_iff.mp h).2
  · next he => exact hlast 'E' he (by decide) (Bool.and_eq_true_iff.mp h).2
  · cases h

/-- A separator ends every piece that has a quote in it. -/
lemma ends_of_mem {q : Char} (hq : Lexeme.isQuote q = true) (hmem : q ∈ piece)
    (s : Separator) (after : List Char) : s.ends piece after = true := by
  cases s with
  | arrow => rfl
  | plus =>
    have hleft : q ∈ trimLeft piece := by
      have hall : q ∈ piece.takeWhile isBlank ++ trimLeft piece := by
        rw [trimLeft, List.takeWhile_append_dropWhile]
        exact hmem
      rcases List.mem_append.mp hall with hblank | hleft
      · have hblank := List.mem_takeWhile_imp hblank
        rw [Lexeme.isBlank_of_isQuote hq] at hblank
        cases hblank
      · exact hleft
    have hmantissa : isMantissa (trimLeft piece) = false := by
      rw [Bool.eq_false_iff]
      intro h
      rw [isQuote_eq_false_of_isMantissa h q hleft] at hq
      cases hq
    simp [ends, hmantissa]

/-! ### Open quotes -/

/-- The quote that is open after a piece between separators, from the one that is open before it. A
quote opens at the start of a piece only. -/
def openAfter : Option Char → List Char → Option Char
  | some q, piece => if q ∈ piece then none else some q
  | none, piece =>
    match trimLeft piece with
    | [] => none
    | c :: rest => if Lexeme.isQuote c = true ∧ c ∉ rest then some c else none

@[simp] lemma openAfter_nil (quote : Option Char) : openAfter quote [] = quote := by
  cases quote <;> simp [openAfter]

lemma openAfter_concat (quote : Option Char) (piece : List Char) (c : Char) :
    openAfter quote (piece ++ [c]) =
      match openAfter quote piece with
      | some q => if c = q then none else some q
      | none =>
        if Lexeme.isQuote c = true ∧ quote = none ∧ allBlank piece = true then some c else none := by
  cases quote with
  | some q =>
    by_cases hmem : q ∈ piece
    · simp [openAfter, hmem]
    · by_cases hc : c = q
      · simp [openAfter, hmem, hc]
      · simp [openAfter, hmem, hc, Ne.symm hc]
  | none =>
    cases hleft : trimLeft piece with
    | nil =>
      have hblank := trimLeft_eq_nil_iff.mp hleft
      rw [openAfter, trimLeft_append_of_allBlank hblank, openAfter, hleft]
      by_cases hc : Lexeme.isQuote c = true
      · rw [trimLeft_cons_of_not_blank (Lexeme.isBlank_of_isQuote hc)]
        simp [hc, hblank]
      · cases hb : isBlank c with
        | true => simp [hc, trimLeft, hb]
        | false => simp [hc, trimLeft, hb]
    | cons d rest =>
      have hblank : allBlank piece ≠ true := by
        rw [Ne, ← trimLeft_eq_nil_iff, hleft]
        simp
      have hconcat : trimLeft (piece ++ [c]) = d :: (rest ++ [c]) := by
        rw [trimLeft, List.dropWhile_append, ← trimLeft, hleft]
        rfl
      rw [openAfter, hconcat, openAfter, hleft]
      by_cases hd : Lexeme.isQuote d = true ∧ d ∉ rest
      · by_cases hc : c = d
        · simp [hd, hc]
        · have hc' : ¬ d = c := fun h => hc h.symm
          simp [hd, hc, hc']
      · have hd' : ¬ (Lexeme.isQuote d = true ∧ d ∉ rest ++ [c]) :=
          fun h => hd ⟨h.1, fun hmem => h.2 (List.mem_append_left _ hmem)⟩
        dsimp only
        rw [if_neg hd, if_neg hd']
        simp [hblank]

/-- Only quotes are ever open. -/
lemma isQuote_of_openAfter (hquote : ∀ q ∈ quote, Lexeme.isQuote q = true) :
    ∀ q ∈ openAfter quote piece, Lexeme.isQuote q = true := by
  intro q hq
  cases quote with
  | some q' =>
    rw [openAfter] at hq
    split_ifs at hq
    · cases hq
    · exact hquote q hq
  | none =>
    rw [openAfter] at hq
    split at hq
    · cases hq
    · split_ifs at hq with hopen
      · rw [← Option.mem_some_iff.mp hq]
        exact hopen.1
      · cases hq

lemma mem_trimRight_iff {c : Char} (hc : isBlank c = false) {t : List Char} :
    c ∈ trimRight t ↔ c ∈ t := by
  obtain ⟨e, he, ht⟩ := exists_trimRight t
  constructor
  · intro h
    rw [ht]
    exact List.mem_append_left _ h
  · intro h
    rw [ht] at h
    rcases List.mem_append.mp h with h | h
    · exact h
    · rw [allBlank_iff.mp he c h] at hc
      cases hc

lemma mem_trimLeft_iff {c : Char} (hc : isBlank c = false) {t : List Char} :
    c ∈ trimLeft t ↔ c ∈ t := by
  have := mem_trimRight_iff hc (t := t.reverse)
  rwa [trimRight_eq, List.reverse_reverse, List.mem_reverse, List.mem_reverse] at this

/-- Blanks around a piece have no influence on the quote that is open after it. -/
lemma openAfter_trim (hquote : ∀ q ∈ quote, Lexeme.isQuote q = true) (piece : List Char) :
    openAfter quote (trim piece) = openAfter quote piece := by
  cases quote with
  | some q =>
    have hq := Lexeme.isBlank_of_isQuote (hquote q rfl)
    simp only [openAfter, trim, mem_trimRight_iff hq, mem_trimLeft_iff hq]
  | none =>
    cases hleft : trimLeft piece with
    | nil => rw [trim, hleft, openAfter, openAfter, hleft, trimRight_nil, trimLeft_nil]
    | cons c rest =>
      have hc := not_blank_of_trimLeft_eq_cons hleft
      have htrim : trim piece = c :: trimRight rest := by
        rw [trim, hleft]
        exact trimRight_append_cons hc [] rest
      rw [htrim, openAfter, openAfter, hleft, trimLeft_cons_of_not_blank hc]
      simp only [mem_trimRight_iff hc]

lemma foldl_openAfter_trim (hquote : ∀ q ∈ quote, Lexeme.isQuote q = true)
    (pieces : List (List Char)) :
    (pieces.map trim).foldl openAfter quote = pieces.foldl openAfter quote := by
  induction pieces generalizing quote with
  | nil => rfl
  | cons piece more ih =>
    rw [List.map_cons, List.foldl_cons, List.foldl_cons, openAfter_trim hquote,
      ih (isQuote_of_openAfter hquote)]

/-! ### Both ways of splitting side by side -/

/-- How the parts of a piece that have been passed belong together, with regard to quotes and
without it, where `quote` was open at the last separator: they are the same, or the separator was
protected and the quote stands in the longer part. -/
def InStep (quote : Option Char) (piece plain : List Char) : Prop :=
  match quote with
  | none => piece = plain
  | some q => Lexeme.isQuote q = true ∧ q ∈ piece

namespace InStep

variable {plain : List Char}

lemma concat (h : InStep quote piece plain) (c : Char) :
    InStep quote (piece ++ [c]) (plain ++ [c]) := by
  cases quote with
  | none => exact congrArg (· ++ [c]) h
  | some q => exact ⟨h.1, List.mem_append_left _ h.2⟩

/-- A quote that is open stands in the piece. -/
lemma mem_of_open (h : InStep quote piece plain) {q : Char} (hopen : openAfter quote plain = some q) :
    Lexeme.isQuote q = true ∧ q ∈ piece := by
  cases quote with
  | some q' =>
    rw [openAfter] at hopen
    split_ifs at hopen
    rw [Option.some.injEq] at hopen
    rwa [← hopen]
  | none =>
    rw [openAfter] at hopen
    split at hopen
    · cases hopen
    · next c rest hleft =>
      split_ifs at hopen with hquote
      rw [Option.some.injEq] at hopen
      subst hopen
      have hc := Lexeme.isBlank_of_isQuote hquote.1
      refine ⟨hquote.1, ?_⟩
      rw [show piece = plain from h, ← mem_trimLeft_iff hc, hleft]
      exact List.mem_cons_self ..

/-- Only where no separator was protected can the piece be blank. -/
lemma of_allBlank (h : InStep quote piece plain) (hblank : allBlank piece = true) :
    quote = none ∧ piece = plain := by
  cases quote with
  | none => exact ⟨rfl, h⟩
  | some q =>
    have hq := allBlank_iff.mp hblank q h.2
    rw [Lexeme.isBlank_of_isQuote h.1] at hq
    cases hq

/-- Where no quote is open, the same separators end the piece. -/
lemma cut?_eq (h : InStep quote piece plain) (hopen : openAfter quote plain = none) :
    s.cut? piece text = s.cut? plain text := by
  cases quote with
  | none => rw [show piece = plain from h]
  | some q =>
    have hplain : q ∈ plain := by
      rw [openAfter] at hopen
      by_contra hmem
      rw [if_neg hmem] at hopen
      cases hopen
    have hends : (fun after => s.ends piece after) = fun after => s.ends plain after := by
      funext after
      rw [ends_of_mem h.1 h.2, ends_of_mem h.1 hplain]
    rw [cut?, cut?, hends]

end InStep

lemma splitQuotedFrom_within {q : Char} {t : List Char} (hq : q ∉ t) (after : List Char) :
    s.splitQuotedFrom (some q) piece (t ++ after) =
      s.splitQuotedFrom (some q) (piece ++ t) after := by
  induction t generalizing piece with
  | nil => simp
  | cons c t ih =>
    rw [List.mem_cons, not_or] at hq
    rw [List.cons_append, splitQuotedFrom_inside (Ne.symm hq.1), ih hq.2]
    simp

lemma isQuote_eq_false_of_mem_text {c : Char} (h : c ∈ s.text) : Lexeme.isQuote c = false := by
  revert h
  cases s
  · simp only [Separator.text, List.mem_cons, List.not_mem_nil, or_false]
    rintro (rfl | rfl) <;> decide
  · simp only [Separator.text, List.mem_singleton]
    rintro rfl
    decide

variable {plain after : List Char}

lemma isQuote_eq_false_of_cut? (hcut : s.cut? plain text = some after) :
    ∀ c ∈ text.head?, Lexeme.isQuote c = false := by
  intro c hc
  have hne : s.text ≠ [] := List.ne_nil_of_length_pos s.text_length_pos
  rw [eq_append_of_cut? hcut, List.head?_append_of_ne_nil _ hne] at hc
  exact isQuote_eq_false_of_mem_text (List.mem_of_head? hc)

/-- A separator is no end of a piece while a quote is open. -/
lemma splitQuotedFrom_protected {q : Char} (hq : Lexeme.isQuote q = true)
    (hcut : s.cut? plain text = some after) :
    s.splitQuotedFrom (some q) piece text = s.splitQuotedFrom (some q) (piece ++ s.text) after := by
  have htext : q ∉ s.text := by
    intro hmem
    rw [isQuote_eq_false_of_mem_text hmem] at hq
    cases hq
  rw [eq_append_of_cut? hcut, splitQuotedFrom_within htext]

/-- While the text is gone through without regard to quotes, the other way of splitting stays in step:
its open quote is the one that the pieces up to now leave open. -/
lemma isSome_splitQuotedFrom (s : Separator) (plain text : List Char) {quote : Option Char}
    {piece : List Char} (h : InStep quote piece plain) :
    (s.splitQuotedFrom (openAfter quote plain) piece text).isSome =
      ((s.splitPlainFrom plain text).foldl openAfter quote).isNone := by
  induction plain, text using scan_induction s generalizing quote piece with
  | nil plain =>
    rw [splitPlainFrom_nil, List.foldl_cons, List.foldl_nil]
    cases openAfter quote plain with
    | none => rw [splitQuotedFrom_nil]; rfl
    | some q => rw [splitQuotedFrom]; rfl
  | cut plain text after hcut ih =>
    rw [splitPlainFrom_cut hcut, List.foldl_cons]
    cases hopen : openAfter quote plain with
    | none =>
      have hpiece : s.cut? piece text = some after := (h.cut?_eq hopen).trans hcut
      have hhead : ∀ c ∈ text.head?, (Lexeme.isQuote c && allBlank piece) = false := by
        intro c hc
        rw [isQuote_eq_false_of_cut? hcut c hc, Bool.false_and]
      have hrest : InStep none [] [] := rfl
      rw [splitQuotedFrom_cut hhead hpiece, Option.isSome_map, ← ih hrest, openAfter_nil]
    | some q =>
      obtain ⟨hq, hmem⟩ := h.mem_of_open hopen
      have hrest : InStep (some q) (piece ++ s.text) [] := ⟨hq, List.mem_append_left _ hmem⟩
      rw [splitQuotedFrom_protected hq hcut, ← ih hrest, openAfter_nil]
  | skip plain c rest hcut ih =>
    have hrest := ih (h.concat c)
    rw [openAfter_concat] at hrest
    rw [splitPlainFrom_skip hcut, ← hrest]
    cases hopen : openAfter quote plain with
    | some q => rw [splitQuotedFrom]
    | none =>
      dsimp only
      split_ifs with hquote
      · obtain ⟨hc, hnone, hblank⟩ := hquote
        subst hnone
        have hpiece : allBlank piece = true := by rw [show piece = plain from h, hblank]
        rw [splitQuotedFrom_open hc hpiece]
      · have hskip : (Lexeme.isQuote c && allBlank piece) = false := by
          rw [Bool.eq_false_iff, Ne, Bool.and_eq_true]
          rintro ⟨hc, hblank⟩
          obtain ⟨hnone, hsame⟩ := h.of_allBlank hblank
          exact hquote ⟨hc, hnone, hsame ▸ hblank⟩
        rw [splitQuotedFrom_skip hskip ((h.cut?_eq hopen).trans hcut)]

/-- All quotes are closed if none is open after the last of the pieces between all separators. -/
theorem isSome_splitQuoted (s : Separator) (text : List Char) :
    (s.splitQuoted text).isSome = ((s.splitPlain text).foldl openAfter none).isNone := by
  have hstep : InStep none [] [] := rfl
  have h := isSome_splitQuotedFrom s [] text hstep
  rwa [openAfter_nil] at h

/-! ### Splitting once more -/

lemma splitPlainFrom_append {t after : List Char} (h : s.Uncut piece t) (hafter : Follows after) :
    s.splitPlainFrom piece (t ++ after) = s.splitPlainFrom (piece ++ t) after := by
  induction t generalizing piece with
  | nil => simp
  | cons c t ih =>
    have hcut : s.cut? piece (c :: (t ++ after)) = none := by
      simpa using h.cut?_eq_none rfl hafter (u := []) rfl (by simp)
    rw [List.cons_append, splitPlainFrom_skip hcut, ih (Uncut.cons_iff.mp h).2]
    simp

lemma splitPlainFrom_spaced (s : Separator) (piece rest : List Char) :
    s.splitPlainFrom piece (Chain.spaced s ++ rest) =
      (piece ++ [' ']) :: s.splitPlainFrom [' '] rest := by
  rw [spaced_append, splitPlainFrom_skip (cut?_space s _ _),
    splitPlainFrom_cut (cut?_before_space s _ _), splitPlainFrom_skip (cut?_space s _ _),
    List.nil_append]

/-- Texts that are cut nowhere are found again without regard to quotes, if they were joined by
separators between blanks. -/
lemma splitPlain_joined {pieces : List (List Char)} (hne : pieces ≠ [])
    (h : ∀ p ∈ pieces, s.Uncut [] p) :
    (s.splitPlain ((Chain.spaced s).intercalate pieces)).map trim = pieces.map trim := by
  have hpasses : ∀ p ∈ pieces, ∀ before after, allBlank before = true → Follows after →
      some (s.splitPlainFrom before (p ++ after)) = some (s.splitPlainFrom (before ++ p) after) := by
    intro p hp before after hbefore hafter
    have hleft : trimLeft [] = trimLeft before := (trimLeft_eq_nil_iff.mpr hbefore).symm
    rw [splitPlainFrom_append ((h p hp).congr hleft) hafter]
  obtain ⟨found, hfound, hmap⟩ := exists_joined (s := s)
    (f := fun piece text => some (s.splitPlainFrom piece text))
    (fun piece => congrArg some (splitPlainFrom_nil s piece))
    (fun piece rest => congrArg some (splitPlainFrom_spaced s piece rest)) hne hpasses allBlank_nil
  rw [splitPlain, Option.some.inj hfound, hmap]

/-- The trimmed pieces of a text, joined by separators between blanks, are its pieces again. -/
theorem split_rejoined (s : Separator) (text : List Char) :
    (s.split ((Chain.spaced s).intercalate ((s.split text).map trim))).map trim =
      (s.split text).map trim := by
  have hne : (s.split text).map trim ≠ [] := by simpa using split_ne_nil s text
  cases hquoted : s.splitQuoted text with
  | some pieces =>
    have hsplit : s.split text = pieces := by rw [split, hquoted, Option.getD_some]
    rw [split_joined hne]
    · simp
    · rw [hsplit]
      intro t ht
      obtain ⟨p, hp, rfl⟩ := List.mem_map.mp ht
      exact (whole_of_mem_splitQuoted hquoted hp).passes (trimmed_trim p)
  | none =>
    have hsplit : s.split text = s.splitPlain text := by rw [split, hquoted, Option.getD_none]
    have hagain : (s.splitPlain ((Chain.spaced s).intercalate ((s.splitPlain text).map trim))).map
        trim = (s.splitPlain text).map trim := by
      rw [splitPlain_joined (hsplit ▸ hne)]
      · simp
      · intro t ht
        obtain ⟨p, hp, rfl⟩ := List.mem_map.mp ht
        exact (uncut_of_mem_splitPlain hp).trim
    -- the quote that stays open in the text stays open in the joined pieces
    have hopen : s.splitQuoted ((Chain.spaced s).intercalate ((s.splitPlain text).map trim)) = none := by
      apply Option.not_isSome_iff_eq_none.mp
      rw [isSome_splitQuoted, ← foldl_openAfter_trim (by simp), hagain,
        foldl_openAfter_trim (by simp), ← isSome_splitQuoted, hquoted]
      simp
    rw [hsplit, split, hopen, Option.getD_none, hagain]

end Separator

namespace Chain

open Separator

/-! ### Steps and alternatives as texts -/

/-- The chain text with the given steps. -/
def writeSteps (tokens : List String) : String :=
  String.ofList (joinSteps (tokens.map String.toList))

/-- The step with the given alternatives. -/
def writeAlternatives (names : List String) : String :=
  String.ofList (joinAlternatives (names.map String.toList))

lemma map_toList_map_ofList (texts : List (List Char)) :
    (texts.map String.ofList).map String.toList = texts := by
  simp [Function.comp_def]

lemma map_ofList_map_toList (texts : List String) :
    (texts.map String.toList).map String.ofList = texts := by
  simp [Function.comp_def]

/-- Trimmed texts are read as the steps of the chain that is written with them, if arrows stand in
them only between a quote that starts the text and the next quote of its kind. -/
theorem steps_writeSteps {tokens : List String} (hne : tokens ≠ [])
    (h : ∀ t ∈ tokens, Trimmed t.toList ∧ Clean t.toList) : steps (writeSteps tokens) = tokens := by
  have hclean : ∀ t ∈ tokens.map String.toList, Clean t ∧ Trimmed t := by
    intro t ht
    obtain ⟨token, htoken, rfl⟩ := List.mem_map.mp ht
    exact (h token htoken).symm
  rw [steps, writeSteps, String.toList_ofList, splitSteps_joinSteps (by simpa using hne) hclean,
    map_ofList_map_toList]

/-- Arrows and the other quote between quotes, apostrophes within words, braces, dashes, an empty
step, and characters beyond ASCII. -/
theorem steps_writeSteps_mixed :
    steps (writeSteps ["'a -> \x7b\"' b's", "", "it's \x7dx-", ">é", "\"\" + 'c"]) =
      ["'a -> \x7b\"' b's", "", "it's \x7dx-", ">é", "\"\" + 'c"] := by
  have hbare : ∀ t : List Char, t.head?.any Lexeme.isQuote = false → ¬ arrow.text <:+: t →
      Clean t := by
    intro t hquote harrow
    refine Or.inl ⟨fun c hc => ?_, harrow⟩
    rwa [Option.mem_def.mp hc] at hquote
  have hquotation : ∀ q inside rest, Lexeme.isQuote q = true → q ∉ inside →
      ¬ arrow.text <:+: rest → Clean (q :: inside ++ q :: rest) :=
    fun q inside rest hq hinside hrest => Or.inr ⟨q, inside, rest, hq, hinside, rfl, hrest⟩
  apply steps_writeSteps
  · simp
  · intro t ht
    simp only [List.mem_cons, List.not_mem_nil, or_false] at ht
    rcases ht with rfl | rfl | rfl | rfl | rfl
    · refine ⟨trim_eq_self_iff.mp (by decide +kernel), ?_⟩
      exact hquotation '\'' "a -> \x7b\"".toList " b's".toList (by decide) (by decide) (by decide)
    · exact ⟨trimmed_nil, hbare _ rfl (by decide)⟩
    · exact ⟨trim_eq_self_iff.mp (by decide +kernel), hbare _ rfl (by decide +kernel)⟩
    · exact ⟨trim_eq_self_iff.mp (by decide +kernel), hbare _ rfl (by decide)⟩
    · refine ⟨trim_eq_self_iff.mp (by decide +kernel), ?_⟩
      exact hquotation '"' [] " + 'c".toList (by decide) (by decide) (by decide)

/-! ### Every text -/

/-- The piece is the text with blanks around it. -/
def Padded (piece text : List Char) : Prop :=
  ∃ b e, allBlank b = true ∧ allBlank e = true ∧ piece = b ++ text ++ e

lemma forall₂_padded_trim (pieces : List (List Char)) :
    List.Forall₂ Padded pieces (pieces.map trim) := by
  rw [List.forall₂_map_right_iff, List.forall₂_same]
  exact fun p _ => exists_trim p

lemma splitSteps_joinSteps_splitSteps (t : List Char) :
    splitSteps (joinSteps (splitSteps t)) = splitSteps t := by
  rw [splitSteps, body_joinSteps]
  exact split_rejoined arrow (body t)

lemma splitAlternatives_joinAlternatives_splitAlternatives (t : List Char) :
    splitAlternatives (joinAlternatives (splitAlternatives t)) = splitAlternatives t :=
  split_rejoined plus t

/-- The steps of any text are what stands between its arrows but for blanks, and the chain that is
written with them has the same steps. Alternatives are to plus signs as steps are to arrows. -/
theorem splitting_lossless_and_stable (t : String) :
    ((∃ pieces, List.Forall₂ Padded pieces ((steps t).map String.toList) ∧
        body t.toList = arrow.text.intercalate pieces) ∧
      steps (writeSteps (steps t)) = steps t) ∧
    ((∃ pieces, List.Forall₂ Padded pieces ((alternatives t).map String.toList) ∧
        t.toList = plus.text.intercalate pieces) ∧
      alternatives (writeAlternatives (alternatives t)) = alternatives t) := by
  refine ⟨⟨⟨arrow.split (body t.toList), ?_, ?_⟩, ?_⟩, ⟨⟨plus.split t.toList, ?_, ?_⟩, ?_⟩⟩
  · rw [steps, map_toList_map_ofList]
    exact forall₂_padded_trim _
  · exact (intercalate_split arrow _).symm
  · rw [steps, writeSteps, String.toList_ofList, steps, map_toList_map_ofList,
      splitSteps_joinSteps_splitSteps]
  · rw [alternatives, map_toList_map_ofList]
    exact forall₂_padded_trim _
  · exact (intercalate_split plus _).symm
  · rw [alternatives, writeAlternatives, String.toList_ofList, alternatives, map_toList_map_ofList,
      splitAlternatives_joinAlternatives_splitAlternatives]

end Chain

end ChainScript
