import ChainScript.Chain
import ChainScript.Proofs.Trim

/-!
# Splitting and joining

Splitting cuts a text at separators and loses nothing: with the separators put back, the pieces are
the text. A text that is passed over as a whole stays in one piece, and joining such texts by
separators between blanks is undone by splitting. Each piece that splitting gives is passed over
when it is met again.
-/

namespace ChainScript

open Text

lemma Lexeme.isQuote_iff {c : Char} : isQuote c = true ↔ c = '"' ∨ c = '\'' := by
  simp [isQuote]

lemma Lexeme.isBlank_of_isQuote {c : Char} (h : isQuote c = true) : isBlank c = false := by
  rcases isQuote_iff.mp h with rfl | rfl <;> decide

lemma Text.isDigit_of_isBlank {c : Char} (h : isBlank c = true) : c.isDigit = false := by
  rw [Bool.eq_false_iff]
  intro hdigit
  have hrange : 48 ≤ c.toNat ∧ c.toNat ≤ 57 := by
    simpa [Char.isDigit, UInt32.le_iff_toNat_le] using hdigit
  simp only [isBlank, Bool.or_eq_true, Bool.and_eq_true, decide_eq_true_eq, beq_iff_eq] at h
  omega

namespace Separator

variable {s : Separator} {quote : Option Char} {piece text : List Char}

/-! ### Nothing is lost -/

lemma intercalate_splitQuotedFrom {pieces : List (List Char)}
    (h : s.splitQuotedFrom quote piece text = some pieces) :
    pieces ≠ [] ∧ s.text.intercalate pieces = piece ++ text := by
  fun_induction splitQuotedFrom s quote piece text generalizing pieces with
  | case1 piece =>
    cases h
    simp
  | case2 => cases h
  | case3 piece q c rest ih =>
    obtain ⟨hne, hjoin⟩ := ih h
    exact ⟨hne, by simpa using hjoin⟩
  | case4 piece c rest hopen ih =>
    obtain ⟨hne, hjoin⟩ := ih h
    exact ⟨hne, by simpa using hjoin⟩
  | case5 piece c rest hopen after hcut ih =>
    obtain ⟨more, hmore, rfl⟩ := Option.map_eq_some_iff.mp h
    obtain ⟨hne, hjoin⟩ := ih hmore
    refine ⟨by simp, ?_⟩
    rw [List.intercalate_cons_of_ne_nil hne, hjoin, eq_append_of_cut? hcut]
    simp
  | case6 piece c rest hopen hcut ih =>
    obtain ⟨hne, hjoin⟩ := ih h
    exact ⟨hne, by simpa using hjoin⟩

lemma intercalate_splitPlainFrom (s : Separator) (piece text : List Char) :
    s.splitPlainFrom piece text ≠ [] ∧
      s.text.intercalate (s.splitPlainFrom piece text) = piece ++ text := by
  fun_induction splitPlainFrom s piece text with
  | case1 piece text hfind => simp
  | case2 piece text before after hfind hends ih =>
    refine ⟨by simp, ?_⟩
    rw [List.intercalate_cons_of_ne_nil ih.1, ih.2, eq_append_of_find? hfind]
    simp
  | case3 piece text before after hfind hends ih =>
    refine ⟨ih.1, ?_⟩
    rw [ih.2, eq_append_of_find? hfind]
    simp

lemma split_ne_nil (s : Separator) (text : List Char) : s.split text ≠ [] := by
  rw [split]
  cases hq : s.splitQuoted text with
  | none => exact (intercalate_splitPlainFrom s [] text).1
  | some pieces => exact (intercalate_splitQuotedFrom hq).1

/-- With the separators put back between them, the pieces are the text. -/
lemma intercalate_split (s : Separator) (text : List Char) :
    s.text.intercalate (s.split text) = text := by
  rw [split]
  cases hq : s.splitQuoted text with
  | none => exact (intercalate_splitPlainFrom s [] text).2
  | some pieces => exact (intercalate_splitQuotedFrom hq).2

/-- A text that is not cut is its only piece. -/
lemma split_eq_singleton (h : (s.split text).length ≤ 1) : s.split text = [text] := by
  have hjoin := intercalate_split s text
  match hs : s.split text with
  | [] => exact absurd hs (split_ne_nil s text)
  | [piece] =>
    rw [hs, List.intercalate_singleton] at hjoin
    rw [hjoin]
  | _ :: _ :: _ =>
    rw [hs] at h
    simp at h

/-! ### Single steps -/

lemma splitQuotedFrom_nil (s : Separator) (piece : List Char) :
    s.splitQuotedFrom none piece [] = some [piece] := by
  rw [splitQuotedFrom]

lemma splitQuotedFrom_open {q : Char} (hq : Lexeme.isQuote q = true)
    (hpiece : allBlank piece = true) (rest : List Char) :
    s.splitQuotedFrom none piece (q :: rest) = s.splitQuotedFrom (some q) (piece ++ [q]) rest := by
  rw [splitQuotedFrom]
  simp [hq, hpiece]

lemma splitQuotedFrom_close (q : Char) (rest : List Char) :
    s.splitQuotedFrom (some q) piece (q :: rest) = s.splitQuotedFrom none (piece ++ [q]) rest := by
  rw [splitQuotedFrom]
  simp

lemma splitQuotedFrom_inside {q c : Char} (h : c ≠ q) (rest : List Char) :
    s.splitQuotedFrom (some q) piece (c :: rest) =
      s.splitQuotedFrom (some q) (piece ++ [c]) rest := by
  rw [splitQuotedFrom]
  simp [h]

lemma splitQuotedFrom_skip {c : Char} {rest : List Char}
    (hopen : (Lexeme.isQuote c && allBlank piece) = false)
    (hcut : s.cut? piece (c :: rest) = none) :
    s.splitQuotedFrom none piece (c :: rest) = s.splitQuotedFrom none (piece ++ [c]) rest := by
  rw [splitQuotedFrom]
  simp only [hopen, Bool.false_eq_true, if_false]
  split
  · next after h => simp [hcut] at h
  · rfl

lemma splitQuotedFrom_cut {after : List Char}
    (hopen : ∀ c ∈ text.head?, (Lexeme.isQuote c && allBlank piece) = false)
    (hcut : s.cut? piece text = some after) :
    s.splitQuotedFrom none piece text = (s.splitQuotedFrom none [] after).map (piece :: ·) := by
  cases text with
  | nil =>
    have := length_of_cut? hcut
    simp at this
  | cons c rest =>
    rw [splitQuotedFrom]
    simp only [hopen c (by simp), Bool.false_eq_true, if_false]
    split
    · next a h =>
      rw [hcut] at h
      cases h
      rfl
    · next h => simp [hcut] at h

/-! Without regard to quotes the text can be gone through character by character too. -/

lemma splitPlainFrom_of_find?_eq_none (h : find? s.text text = none) :
    s.splitPlainFrom piece text = [piece ++ text] := by
  rw [splitPlainFrom]
  split
  · rfl
  · next hfind =>
    rw [h] at hfind
    cases hfind

lemma splitPlainFrom_of_find? {before after : List Char}
    (h : find? s.text text = some (before, after)) :
    s.splitPlainFrom piece text =
      if s.ends (piece ++ before) after then (piece ++ before) :: s.splitPlainFrom [] after
      else s.splitPlainFrom (piece ++ before ++ s.text) after := by
  rw [splitPlainFrom]
  split
  · next hfind =>
    rw [h] at hfind
    cases hfind
  · next hfind =>
    rw [h] at hfind
    cases hfind
    rfl

lemma splitPlainFrom_nil (s : Separator) (piece : List Char) : s.splitPlainFrom piece [] = [piece] := by
  have hfind : find? s.text [] = none := by cases s <;> rfl
  rw [splitPlainFrom_of_find?_eq_none hfind, List.append_nil]

lemma find?_of_stripStart? {target after : List Char} (h : stripStart? target text = some after) :
    find? target text = some ([], after) := by
  cases text with
  | nil => rw [find?, h, Option.map_some]
  | cons c rest => rw [find?, h]

lemma find?_cons_of_eq_none {target rest : List Char} {c : Char}
    (hstart : stripStart? target (c :: rest) = none) (h : find? target rest = none) :
    find? target (c :: rest) = none := by
  rw [find?, hstart, h]
  rfl

lemma find?_cons_of_eq_some {target rest before after : List Char} {c : Char}
    (hstart : stripStart? target (c :: rest) = none)
    (h : find? target rest = some (before, after)) :
    find? target (c :: rest) = some (c :: before, after) := by
  rw [find?, hstart, h]
  rfl

lemma splitPlainFrom_cut {after : List Char} (hcut : s.cut? piece text = some after) :
    s.splitPlainFrom piece text = piece :: s.splitPlainFrom [] after := by
  rw [cut?, Option.filter_eq_some_iff] at hcut
  obtain ⟨hstart, hends⟩ := hcut
  rw [splitPlainFrom_of_find? (find?_of_stripStart? hstart), List.append_nil, if_pos hends]

lemma splitPlainFrom_skip {c : Char} {rest : List Char} (hcut : s.cut? piece (c :: rest) = none) :
    s.splitPlainFrom piece (c :: rest) = s.splitPlainFrom (piece ++ [c]) rest := by
  cases hstart : stripStart? s.text (c :: rest) with
  | some after =>
    rw [cut?, hstart, Option.filter_eq_none_iff] at hcut
    rw [splitPlainFrom_of_find? (find?_of_stripStart? hstart), List.append_nil,
      if_neg (hcut after rfl)]
    -- only a plus sign can stand in a text without ending the piece before it
    cases s with
    | arrow => exact absurd rfl (hcut after rfl)
    | plus =>
      have htext := eq_append_of_stripStart? hstart
      rw [Separator.text, List.singleton_append, List.cons.injEq] at htext
      rw [htext.1, htext.2, Separator.text]
  | none =>
    cases hrest : find? s.text rest with
    | none =>
      rw [splitPlainFrom_of_find?_eq_none (find?_cons_of_eq_none hstart hrest),
        splitPlainFrom_of_find?_eq_none hrest]
      simp
    | some found =>
      rw [splitPlainFrom_of_find? (find?_cons_of_eq_some hstart hrest),
        splitPlainFrom_of_find? hrest]
      simp

/-- To show something about a text of which a part has been passed, one may assume it for the text
after a separator that ends the piece, and otherwise for the text after the next character. -/
@[elab_as_elim]
lemma scan_induction (s : Separator) {P : List Char → List Char → Prop}
    (nil : ∀ piece, P piece [])
    (cut : ∀ piece text after, s.cut? piece text = some after → P [] after → P piece text)
    (skip : ∀ piece c rest, s.cut? piece (c :: rest) = none → P (piece ++ [c]) rest →
      P piece (c :: rest))
    (piece text : List Char) : P piece text := by
  induction hlength : text.length using Nat.strong_induction_on generalizing piece text with
  | h n ih =>
    subst hlength
    cases hcut : s.cut? piece text with
    | some after => exact cut piece text after hcut (ih _ (length_of_cut? hcut) [] after rfl)
    | none =>
      cases text with
      | nil => exact nil piece
      | cons c rest => exact skip piece c rest hcut (ih _ (by simp) (piece ++ [c]) rest rfl)

/-! ### Passing over a text -/

/-- What may follow a text that is to stay in one piece. -/
def Follows (after : List Char) : Prop :=
  after = [] ∨ ∃ rest, after = ' ' :: rest

/-- At the start of a piece, the text is passed over as a whole. -/
def Passes (s : Separator) (t : List Char) : Prop :=
  ∀ before after, allBlank before = true → Follows after →
    s.splitQuotedFrom none before (t ++ after) = s.splitQuotedFrom none (before ++ t) after

lemma passes_nil (s : Separator) : s.Passes [] := by
  intro before after _ _
  simp

/-- Once a piece has a character that is not blank, quotes do not count any more. -/
lemma splitQuotedFrom_append (hpiece : allBlank piece = false) (t after : List Char)
    (hcut : ∀ u v, t = u ++ v → v ≠ [] → s.cut? (piece ++ u) (v ++ after) = none) :
    s.splitQuotedFrom none piece (t ++ after) = s.splitQuotedFrom none (piece ++ t) after := by
  induction t generalizing piece with
  | nil => simp
  | cons c t ih =>
    rw [List.cons_append, splitQuotedFrom_skip (by simp [hpiece])
      (by simpa using hcut [] (c :: t) rfl (by simp)), ih (by simp [hpiece])]
    · simp
    · intro u v ht hv
      simpa using hcut (c :: u) v (by simp [ht]) hv

/-- A text that starts with neither a quote nor a blank is passed over if it is cut nowhere. -/
lemma passes_of_bare {c : Char} {t : List Char} (hquote : Lexeme.isQuote c = false)
    (hblank : isBlank c = false)
    (hcut : ∀ before after u v, allBlank before = true → Follows after → c :: t = u ++ v →
      v ≠ [] → s.cut? (before ++ u) (v ++ after) = none) : s.Passes (c :: t) := by
  intro before after hbefore hafter
  rw [List.cons_append, splitQuotedFrom_skip (by simp [hquote])
    (by simpa using hcut before after [] (c :: t) hbefore hafter rfl (by simp)),
    splitQuotedFrom_append (by simp [hblank])]
  · simp
  · intro u v ht hv
    simpa using hcut before after (c :: u) v hbefore hafter (by simp [ht]) hv

lemma splitQuotedFrom_quotation {q : Char} {inside : List Char} (hinside : q ∉ inside)
    (after : List Char) :
    s.splitQuotedFrom (some q) piece (inside ++ q :: after) =
      s.splitQuotedFrom none (piece ++ inside ++ [q]) after := by
  induction inside generalizing piece with
  | nil => simpa using splitQuotedFrom_close q after
  | cons c inside ih =>
    rw [List.mem_cons, not_or] at hinside
    rw [List.cons_append, splitQuotedFrom_inside (Ne.symm hinside.1), ih hinside.2]
    simp

/-- A text that starts with a literal between quotes is passed over if it is cut nowhere after the
second quote. -/
lemma passes_of_quotation {q : Char} {inside t : List Char} (hq : Lexeme.isQuote q = true)
    (hinside : q ∉ inside)
    (hcut : ∀ before after u v, allBlank before = true → Follows after → t = u ++ v → v ≠ [] →
      s.cut? (before ++ q :: inside ++ q :: u) (v ++ after) = none) :
    s.Passes (q :: inside ++ q :: t) := by
  intro before after hbefore hafter
  rw [List.cons_append, List.cons_append, splitQuotedFrom_open hq hbefore, List.append_assoc,
    List.cons_append, splitQuotedFrom_quotation hinside,
    splitQuotedFrom_append (by simp [Lexeme.isBlank_of_isQuote hq])]
  · simp
  · intro u v ht hv
    simpa using hcut before after u v hbefore hafter ht hv

/-! ### Joining -/

lemma cut?_space (s : Separator) (piece rest : List Char) : s.cut? piece (' ' :: rest) = none := by
  cases s <;> simp [cut?, Separator.text, stripStart?]

/-- A separator before a blank ends every piece. -/
lemma cut?_before_space (s : Separator) (piece rest : List Char) :
    s.cut? piece (s.text ++ ' ' :: rest) = some (' ' :: rest) := by
  rw [cut?, stripStart?_append, Option.filter_some]
  cases s <;> simp [ends]

lemma spaced_append (s : Separator) (rest : List Char) :
    Chain.spaced s ++ rest = ' ' :: (s.text ++ ' ' :: rest) := by
  simp [Chain.spaced]

lemma splitQuotedFrom_spaced (s : Separator) (piece rest : List Char) :
    s.splitQuotedFrom none piece (Chain.spaced s ++ rest) =
      (s.splitQuotedFrom none [' '] rest).map ((piece ++ [' ']) :: ·) := by
  have hspace : Lexeme.isQuote ' ' = false := by decide
  have hhead : ∀ c ∈ (s.text ++ ' ' :: rest).head?, Lexeme.isQuote c = false := by
    cases s <;> simp [Separator.text] <;> decide
  rw [spaced_append, splitQuotedFrom_skip (by simp [hspace]) (cut?_space s _ _),
    splitQuotedFrom_cut (fun c hc => by simp [hhead c hc]) (cut?_before_space s _ _),
    splitQuotedFrom_skip (by simp [hspace]) (cut?_space s _ _), List.nil_append]

/-- Texts that are passed over are found again between separators among blanks. It is left open how
the text is gone through, with or without regard to quotes. -/
lemma exists_joined {f : List Char → List Char → Option (List (List Char))}
    (hnil : ∀ piece, f piece [] = some [piece])
    (hspaced : ∀ piece rest, f piece (Chain.spaced s ++ rest) =
      (f [' '] rest).map ((piece ++ [' ']) :: ·))
    {pieces : List (List Char)} (hne : pieces ≠ [])
    (h : ∀ p ∈ pieces, ∀ before after, allBlank before = true → Follows after →
      f before (p ++ after) = f (before ++ p) after)
    {before : List Char} (hbefore : allBlank before = true) :
    ∃ found, f before ((Chain.spaced s).intercalate pieces) = some found ∧
      found.map trim = pieces.map trim := by
  induction pieces generalizing before with
  | nil => exact absurd rfl hne
  | cons p more ih =>
    have htrim : ∀ e, allBlank e = true → trim (before ++ p ++ e) = trim p :=
      fun e he => trim_append_append hbefore he p
    by_cases hmore : more = []
    · refine ⟨[before ++ p], ?_, by simpa [hmore] using htrim [] rfl⟩
      have := h p (by simp) before [] hbefore (Or.inl rfl)
      rw [List.append_nil] at this
      rw [hmore, List.intercalate_singleton, this, hnil]
    · obtain ⟨found, hfound, hmap⟩ :=
        ih hmore (fun q hq => h q (List.mem_cons_of_mem _ hq))
          (show allBlank [' '] = true by decide)
      refine ⟨(before ++ p ++ [' ']) :: found, ?_, ?_⟩
      · have hafter : Follows (Chain.spaced s ++ (Chain.spaced s).intercalate more) :=
          Or.inr ⟨_, rfl⟩
        rw [List.intercalate_cons_of_ne_nil hmore, List.append_assoc,
          h p (by simp) before _ hbefore hafter, hspaced, hfound]
        rfl
      · rw [List.map_cons, List.map_cons, hmap, htrim [' '] (by decide)]

/-- Splitting gives back texts that are passed over, if they were joined by separators between
blanks. -/
theorem split_joined {pieces : List (List Char)} (hne : pieces ≠ [])
    (h : ∀ p ∈ pieces, s.Passes p) :
    (s.split ((Chain.spaced s).intercalate pieces)).map trim = pieces.map trim := by
  obtain ⟨found, hfound, hmap⟩ := exists_joined (splitQuotedFrom_nil s) (splitQuotedFrom_spaced s)
    hne h allBlank_nil
  rw [split, splitQuoted, hfound, Option.getD_some, hmap]

/-! ### Where a text is cut -/

lemma stripStart?_eq_none_iff {target : List Char} :
    stripStart? target text = none ↔ ¬ target <+: text := by
  constructor
  · rintro h ⟨rest, rfl⟩
    simp at h
  · intro h
    rw [Option.eq_none_iff_forall_ne_some]
    intro rest hrest
    exact h ⟨rest, (eq_append_of_stripStart? hrest).symm⟩

lemma cut?_arrow (piece text : List Char) :
    arrow.cut? piece text = stripStart? arrow.text text := by
  rw [cut?]
  cases stripStart? arrow.text text <;> rfl

/-- The text neither goes on with an arrow nor with a power of ten that was begun before it. -/
def Apart (tail : List Char) : Prop :=
  ∀ c ∈ tail.head?, c.isDigit = false ∧ c ≠ '>'

lemma apart_of_allBlank {tail : List Char} (h : allBlank tail = true) : Apart tail := by
  intro c hc
  have hblank := allBlank_iff.mp h c (List.mem_of_head? hc)
  refine ⟨isDigit_of_isBlank hblank, ?_⟩
  rintro rfl
  revert hblank
  decide

lemma Follows.apart {after : List Char} (h : Follows after) : Apart after := by
  rcases h with rfl | ⟨rest, rfl⟩
  · simp [Apart]
  · simp [Apart]

lemma apart_of_cut? {after : List Char} (h : s.cut? piece text = some after) : Apart text := by
  rw [eq_append_of_cut? h]
  cases s <;> simp [Apart, Separator.text]

/-- What comes after a text has no influence on the places where it is cut. -/
lemma cut?_append {tail : List Char} (hne : text ≠ []) (htail : Apart tail) (piece : List Char) :
    s.cut? piece (text ++ tail) = (s.cut? piece text).map (· ++ tail) := by
  obtain ⟨c, rest, rfl⟩ := List.exists_cons_of_ne_nil hne
  cases s with
  | plus =>
    have hends : plus.ends piece (rest ++ tail) = plus.ends piece rest := by
      cases rest with
      | cons d rest => rfl
      | nil =>
        have hdigit : tail.head?.any Char.isDigit = false := by
          cases htext : tail.head? with
          | none => rfl
          | some d => exact (htail d htext).1
        simp [ends, hdigit]
    by_cases hc : '+' = c
    · subst hc
      simp only [cut?, Separator.text, stripStart?, List.cons_append, if_true, Option.filter_some,
        hends]
      split <;> rfl
    · simp [cut?, Separator.text, stripStart?, hc]
  | arrow =>
    rw [cut?_arrow, cut?_arrow]
    by_cases hc : '-' = c
    · subst hc
      cases rest with
      | cons d rest =>
        by_cases hd : '>' = d
        · subst hd
          simp [Separator.text, stripStart?]
        · simp [Separator.text, stripStart?, hd]
      | nil =>
        cases tail with
        | nil => simp [Separator.text, stripStart?]
        | cons d tail =>
          have hd : ¬ '>' = d := fun h => (htail d rfl).2 h.symm
          simp [Separator.text, stripStart?, hd]
    · simp [Separator.text, stripStart?, hc]

/-- Blanks before a piece have no influence on where it ends. -/
lemma cut?_congr {piece' : List Char} (h : trimLeft piece = trimLeft piece') (text : List Char) :
    s.cut? piece text = s.cut? piece' text := by
  have hends : (fun after => s.ends piece after) = fun after => s.ends piece' after := by
    funext after
    cases s with
    | arrow => rfl
    | plus => simp only [ends, h]
  rw [cut?, cut?, hends]

/-- No separator within the text ends a piece, where `before` is the part of the piece before the
text. -/
def Uncut (s : Separator) (before t : List Char) : Prop :=
  ∀ u v, t = u ++ v → v ≠ [] → s.cut? (before ++ u) v = none

namespace Uncut

variable {before t : List Char}

lemma nil (s : Separator) (before : List Char) : s.Uncut before [] := by
  intro u v huv hv
  exact absurd (List.append_eq_nil_iff.mp huv.symm).2 hv

lemma cons_iff {c : Char} : s.Uncut before (c :: t) ↔
    s.cut? before (c :: t) = none ∧ s.Uncut (before ++ [c]) t := by
  constructor
  · intro h
    constructor
    · simpa using h [] (c :: t) rfl (by simp)
    · intro u v huv hv
      simpa using h (c :: u) v (by simp [huv]) hv
  · rintro ⟨hcut, h⟩ u v huv hv
    cases u with
    | nil =>
      rw [List.nil_append] at huv
      rwa [List.append_nil, ← huv]
    | cons d u =>
      rw [List.cons_append, List.cons.injEq] at huv
      simpa [huv.1] using h u v huv.2 hv

lemma congr {before' : List Char} (h : s.Uncut before t) (hbefore : trimLeft before = trimLeft before') :
    s.Uncut before' t := by
  intro u v huv hv
  rw [← cut?_congr (trimLeft_append_congr hbefore u)]
  exact h u v huv hv

lemma of_append_left {b : List Char} (h : s.Uncut before (b ++ t)) : s.Uncut (before ++ b) t := by
  intro u v huv hv
  simpa using h (b ++ u) v (by simp [huv]) hv

lemma of_append_right {tail : List Char} (h : s.Uncut before (t ++ tail)) (htail : Apart tail) :
    s.Uncut before t := by
  intro u v huv hv
  have hcut := h u (v ++ tail) (by simp [huv]) (by simp [hv])
  rwa [cut?_append hv htail, Option.map_eq_none_iff] at hcut

/-- A text in which nothing is cut is not cut between blanks either. -/
lemma cut?_eq_none {before' u v after : List Char} (h : s.Uncut before t)
    (hbefore : trimLeft before = trimLeft before') (hafter : Follows after) (huv : t = u ++ v)
    (hv : v ≠ []) : s.cut? (before' ++ u) (v ++ after) = none := by
  rw [cut?_append hv hafter.apart, Option.map_eq_none_iff]
  exact h.congr hbefore u v huv hv

protected lemma trim (h : s.Uncut [] t) : s.Uncut [] (trim t) := by
  obtain ⟨b, e, hb, he, ht⟩ := exists_trim t
  rw [ht] at h
  refine (h.of_append_right (apart_of_allBlank he)).of_append_left.congr ?_
  simpa using trimLeft_append_of_allBlank hb []

end Uncut

/-! ### Pieces -/

/-- The text can be a piece: it is cut nowhere, or only between a quote that starts it and the next
quote of its kind. -/
def Whole (s : Separator) (t : List Char) : Prop :=
  ((∀ c ∈ t.head?, Lexeme.isQuote c = false) ∧ s.Uncut [] t) ∨
    ∃ q inside rest, Lexeme.isQuote q = true ∧ q ∉ inside ∧ t = q :: inside ++ q :: rest ∧
      s.Uncut (q :: inside ++ [q]) rest

lemma Whole.passes {t : List Char} (h : s.Whole t) (ht : Trimmed t) : s.Passes t := by
  have hblank : ∀ {before part : List Char}, allBlank before = true →
      trimLeft part = trimLeft (before ++ part) :=
    fun hbefore => (trimLeft_append_of_allBlank hbefore _).symm
  rcases h with ⟨hquote, hcut⟩ | ⟨q, inside, rest, hq, hinside, rfl, hcut⟩
  · cases t with
    | nil => exact passes_nil _
    | cons c t =>
      apply passes_of_bare (hquote c (by simp)) (ht.1 c (by simp))
      intro before after u v hbefore hafter huv hv
      simpa using hcut.cut?_eq_none (hblank hbefore) hafter huv hv
  · apply passes_of_quotation hq hinside
    intro before after u v hbefore hafter huv hv
    simpa using hcut.cut?_eq_none (hblank hbefore) hafter huv hv

/-- How the rest of a piece looks, from within a literal in quotes of the given kind or from outside
after a given part of the piece. -/
def Remainder (s : Separator) (part rest : List Char) : Option Char → Prop
  | some q => ∃ inside more, rest = inside ++ q :: more ∧ q ∉ inside ∧
      s.Uncut (part ++ inside ++ [q]) more
  | none =>
    if allBlank part then
      ((∀ c ∈ (trimLeft rest).head?, Lexeme.isQuote c = false) ∧ s.Uncut part rest) ∨
        ∃ b q inside more, allBlank b = true ∧ Lexeme.isQuote q = true ∧ q ∉ inside ∧
          rest = b ++ (q :: inside ++ q :: more) ∧ s.Uncut (part ++ b ++ q :: inside ++ [q]) more
    else s.Uncut part rest

namespace Remainder

/-- What a piece is once it has been passed over from its start. -/
lemma whole {t : List Char} (h : s.Remainder [] t none) : s.Whole (trim t) := by
  rw [Remainder, if_pos allBlank_nil] at h
  rcases h with ⟨hquote, hcut⟩ | ⟨b, q, inside, rest, hb, hq, hinside, rfl, hcut⟩
  · refine Or.inl ⟨fun c hc => hquote c ?_, hcut.trim⟩
    cases hl : trimLeft t with
    | nil => rw [trim, hl] at hc; exact hc
    | cons d r =>
      rw [trim, hl, ← List.nil_append (d :: r),
        trimRight_append_cons (not_blank_of_trimLeft_eq_cons hl)] at hc
      exact hc
  · refine Or.inr ⟨q, inside, trimRight rest, hq, hinside, ?_, ?_⟩
    · rw [trim, trimLeft_append_of_allBlank hb, List.cons_append,
        trimLeft_cons_of_not_blank (Lexeme.isBlank_of_isQuote hq), ← List.cons_append,
        trimRight_append_cons (Lexeme.isBlank_of_isQuote hq)]
    · obtain ⟨e, he, hrest⟩ := exists_trimRight rest
      rw [hrest] at hcut
      apply (hcut.of_append_right (apart_of_allBlank he)).congr
      simpa using trimLeft_append_of_allBlank hb (q :: inside ++ [q])

/-! How a piece looks from a character on, when it is known from the next character on. -/

variable {part x : List Char} {c : Char}

lemma nil (s : Separator) (part : List Char) : s.Remainder part [] none := by
  rw [Remainder]
  split
  · exact Or.inl ⟨by simp, .nil s part⟩
  · exact .nil s part

lemma inside {q : Char} (hpart : allBlank part = false)
    (h : s.Remainder (part ++ [c]) x (if c = q then none else some q)) :
    s.Remainder part (c :: x) (some q) := by
  by_cases hc : c = q
  · rw [if_pos hc, Remainder, if_neg (by simp [hpart])] at h
    exact ⟨[], x, by simp [hc], by simp, by simpa [hc] using h⟩
  · rw [if_neg hc] at h
    obtain ⟨inside, tail, rfl, hinside, hcut⟩ := h
    exact ⟨c :: inside, tail, by simp, by simp [hinside, Ne.symm hc], by simpa using hcut⟩

lemma opens (hc : Lexeme.isQuote c = true) (hpart : allBlank part = true)
    (h : s.Remainder (part ++ [c]) x (some c)) : s.Remainder part (c :: x) none := by
  obtain ⟨inside, tail, rfl, hinside, hcut⟩ := h
  rw [Remainder, if_pos hpart]
  exact Or.inr ⟨[], c, inside, tail, rfl, hc, hinside, by simp, by simpa using hcut⟩

lemma skip (hopen : ¬ (Lexeme.isQuote c && allBlank part) = true)
    (hcut : s.cut? part (c :: x) = none) (h : s.Remainder (part ++ [c]) x none) :
    s.Remainder part (c :: x) none := by
  rw [Remainder] at h ⊢
  by_cases hpart : allBlank part = true
  · rw [if_pos hpart]
    by_cases hc : isBlank c = true
    · rw [if_pos (by simp [hpart, hc])] at h
      rcases h with ⟨hquote, hx⟩ | ⟨b, q, inside, tail, hb, hq, hinside, rfl, hx⟩
      · refine Or.inl ⟨?_, Uncut.cons_iff.mpr ⟨hcut, hx⟩⟩
        rwa [← List.singleton_append, trimLeft_append_of_allBlank (by simp [hc])]
      · exact Or.inr ⟨c :: b, q, inside, tail, by simp [hc, hb], hq, hinside, by simp,
          by simpa using hx⟩
    · rw [Bool.not_eq_true] at hc
      rw [if_neg (by simp [hc])] at h
      refine Or.inl ⟨fun d hd => ?_, Uncut.cons_iff.mpr ⟨hcut, h⟩⟩
      rw [trimLeft_cons_of_not_blank hc, List.head?_cons, Option.mem_some_iff] at hd
      simpa [← hd, hpart] using hopen
  · rw [Bool.not_eq_true] at hpart
    rw [if_neg (by simp [hpart])] at h ⊢
    exact Uncut.cons_iff.mpr ⟨hcut, h⟩

end Remainder

/-- The first piece goes on as `Remainder` says, and the texts after it can be pieces. -/
lemma exists_remainder {pieces : List (List Char)}
    (h : s.splitQuotedFrom quote piece text = some pieces)
    (hpiece : quote.isSome = true → allBlank piece = false) :
    ∃ x more tail, pieces = (piece ++ x) :: more ∧ text = x ++ tail ∧ Apart tail ∧
      s.Remainder piece x quote ∧ ∀ p ∈ more, s.Whole (trim p) := by
  fun_induction splitQuotedFrom s quote piece text generalizing pieces with
  | case1 piece =>
    cases h
    exact ⟨[], [], [], by simp, rfl, by simp [Apart], .nil s piece, by simp⟩
  | case2 => cases h
  | case3 piece q c rest ih =>
    obtain ⟨x, more, tail, rfl, rfl, htail, hrem, hmore⟩ := ih h (fun _ => by simp [hpiece rfl])
    exact ⟨c :: x, more, tail, by simp, rfl, htail, hrem.inside (hpiece rfl), hmore⟩
  | case4 piece c rest hopen ih =>
    rw [Bool.and_eq_true] at hopen
    obtain ⟨x, more, tail, rfl, rfl, htail, hrem, hmore⟩ :=
      ih h (fun _ => by simp [Lexeme.isBlank_of_isQuote hopen.1])
    exact ⟨c :: x, more, tail, by simp, rfl, htail, hrem.opens hopen.1 hopen.2, hmore⟩
  | case5 piece c rest hopen after hcut ih =>
    obtain ⟨found, hfound, rfl⟩ := Option.map_eq_some_iff.mp h
    obtain ⟨x, more, -, rfl, -, -, hrem, hmore⟩ := ih hfound (by simp)
    refine ⟨[], ([] ++ x) :: more, c :: rest, by simp, rfl, apart_of_cut? hcut, .nil s piece, ?_⟩
    intro p hp
    rcases List.mem_cons.mp hp with rfl | hp
    · exact hrem.whole
    · exact hmore p hp
  | case6 piece c rest hopen hcut ih =>
    obtain ⟨x, more, tail, rfl, rfl, htail, hrem, hmore⟩ := ih h (by simp)
    have hx : s.cut? piece (c :: x) = none := by
      rw [← List.cons_append, cut?_append (by simp) htail, Option.map_eq_none_iff] at hcut
      exact hcut
    exact ⟨c :: x, more, tail, by simp, rfl, htail, hrem.skip hopen hx, hmore⟩

/-- The pieces between separators that are not protected can be pieces, once they are trimmed. -/
lemma whole_of_mem_splitQuoted {pieces : List (List Char)}
    (h : s.splitQuoted text = some pieces) {p : List Char} (hp : p ∈ pieces) :
    s.Whole (trim p) := by
  obtain ⟨x, more, -, rfl, -, -, hrem, hmore⟩ := exists_remainder h (by simp)
  rcases List.mem_cons.mp hp with rfl | hp
  · exact hrem.whole
  · exact hmore p hp

lemma exists_uncut (s : Separator) (piece text : List Char) :
    ∃ x more tail, s.splitPlainFrom piece text = (piece ++ x) :: more ∧ text = x ++ tail ∧
      Apart tail ∧ s.Uncut piece x ∧ ∀ p ∈ more, s.Uncut [] p := by
  induction piece, text using scan_induction s with
  | nil piece =>
    exact ⟨[], [], [], by simp [splitPlainFrom_nil], rfl, by simp [Apart], .nil s piece, by simp⟩
  | cut piece text after hcut ih =>
    obtain ⟨x, more, -, hsplit, -, -, hx, hmore⟩ := ih
    refine ⟨[], ([] ++ x) :: more, text, ?_, rfl, apart_of_cut? hcut, .nil s piece, ?_⟩
    · rw [splitPlainFrom_cut hcut, hsplit, List.append_nil]
    · intro p hp
      rcases List.mem_cons.mp hp with rfl | hp
      · exact hx
      · exact hmore p hp
  | skip piece c rest hcut ih =>
    obtain ⟨x, more, tail, hsplit, rfl, htail, hx, hmore⟩ := ih
    rw [← List.cons_append, cut?_append (by simp) htail, Option.map_eq_none_iff] at hcut
    refine ⟨c :: x, more, tail, ?_, rfl, htail, Uncut.cons_iff.mpr ⟨hcut, hx⟩, hmore⟩
    rw [splitPlainFrom_skip, hsplit]
    · simp
    · rw [← List.cons_append, cut?_append (by simp) htail, hcut, Option.map_none]

/-- Without regard to quotes nothing is cut within a piece. -/
lemma uncut_of_mem_splitPlain {p : List Char} (hp : p ∈ s.splitPlain text) : s.Uncut [] p := by
  obtain ⟨x, more, -, hsplit, -, -, hx, hmore⟩ := exists_uncut s [] text
  rw [splitPlain, hsplit] at hp
  rcases List.mem_cons.mp hp with rfl | hp
  · exact hx
  · exact hmore p hp

/-! ### Arrows -/

/-- The text can be a step: arrows stand only between a quote that starts the text and the next
quote of its kind. -/
def Clean (t : List Char) : Prop :=
  ((∀ c ∈ t.head?, Lexeme.isQuote c = false) ∧ ¬ arrow.text <:+: t) ∨
    ∃ q inside rest, Lexeme.isQuote q = true ∧ q ∉ inside ∧ t = q :: inside ++ q :: rest ∧
      ¬ arrow.text <:+: rest

lemma uncut_arrow_iff {before t : List Char} : arrow.Uncut before t ↔ ¬ arrow.text <:+: t := by
  induction t generalizing before with
  | nil => simp [Uncut.nil, Separator.text]
  | cons c t ih =>
    rw [Uncut.cons_iff, ih, cut?_arrow, stripStart?_eq_none_iff, List.infix_cons_iff, not_or]

/-- What can be a step is what can be a piece between arrows. -/
lemma clean_iff_whole {t : List Char} : Clean t ↔ arrow.Whole t := by
  simp only [Clean, Whole, uncut_arrow_iff]

lemma Clean.passes {t : List Char} (h : Clean t) (ht : Trimmed t) : arrow.Passes t :=
  (clean_iff_whole.mp h).passes ht

/-- Each piece between arrows can be a step, or has no arrow at all. -/
theorem clean_or_not_infix_of_mem_split {p : List Char} (hp : p ∈ arrow.split text) :
    Clean (trim p) ∨ ¬ arrow.text <:+: p := by
  rw [split] at hp
  cases hq : arrow.splitQuoted text with
  | none =>
    rw [hq] at hp
    exact Or.inr (uncut_arrow_iff.mp (uncut_of_mem_splitPlain hp))
  | some pieces =>
    rw [hq] at hp
    exact Or.inl (clean_iff_whole.mpr (whole_of_mem_splitQuoted hq hp))

end Separator

end ChainScript
