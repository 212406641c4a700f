import ChainScript.Proofs.Splitting
import Mathlib.Data.List.Basic

/-!
# How numbers are written

The texts that read as numbers written with digits: at most one sign, digits with at most one point
among them, and perhaps a power of ten.
-/

namespace ChainScript

namespace Decimal

namespace Numeral

/-- Digits with at most one point, and at least one digit. -/
inductive IsMantissa : List Char → Prop where
  | whole {digits : List Char} (h : allDigits digits = true) : IsMantissa digits
  | point {whole fraction : List Char} (hw : ∀ c ∈ whole, c.isDigit = true)
      (hf : ∀ c ∈ fraction, c.isDigit = true) (h : whole ≠ [] ∨ fraction ≠ []) :
      IsMantissa (whole ++ '.' :: fraction)

/-- At most one sign. -/
def IsSign (sign : List Char) : Prop :=
  sign = [] ∨ sign = ['+'] ∨ sign = ['-']

/-- Nothing, or an `e` in either case with at most one sign and digits after it. -/
inductive IsExponent : List Char → Prop where
  | none : IsExponent []
  | power {e : Char} {sign digits : List Char} (he : e = 'e' ∨ e = 'E') (hs : IsSign sign)
      (h : allDigits digits = true) : IsExponent (e :: (sign ++ digits))

lemma allDigits_iff {t : List Char} :
    allDigits t = true ↔ t ≠ [] ∧ ∀ c ∈ t, c.isDigit = true := by
  simp [allDigits]

lemma allDigits_ne_cons {t : List Char} {c : Char} (hc : c.isDigit = false)
    (h : allDigits t = true) (rest : List Char) : t ≠ c :: rest := by
  rintro rfl
  have := (allDigits_iff.mp h).2 c (by simp)
  rw [hc] at this
  cases this

/-! ### Reading the parts -/

lemma readSigned?_isSome_iff {t : List Char} : (readSigned? t).isSome = true ↔
    ∃ sign digits, IsSign sign ∧ allDigits digits = true ∧ t = sign ++ digits := by
  have hsome : ∀ (b : Bool) (n : Int), (if b = true then some n else none).isSome = b := by
    intro b n
    cases b <;> rfl
  constructor
  · intro h
    unfold readSigned? at h
    split at h
    · next digits => exact ⟨['+'], digits, by simp [IsSign], by rwa [hsome] at h, rfl⟩
    · next digits => exact ⟨['-'], digits, by simp [IsSign], by rwa [hsome] at h, rfl⟩
    · exact ⟨[], t, by simp [IsSign], by rwa [hsome] at h, rfl⟩
  · rintro ⟨sign, digits, rfl | rfl | rfl, h, rfl⟩
    · unfold readSigned?
      split
      · next rest => exact absurd rfl (allDigits_ne_cons (by decide) h rest)
      · next rest => exact absurd rfl (allDigits_ne_cons (by decide) h rest)
      · rwa [hsome]
    · simp [readSigned?, h]
    · simp [readSigned?, h]

lemma readExponent?_isSome_iff {t : List Char} :
    (readExponent? t).isSome = true ↔ IsExponent t := by
  constructor
  · intro h
    cases t with
    | nil => exact .none
    | cons e rest =>
      rw [readExponent?] at h
      split at h
      · next he =>
        obtain ⟨sign, digits, hs, hd, rfl⟩ := readSigned?_isSome_iff.mp h
        exact .power he hs hd
      · cases h
  · rintro (_ | ⟨he, hs, h⟩)
    · rfl
    · rw [readExponent?, if_pos he]
      exact readSigned?_isSome_iff.mpr ⟨_, _, hs, h, rfl⟩

lemma IsExponent.head_not_digit {t : List Char} (h : IsExponent t) :
    ∀ c ∈ t.head?, c.isDigit = false ∧ c ≠ '.' := by
  intro c hc
  rcases h with _ | ⟨he, hs, h⟩
  · cases hc
  · rw [List.head?_cons, Option.mem_some_iff] at hc
    rcases he with rfl | rfl <;> subst hc <;> decide

lemma splitFraction_point (rest : List Char) : splitFraction ('.' :: rest) =
    (rest.takeWhile Char.isDigit, rest.dropWhile Char.isDigit) := rfl

lemma splitFraction_of_head {t : List Char} (h : ∀ c ∈ t.head?, c ≠ '.') :
    splitFraction t = ([], t) := by
  unfold splitFraction
  split
  · exact absurd rfl (h '.' rfl)
  · rfl

/-- Digits are taken up to something that starts with none. -/
lemma span_digits {digits rest : List Char} (hd : ∀ c ∈ digits, c.isDigit = true)
    (hr : ∀ c ∈ rest.head?, c.isDigit = false) :
    (digits ++ rest).takeWhile Char.isDigit = digits ∧
      (digits ++ rest).dropWhile Char.isDigit = rest := by
  rw [List.takeWhile_append_of_pos hd, List.dropWhile_append_of_pos hd]
  cases rest with
  | nil => simp
  | cons c rest =>
    have hc := hr c rfl
    rw [List.takeWhile_cons, List.dropWhile_cons, hc]
    simp

/-! ### The grammar -/

/-- A number without a sign, written with digits. -/
def IsWritten (t : List Char) : Prop :=
  ∃ m e, IsMantissa m ∧ IsExponent e ∧ t = m ++ e

lemma isWritten_of_read? {t : List Char} (h : (read? t).isSome = true) : IsWritten t := by
  have hdigits : ∀ u : List Char, ∀ c ∈ u.takeWhile Char.isDigit, c.isDigit = true :=
    fun u c hc => List.mem_takeWhile_imp hc
  have ht := List.takeWhile_append_dropWhile (p := Char.isDigit) (l := t)
  unfold read? at h
  cases hrest : t.dropWhile Char.isDigit with
  | nil =>
    rw [hrest, List.append_nil] at ht
    rw [hrest, splitFraction_of_head (by simp)] at h
    dsimp only at h
    split at h
    · cases h
    · next hne =>
      refine ⟨t, [], .whole (allDigits_iff.mpr ⟨?_, ?_⟩), .none, by simp⟩
      · rintro rfl
        simp at hne
      · rw [← ht]
        exact hdigits t
  | cons c rest =>
    rw [hrest] at ht h
    by_cases hc : c = '.'
    · subst hc
      rw [splitFraction_point] at h
      dsimp only at h
      split at h
      · cases h
      · next hne =>
        rw [Option.isSome_map, readExponent?_isSome_iff] at h
        refine ⟨_, _, .point (hdigits t) (hdigits rest) ?_, h, ?_⟩
        · simpa [-List.takeWhile_eq_nil_iff, imp_iff_not_or] using hne
        · rw [List.append_assoc, List.cons_append, List.takeWhile_append_dropWhile, ht]
    · rw [splitFraction_of_head (by simpa using hc)] at h
      dsimp only at h
      split at h
      · cases h
      · next hne =>
        rw [Option.isSome_map, readExponent?_isSome_iff] at h
        refine ⟨_, _, .whole (allDigits_iff.mpr ⟨?_, hdigits t⟩), h, ht.symm⟩
        simpa [-List.takeWhile_eq_nil_iff] using hne

lemma read?_of_isWritten {t : List Char} (h : IsWritten t) : (read? t).isSome = true := by
  obtain ⟨m, e, hm, he, rfl⟩ := h
  have hhead := he.head_not_digit
  unfold read?
  rcases hm with @⟨digits, hd⟩ | @⟨whole, fraction, hw, hf, hne⟩
  · obtain ⟨hdne, hdigit⟩ := allDigits_iff.mp hd
    obtain ⟨htake, hdrop⟩ := span_digits hdigit fun c hc => (hhead c hc).1
    rw [htake, hdrop, splitFraction_of_head fun c hc => (hhead c hc).2]
    dsimp only
    rw [if_neg (by simp [hdne]), Option.isSome_map]
    exact readExponent?_isSome_iff.mpr he
  · have hpoint : ∀ c ∈ ('.' :: (fraction ++ e)).head?, c.isDigit = false := by
      intro c hc
      cases hc
      decide
    obtain ⟨htake, hdrop⟩ := span_digits hw hpoint
    obtain ⟨hftake, hfdrop⟩ := span_digits hf fun c hc => (hhead c hc).1
    rw [List.append_assoc, List.cons_append, htake, hdrop, splitFraction_point, hftake, hfdrop]
    dsimp only
    rw [if_neg (by simpa [imp_iff_not_or] using hne), Option.isSome_map]
    exact readExponent?_isSome_iff.mpr he

/-- The reader of numerals takes exactly what the grammar describes. -/
theorem read?_isSome_iff {t : List Char} : (read? t).isSome = true ↔ IsWritten t :=
  ⟨isWritten_of_read?, read?_of_isWritten⟩

lemma IsMantissa.exists_head {t : List Char} (h : IsMantissa t) :
    ∃ c r, t = c :: r ∧ (c.isDigit = true ∨ c = '.') := by
  rcases h with @⟨_, hd⟩ | @⟨whole, fraction, hw, _, _⟩
  · obtain ⟨hne, hdigit⟩ := allDigits_iff.mp hd
    obtain ⟨c, r, rfl⟩ := List.exists_cons_of_ne_nil hne
    exact ⟨c, r, rfl, Or.inl (hdigit c (by simp))⟩
  · cases whole with
    | nil => exact ⟨'.', fraction, rfl, Or.inr rfl⟩
    | cons c r => exact ⟨c, r ++ '.' :: fraction, rfl, Or.inl (hw c (by simp))⟩

lemma IsWritten.exists_head {t : List Char} (h : IsWritten t) :
    ∃ c r, t = c :: r ∧ (c.isDigit = true ∨ c = '.') := by
  obtain ⟨m, e, hm, -, rfl⟩ := h
  obtain ⟨c, r, rfl, hc⟩ := hm.exists_head
  exact ⟨c, r ++ e, rfl, hc⟩

lemma IsMantissa.not_mem {t : List Char} (h : IsMantissa t) {c : Char} (hc : c.isDigit = false)
    (hpoint : c ≠ '.') : c ∉ t := by
  intro hmem
  have hdigit : c.isDigit = true := by
    rcases h with @⟨_, hd⟩ | @⟨whole, fraction, hw, hf, _⟩
    · exact (allDigits_iff.mp hd).2 c hmem
    · rcases List.mem_append.mp hmem with hmem | hmem
      · exact hw c hmem
      · rcases List.mem_cons.mp hmem with rfl | hmem
        · exact absurd rfl hpoint
        · exact hf c hmem
  rw [hc] at hdigit
  cases hdigit

/-! ### Characters -/

/-- The characters that numbers are written with. -/
def IsNumberChar (c : Char) : Prop :=
  c.isDigit = true ∨ c ∈ ['.', 'e', 'E', '+', '-']

lemma IsNumberChar.plain {c : Char} (h : IsNumberChar c) :
    Lexeme.isQuote c = false ∧ Text.isBlank c = false ∧ c ≠ '>' := by
  rcases h with h | h
  · refine ⟨?_, ?_, ?_⟩
    · rw [Bool.eq_false_iff]
      intro hq
      rcases Lexeme.isQuote_iff.mp hq with rfl | rfl <;> revert h <;> decide
    · rw [Bool.eq_false_iff]
      intro hb
      rw [Text.isDigit_of_isBlank hb] at h
      cases h
    · rintro rfl
      revert h
      decide
  · simp only [List.mem_cons, List.not_mem_nil, or_false] at h
    rcases h with rfl | rfl | rfl | rfl | rfl <;> decide

lemma isNumberChar_of_isWritten {u : List Char} (h : IsWritten u) : ∀ c ∈ u, IsNumberChar c := by
  obtain ⟨m, e, hm, he, rfl⟩ := h
  intro c hc
  rcases List.mem_append.mp hc with hc | hc
  · rcases hm with @⟨_, hd⟩ | @⟨whole, fraction, hw, hf, _⟩
    · exact Or.inl ((allDigits_iff.mp hd).2 c hc)
    · rcases List.mem_append.mp hc with hc | hc
      · exact Or.inl (hw c hc)
      · rcases List.mem_cons.mp hc with rfl | hc
        · exact Or.inr (by simp)
        · exact Or.inl (hf c hc)
  · rcases he with _ | ⟨he, hs, hd⟩
    · cases hc
    · rcases List.mem_cons.mp hc with rfl | hc
      · rcases he with rfl | rfl <;> exact Or.inr (by simp)
      · rcases List.mem_append.mp hc with hc | hc
        · rcases hs with rfl | rfl | rfl
          · cases hc
          · exact Or.inr (by simp [List.mem_singleton.mp hc])
          · exact Or.inr (by simp [List.mem_singleton.mp hc])
        · exact Or.inl ((allDigits_iff.mp hd).2 c hc)

end Numeral

/-! ### Numbers and words -/

open Numeral

/-- A number without a sign is read as such. -/
lemma readFloat?_of_isWritten {t : List Char} (h : IsWritten t) :
    readFloat? t = readUnsigned? t := by
  obtain ⟨c, r, rfl, hc⟩ := h.exists_head
  unfold readFloat?
  split
  · next heq =>
    cases heq
    exact absurd hc (by decide)
  · next heq =>
    cases heq
    exact absurd hc (by decide)
  · rfl

lemma exists_readUnsigned?_of_isWritten {t : List Char} (h : IsWritten t) :
    ∃ n : Numeral, readUnsigned? t = some n.toFloat := by
  obtain ⟨n, hn⟩ := Option.isSome_iff_exists.mp (read?_isSome_iff.mpr h)
  exact ⟨n, by rw [readUnsigned?, hn]⟩

lemma isNumber_of_isWritten {t : List Char} (h : IsWritten t) :
    isNumber t = true ∧ isNumber ('-' :: t) = true ∧ isNumber ('+' :: t) = true := by
  obtain ⟨n, hn⟩ := exists_readUnsigned?_of_isWritten h
  refine ⟨?_, by simp [isNumber, readFloat?, hn], by simp [isNumber, readFloat?, hn]⟩
  rw [isNumber, readFloat?_of_isWritten h, hn, Option.isSome_some]

lemma toLower_of_startsNumber {c : Char} (h : c.isDigit = true ∨ c = '.') : c.toLower = c := by
  rcases h with h | rfl
  · simp only [Char.isDigit, Bool.and_eq_true, decide_eq_true_eq, ge_iff_le] at h
    refine dif_neg ?_
    rintro ⟨hA, -⟩
    have := UInt32.le_trans hA h.2
    revert this
    decide
  · decide

lemma isWritten_of_readUnsigned? {t : List Char} (h : (readUnsigned? t).isSome = true)
    (hstart : Lexeme.startsNumber (t.dropWhile Lexeme.isSign) = true) : IsWritten t := by
  rw [readUnsigned?] at h
  cases hr : read? t with
  | some n => exact read?_isSome_iff.mp (by rw [hr]; rfl)
  | none =>
    -- the words for infinity and for no number do not start with a digit or a point
    exfalso
    have hword : ∃ w ∈ ['i', 'n'], (t.map Char.toLower).head? = some w := by
      simp only [hr, readWord?] at h
      split at h
      · next hinf => rcases hinf with hinf | hinf <;> exact ⟨'i', by simp, by rw [hinf]; rfl⟩
      · split at h
        · next hnan => exact ⟨'n', by simp, by rw [hnan]; rfl⟩
        · cases h
    obtain ⟨w, hw, hhead⟩ := hword
    cases t with
    | nil => cases hhead
    | cons c r =>
      rw [List.map_cons, List.head?_cons, Option.some.injEq] at hhead
      have hsign : Lexeme.isSign c = false := by
        rw [Bool.eq_false_iff]
        intro hc
        rw [Lexeme.isSign, Bool.or_eq_true, beq_iff_eq, beq_iff_eq] at hc
        rcases hc with rfl | rfl <;> subst hhead <;> revert hw <;> decide
      rw [List.dropWhile_cons, hsign] at hstart
      have hc : c.isDigit = true ∨ c = '.' := by simpa [Lexeme.startsNumber] using hstart
      rw [toLower_of_startsNumber hc] at hhead
      subst hhead
      rcases hc with hc | rfl
      · rcases List.mem_cons.mp hw with rfl | hw
        · revert hc
          decide
        · rw [List.mem_singleton.mp hw] at hc
          revert hc
          decide
      · revert hw
        decide

end Decimal

open Decimal.Numeral

namespace Lexeme

/-- What reads as a number and has a digit or a point after its signs is written with at most one
sign. -/
lemma isWritten_of_isNumber {t : List Char}
    (hstart : startsNumber (t.dropWhile isSign) = true) (hnumber : Decimal.isNumber t = true) :
    ∃ sign u, IsSign sign ∧ IsWritten u ∧ t = sign ++ u := by
  rw [Decimal.isNumber] at hnumber
  unfold Decimal.readFloat? at hnumber
  split at hnumber
  · next u =>
    exact ⟨['+'], u, by simp [IsSign],
      Decimal.isWritten_of_readUnsigned? hnumber hstart, rfl⟩
  · next u =>
    rw [Option.isSome_map] at hnumber
    exact ⟨['-'], u, by simp [IsSign],
      Decimal.isWritten_of_readUnsigned? hnumber hstart, rfl⟩
  · exact ⟨[], t, by simp [IsSign],
      Decimal.isWritten_of_readUnsigned? hnumber hstart, rfl⟩

/-- A token that is a number is written with at most one sign before it. -/
theorem isWritten_of_isNumeral {t : List Char} (h : isNumeral t = true) :
    ∃ sign u, IsSign sign ∧ IsWritten u ∧ t = sign ++ u := by
  rw [isNumeral, Bool.and_eq_true, Bool.and_eq_true] at h
  exact isWritten_of_isNumber h.1.1 h.2

lemma isNumeral_of_category {t : List Char} (h : category t = .number) :
    isNumeral t = true := by
  rw [category] at h
  split_ifs at h with _ _ hnum
  exact hnum

lemma isNumberChar_of_isNumeral {t : List Char} (h : isNumeral t = true) :
    ∀ c ∈ t, IsNumberChar c := by
  obtain ⟨sign, u, hs, hu, rfl⟩ := isWritten_of_isNumeral h
  intro c hc
  rcases List.mem_append.mp hc with hc | hc
  · rcases hs with rfl | rfl | rfl
    · cases hc
    · exact Or.inr (by simp [List.mem_singleton.mp hc])
    · exact Or.inr (by simp [List.mem_singleton.mp hc])
  · exact isNumberChar_of_isWritten hu c hc

lemma trimmed_of_isNumeral {t : List Char} (h : isNumeral t = true) : Text.Trimmed t :=
  Text.trimmed_of_forall fun c hc => (isNumberChar_of_isNumeral h c hc).plain.2.1

end Lexeme

/-! ### Powers of ten -/

namespace Separator

lemma isMantissa_of_written {sign m : List Char} {e : Char} (hs : sign = [] ∨ sign = ['-'])
    (hm : IsMantissa m) (he : e = 'e' ∨ e = 'E') : isMantissa (sign ++ m ++ [e]) = true := by
  obtain ⟨c, r, rfl, hc⟩ := hm.exists_head
  have hstart : Lexeme.startsNumber ((sign ++ c :: r).dropWhile (· == '-')) = true := by
    have hminus : (c == '-') = false := by
      rw [beq_eq_false_iff_ne]
      rintro rfl
      revert hc
      decide
    rcases hs with rfl | rfl <;> simp [hminus, Lexeme.startsNumber, hc]
  have hwritten : IsWritten (c :: r) := ⟨c :: r, [], hm, .none, by simp⟩
  have hnumber : Decimal.isNumber (sign ++ c :: r) = true := by
    obtain ⟨hplain, hminus, -⟩ := Decimal.isNumber_of_isWritten hwritten
    rcases hs with rfl | rfl
    · exact hplain
    · exact hminus
  rw [isMantissa, List.getLast?_concat, List.dropLast_concat]
  rcases he with rfl | rfl <;> simp only [hstart, hnumber, Bool.and_self]

/-- The one plus sign in a mantissa with a power of ten is the sign of the power. -/
lemma eq_of_plus_in_power {front es digits x w : List Char} {e : Char} (hfront : '+' ∉ front)
    (he : e = 'e' ∨ e = 'E') (hes : IsSign es) (hd : allDigits digits = true)
    (h : x ++ '+' :: w = front ++ e :: (es ++ digits)) : x = front ++ [e] ∧ w = digits := by
  have hdplus : '+' ∉ digits := by
    intro hmem
    have := (allDigits_iff.mp hd).2 _ hmem
    revert this
    decide
  have heplus : '+' ∉ front ++ [e] := by
    rw [List.mem_append, not_or]
    exact ⟨hfront, by rcases he with rfl | rfl <;> decide⟩
  have hmem : '+' ∈ front ++ [e] ++ (es ++ digits) := by
    rw [List.append_assoc, List.singleton_append, ← h]
    simp
  have hplus : es = ['+'] := by
    rcases List.mem_append.mp hmem with hmem | hmem
    · exact absurd hmem heplus
    · rcases List.mem_append.mp hmem with hmem | hmem
      · rcases hes with rfl | rfl | rfl
        · cases hmem
        · rfl
        · exact absurd hmem (by decide)
      · exact absurd hmem hdplus
  have hsplit : front ++ [e] ++ '+' :: digits = x ++ '+' :: w := by
    rw [h, hplus]
    simp
  obtain ⟨hx, -, hw⟩ := (List.append_cons_inj_of_notMem heplus hdplus).mp hsplit
  exact ⟨hx.symm, hw.symm⟩

/-- In a number that does not start with a plus sign, a plus sign follows digits and an `e`, and only
digits follow it. -/
lemma exists_power_of_plus {x w : List Char} (h : Lexeme.isNumeral (x ++ '+' :: w) = true)
    (hplus : (x ++ '+' :: w).head? ≠ some '+') :
    ∃ sign m e, (sign = [] ∨ sign = ['-']) ∧ IsMantissa m ∧ (e = 'e' ∨ e = 'E') ∧
      x = sign ++ m ++ [e] ∧ allDigits w = true := by
  obtain ⟨sign, u, hs, ⟨m, e, hm, he, rfl⟩, ht⟩ := Lexeme.isWritten_of_isNumeral h
  have hsign : sign = [] ∨ sign = ['-'] := by
    rcases hs with hs | hs | hs
    · exact Or.inl hs
    · exact absurd (by rw [ht, hs]; rfl) hplus
    · exact Or.inr hs
  have hfront : '+' ∉ sign ++ m := by
    rw [List.mem_append, not_or]
    refine ⟨?_, hm.not_mem (by decide) (by decide)⟩
    rcases hsign with rfl | rfl <;> decide
  rw [← List.append_assoc] at ht
  rcases he with _ | @⟨e, es, digits, he, hes, hd⟩
  · refine absurd ?_ hfront
    rw [List.append_nil] at ht
    rw [← ht]
    simp
  · obtain ⟨hx, rfl⟩ := eq_of_plus_in_power hfront he hes hd ht
    exact ⟨sign, m, e, hsign, hm, he, hx, hd⟩

/-- In a number that does not start with a plus sign, a plus sign belongs to a power of ten. -/
lemma exponent_of_plus {x w : List Char} (h : Lexeme.isNumeral (x ++ '+' :: w) = true)
    (hplus : (x ++ '+' :: w).head? ≠ some '+') : isMantissa x = true ∧ allDigits w = true := by
  obtain ⟨sign, m, e, hsign, hm, he, rfl, hd⟩ := exists_power_of_plus h hplus
  exact ⟨isMantissa_of_written hsign hm he, hd⟩

end Separator

end ChainScript
