import ChainScript.Proofs.Floats
import ChainScript.Proofs.Literals

/-!
# What the lexer takes for a number

More texts read as numbers than the lexer takes for one: the words for infinity and for no number
read so too. After its signs a number has a digit or a point, which no word has, so that exactly the
texts that are written with digits are left, and what is read from these is a number.
-/

namespace ChainScript

open Decimal.Numeral

namespace Decimal

variable {t : List Char}

namespace Numeral

lemma IsMantissa.exists_digit (h : IsMantissa t) : ∃ c ∈ t, c.isDigit = true := by
  rcases h with @⟨_, hd⟩ | @⟨whole, fraction, hw, hf, hne⟩
  · obtain ⟨hne, hdigit⟩ := allDigits_iff.mp hd
    obtain ⟨c, hc⟩ := List.exists_mem_of_ne_nil _ hne
    exact ⟨c, hc, hdigit c hc⟩
  · rcases hne with hne | hne
    · obtain ⟨c, hc⟩ := List.exists_mem_of_ne_nil _ hne
      exact ⟨c, List.mem_append_left _ hc, hw c hc⟩
    · obtain ⟨c, hc⟩ := List.exists_mem_of_ne_nil _ hne
      exact ⟨c, List.mem_append_right _ (List.mem_cons_of_mem _ hc), hf c hc⟩

lemma IsWritten.exists_digit (h : IsWritten t) : ∃ c ∈ t, c.isDigit = true := by
  obtain ⟨m, e, hm, -, rfl⟩ := h
  obtain ⟨c, hc, hdigit⟩ := hm.exists_digit
  exact ⟨c, List.mem_append_left e hc, hdigit⟩

end Numeral

/-! ### All that reads as a number -/

/-- A word for infinity or for no number, in any mixture of cases. -/
def IsWord (t : List Char) : Prop :=
  t.map Char.toLower ∈ ["inf".toList, "infinity".toList, "nan".toList]

lemma readWord?_isSome_iff : (readWord? t).isSome = true ↔ IsWord t := by
  rw [readWord?, IsWord]
  split_ifs with hinf hnan
  · refine iff_of_true rfl ?_
    rcases hinf with hinf | hinf <;> rw [hinf] <;> decide
  · refine iff_of_true rfl ?_
    rw [hnan]
    decide
  · refine iff_of_false Bool.false_ne_true fun h => ?_
    simp only [List.mem_cons, List.not_mem_nil, or_false] at h
    rcases h with h | h | h
    · exact hinf (Or.inl h)
    · exact hinf (Or.inr h)
    · exact hnan h

lemma readUnsigned?_isSome_iff : (readUnsigned? t).isSome = true ↔ IsWritten t ∨ IsWord t := by
  rw [← read?_isSome_iff, ← readWord?_isSome_iff, readUnsigned?]
  cases hread : read? t with
  | none => simp
  | some n => simp

lemma isSign_eq_false_of_isWord (h : IsWord t) : ∀ c ∈ t.head?, Lexeme.isSign c = false := by
  intro c hc
  rw [Bool.eq_false_iff]
  intro hsign
  have hlower : c.toLower = c := by
    rw [Lexeme.isSign, Bool.or_eq_true, beq_iff_eq, beq_iff_eq] at hsign
    rcases hsign with rfl | rfl <;> decide
  have hhead : (t.map Char.toLower).head? = some c := by
    rw [List.head?_map, Option.mem_def.mp hc, Option.map_some, hlower]
  have hletter : c = 'i' ∨ c = 'n' := by
    simp only [IsWord, List.mem_cons, List.not_mem_nil, or_false] at h
    rcases h with h | h | h <;> rw [h] at hhead <;> cases hhead
    · exact Or.inl rfl
    · exact Or.inl rfl
    · exact Or.inr rfl
  rcases hletter with rfl | rfl <;> revert hsign <;> decide

/-- A word without a sign is read as such. -/
lemma readFloat?_of_isWord (h : IsWord t) : readFloat? t = readUnsigned? t := by
  have hhead := isSign_eq_false_of_isWord h
  unfold readFloat?
  split
  · exact absurd (hhead '+' rfl) (by decide)
  · exact absurd (hhead '-' rfl) (by decide)
  · rfl

/-- What reads as a number: at most one sign, then digits or a word. -/
theorem isNumber_iff : isNumber t = true ↔
    ∃ sign u, IsSign sign ∧ (IsWritten u ∨ IsWord u) ∧ t = sign ++ u := by
  rw [isNumber]
  constructor
  · intro h
    unfold readFloat? at h
    split at h
    · next u => exact ⟨['+'], u, by simp [IsSign], readUnsigned?_isSome_iff.mp h, rfl⟩
    · next u =>
      rw [Option.isSome_map] at h
      exact ⟨['-'], u, by simp [IsSign], readUnsigned?_isSome_iff.mp h, rfl⟩
    · exact ⟨[], t, by simp [IsSign], readUnsigned?_isSome_iff.mp h, rfl⟩
  · rintro ⟨sign, u, hs, hu, rfl⟩
    have hread : (readUnsigned? u).isSome = true := readUnsigned?_isSome_iff.mpr hu
    rcases hs with rfl | rfl | rfl
    · have hplain : readFloat? u = readUnsigned? u :=
        hu.elim readFloat?_of_isWritten readFloat?_of_isWord
      rwa [List.nil_append, hplain]
    · exact hread
    · rw [List.singleton_append, readFloat?, Option.isSome_map]
      exact hread

end Decimal

/-! ### What is taken for one -/

namespace Lexeme

variable {sign t u : List Char}

/-- Dropping signs uncovers the digits and the point. -/
lemma dropWhile_isSign (hs : IsSign sign) (hu : IsWritten u) :
    (sign ++ u).dropWhile isSign = u := by
  have hall : sign.all isSign = true := by
    rcases hs with rfl | rfl | rfl <;> decide
  obtain ⟨c, r, rfl, hc⟩ := hu.exists_head
  rw [List.dropWhile_append_of_pos (List.all_eq_true.mp hall), List.dropWhile_cons_of_neg]
  rw [isSign_eq_false hc]
  exact Bool.false_ne_true

lemma isNumeral_of_isWritten (hs : IsSign sign) (hu : IsWritten u) :
    isNumeral (sign ++ u) = true := by
  have hdigit : u.any Char.isDigit = true := List.any_eq_true.mpr hu.exists_digit
  have hnumber : Decimal.isNumber (sign ++ u) = true :=
    Decimal.isNumber_iff.mpr ⟨sign, u, hs, Or.inl hu, rfl⟩
  have hstart : startsNumber u = true := by
    obtain ⟨c, r, rfl, hc⟩ := hu.exists_head
    simpa [startsNumber] using hc
  simp only [isNumeral, dropWhile_isSign hs hu, hstart, hdigit, hnumber, Bool.and_self]

lemma isNumeral_iff :
    isNumeral t = true ↔ ∃ sign u, IsSign sign ∧ IsWritten u ∧ t = sign ++ u := by
  constructor
  · exact isWritten_of_isNumeral
  · rintro ⟨sign, u, hs, hu, rfl⟩
    exact isNumeral_of_isWritten hs hu

lemma category_eq_number_iff : category t = .number ↔ isNumeral t = true :=
  ⟨isNumeral_of_category, category_of_isNumeral⟩

lemma category_of_isSome (h : (literal? t).isSome = true) :
    category t = .quoted ∨ category t = .number ∨ category t = .boolean := by
  rw [literal?] at h
  cases hcategory : category t with
  | quoted => exact Or.inl rfl
  | number => exact Or.inr (Or.inl rfl)
  | boolean => exact Or.inr (Or.inr rfl)
  | empty | identifier | other =>
    rw [hcategory] at h
    cases h

lemma exists_literal_number (h : category t = .number) :
    ∃ x, literal? t = some (.number x) ∧ x.isNaN = false := by
  obtain ⟨value, hvalue⟩ := Option.isSome_iff_exists.mp (isSome_literal? (Or.inr (Or.inl h)))
  obtain ⟨x, rfl⟩ := exists_number h hvalue
  refine ⟨x, hvalue, ?_⟩
  rw [literal?, h] at hvalue
  obtain ⟨y, hy, hxy⟩ := Option.map_eq_some_iff.mp hvalue
  cases hxy
  exact isNaN_of_isNumeral (isNumeral_of_category h) hy

lemma category_of_literal_number {x : Float} (h : literal? t = some (.number x)) :
    category t = .number := by
  have hsome : (literal? t).isSome = true := by rw [h, Option.isSome_some]
  rcases category_of_isSome hsome with hcategory | hcategory | hcategory
  · rw [literal?, hcategory] at h
    cases h
  · exact hcategory
  · rw [literal?, hcategory] at h
    cases h

/-- Of the texts that read as numbers, which are a sign with digits or a word after it, the lexer
takes for numbers exactly those that are written with digits. It is for these that the literal is a
number, and it is never the value that is no number. A literal is what is quoted, a number or a
truth value. -/
theorem number_grammar (t : List Char) :
    (Decimal.isNumber t = true ↔
      ∃ sign u, IsSign sign ∧ (IsWritten u ∨ Decimal.IsWord u) ∧ t = sign ++ u) ∧
    (category t = .number ↔ ∃ sign u, IsSign sign ∧ IsWritten u ∧ t = sign ++ u) ∧
    (category t = .number ↔ ∃ x, literal? t = some (.number x) ∧ x.isNaN = false) ∧
    ((literal? t).isSome = true ↔
      category t = .quoted ∨ category t = .number ∨ category t = .boolean) := by
  refine ⟨Decimal.isNumber_iff, category_eq_number_iff.trans isNumeral_iff, ?_, ?_⟩
  · constructor
    · exact exists_literal_number
    · rintro ⟨x, hx, -⟩
      exact category_of_literal_number hx
  · constructor
    · exact category_of_isSome
    · exact isSome_literal?

end Lexeme

end ChainScript
