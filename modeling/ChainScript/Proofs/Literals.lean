import ChainScript.Proofs.Resplitting
import ChainScript.Proofs.Warnings

/-!
# Literals as chains

A literal that is written as a chain evaluates to its value. It is the only alternative of its step
unless it is a number that starts with a plus sign. Such a number has an empty alternative before
the plus sign, which gives no result, so that the number after it is what counts.
-/

namespace ChainScript

open Text Decimal.Numeral

namespace Lexeme

/-! ### Numbers -/

variable {t u : List Char}

lemma isSign_eq_false {c : Char} (h : c.isDigit = true ∨ c = '.') : isSign c = false := by
  rw [Bool.eq_false_iff]
  intro hsign
  rw [isSign, Bool.or_eq_true, beq_iff_eq, beq_iff_eq] at hsign
  rcases hsign with rfl | rfl <;> revert h <;> decide

lemma category_of_isNumeral (h : isNumeral t = true) : category t = .number := by
  obtain ⟨c, r, rfl⟩ : ∃ c r, t = c :: r := by
    cases t with
    | nil => cases h
    | cons c r => exact ⟨c, r, rfl⟩
  have hquote : isQuote c = false := (isNumberChar_of_isNumeral h c (List.mem_cons_self ..)).plain.1
  rw [category, if_neg (by simp), if_neg (by simp [isQuoted, hquote]), if_pos h]

/-- A plus sign before a number is followed by a number without a sign. -/
lemma isWritten_of_plus (h : isNumeral ('+' :: u) = true) : IsWritten u := by
  obtain ⟨sign, w, hsign, hw, heq⟩ := isWritten_of_isNumeral h
  rcases hsign with rfl | rfl | rfl
  · obtain ⟨c, r, rfl, hc⟩ := hw.exists_head
    cases heq
    exact absurd (isSign_eq_false hc) (by decide)
  · cases heq
    exact hw
  · cases heq

lemma isNumeral_of_plus (h : isNumeral ('+' :: u) = true) : isNumeral u = true := by
  have hnumber := (Decimal.isNumber_of_isWritten (isWritten_of_plus h)).1
  have hdrop : ('+' :: u).dropWhile isSign = u.dropWhile isSign :=
    List.dropWhile_cons_of_pos (by decide)
  rw [isNumeral, hdrop, Bool.and_eq_true] at h
  rw [isNumeral, Bool.and_eq_true]
  exact ⟨h.1, hnumber⟩

lemma head?_ne_plus_of_plus (h : isNumeral ('+' :: u) = true) : u.head? ≠ some '+' := by
  obtain ⟨c, r, rfl, hc⟩ := (isWritten_of_plus h).exists_head
  intro hplus
  cases hplus
  exact absurd (isSign_eq_false hc) (by decide)

/-- The plus sign before a number makes no difference to its value. -/
lemma literal?_of_plus (h : isNumeral ('+' :: u) = true) : literal? ('+' :: u) = literal? u := by
  have hread := Decimal.readFloat?_of_isWritten (isWritten_of_plus h)
  rw [literal?, literal?, category_of_isNumeral h, category_of_isNumeral (isNumeral_of_plus h),
    hread]
  rfl

/-! ### The kinds of literals -/

/-- A number, a truth value, or a text between quotes that do not occur in it. -/
def IsLiteral (t : List Char) : Prop :=
  category t = .number ∨ category t = .boolean ∨
    category t = .quoted ∧ ∀ q ∈ t.head?, q ∉ inside t

instance (t : List Char) : Decidable (IsLiteral t) :=
  -- at most one character is tried, and not each one that there is
  haveI : Decidable (∀ q ∈ t.head?, q ∉ inside t) := Option.decidableForallMem _
  inferInstanceAs (Decidable (_ ∨ _ ∨ _ ∧ _))

lemma exists_number {value : Value} (h : category t = .number) (hvalue : literal? t = some value) :
    ∃ x, value = .number x := by
  rw [literal?, h] at hvalue
  obtain ⟨x, -, hx⟩ := Option.map_eq_some_iff.mp hvalue
  exact ⟨x, hx.symm⟩

lemma exists_quotation (h : category t = .quoted) :
    ∃ q, isQuote q = true ∧ t = q :: inside t ++ [q] := by
  have hquoted : isQuoted t = true := by
    rw [category] at h
    split_ifs at h with _ hquoted
    exact hquoted
  cases t with
  | nil => cases hquoted
  | cons q rest =>
    rw [isQuoted, Bool.and_eq_true, beq_iff_eq] at hquoted
    refine ⟨q, hquoted.1, ?_⟩
    rw [inside, List.tail_cons, List.cons_append, List.dropLast_append_getLast? q hquoted.2]

lemma eq_of_boolean (h : category t = .boolean) :
    t = ['t', 'r', 'u', 'e'] ∨ t = ['f', 'a', 'l', 's', 'e'] := by
  rw [category] at h
  split_ifs at h with _ _ _ hboolean
  exact hboolean

lemma isAlternative_of_boolean (h : category t = .boolean) : Chain.IsAlternative t := by
  rcases eq_of_boolean h with rfl | rfl
  · exact .plain (by decide) (trim_eq_self_iff.mp (by decide)) (by decide) (by decide)
      (Chain.bare_of_all (by decide))
  · exact .plain (by decide) (trim_eq_self_iff.mp (by decide)) (by decide) (by decide)
      (Chain.bare_of_all (by decide))

namespace IsLiteral

lemma isSome_literal? (h : IsLiteral t) : (literal? t).isSome = true := by
  rcases h with h | h | ⟨h, -⟩
  · exact Lexeme.isSome_literal? (Or.inr (Or.inl h))
  · exact Lexeme.isSome_literal? (Or.inr (Or.inr h))
  · exact Lexeme.isSome_literal? (Or.inl h)

/-- A literal can be written as an alternative, or it is a number with a plus sign before it. -/
lemma isAlternative_or_plus (h : IsLiteral t) :
    Chain.IsAlternative t ∨ ∃ u, t = '+' :: u ∧ isNumeral ('+' :: u) = true := by
  rcases h with h | h | ⟨h, hinside⟩
  · by_cases hplus : t.head? = some '+'
    · obtain ⟨u, rfl⟩ := List.head?_eq_some_iff.mp hplus
      exact Or.inr ⟨u, rfl, isNumeral_of_category h⟩
    · exact Or.inl (.number h hplus)
  · exact Or.inl (isAlternative_of_boolean h)
  · obtain ⟨q, hq, ht⟩ := exists_quotation h
    rw [ht]
    exact Or.inl (.quotation hq (hinside q (by rw [ht]; rfl)))

lemma ne_last (h : IsLiteral t) : t ≠ "last".toList := by
  rintro rfl
  revert h
  decide

end IsLiteral

end Lexeme

/-! ### The steps and alternatives of a literal -/

namespace Chain

open Separator

variable {t u : List Char}

lemma IsAlternative.clean (h : IsAlternative t) : Clean t := by
  rcases h.quotation_or_bare with ⟨q, inside, hq, hinside, rfl⟩ | hbare
  · exact Or.inr ⟨q, inside, [], hq, hinside, rfl, by decide⟩
  · exact Or.inl hbare

lemma clean_of_isNumeral (h : Lexeme.isNumeral t = true) : Clean t := by
  have hchars := Lexeme.isNumberChar_of_isNumeral h
  refine Or.inl ⟨fun c hc => (hchars c (List.mem_of_head? hc)).plain.1, fun harrow => ?_⟩
  exact (hchars '>' (harrow.subset (by decide))).plain.2.2 rfl

/-- A literal can stand in a chain as a step. -/
lemma clean_of_isLiteral (h : Lexeme.IsLiteral t) : Trimmed t ∧ Clean t := by
  rcases h.isAlternative_or_plus with halternative | ⟨u, rfl, hnumeral⟩
  · exact ⟨halternative.trimmed, halternative.clean⟩
  · exact ⟨Lexeme.trimmed_of_isNumeral hnumeral, clean_of_isNumeral hnumeral⟩

/-- The chain that is written with a literal has the literal as its only step. -/
lemma steps_of_isLiteral {text : String} (h : Lexeme.IsLiteral text.toList) :
    steps (braced text) = [text] := by
  have hclean : ∀ t ∈ [text.toList], Clean t ∧ Trimmed t :=
    List.forall_mem_singleton.mpr (clean_of_isLiteral h).symm
  rw [braced_eq_joinSteps, steps_ofList_joinSteps (List.cons_ne_nil _ _) hclean, List.map_singleton,
    String.ofList_toList]

lemma splitAlternatives_of_isAlternative (h : IsAlternative t) : splitAlternatives t = [t] := by
  have hjoin : joinAlternatives [t] = t := List.intercalate_singleton
  have hsplit : splitAlternatives (joinAlternatives [t]) = [t] := by
    refine splitAlternatives_joinAlternatives (List.cons_ne_nil _ _) fun a ha => ?_
    rwa [List.mem_singleton.mp ha]
  rwa [hjoin] at hsplit

/-- The plus sign before a number leaves an empty alternative before it. That of a power of ten goes
with the number. -/
lemma splitAlternatives_of_plus (h : Lexeme.isNumeral ('+' :: u) = true) :
    splitAlternatives ('+' :: u) = [[], u] := by
  have hu := Lexeme.isNumeral_of_plus h
  have hcut : plus.cut? [] ('+' :: u) = some u := by
    simp [cut?, Separator.text, stripStart?, ends, isMantissa]
  have hpass : plus.splitQuotedFrom none [] u = some [u] := by
    have hpasses := passes_plus_of_number hu (Lexeme.head?_ne_plus_of_plus h) [] [] rfl (Or.inl rfl)
    rw [List.append_nil, List.nil_append, splitQuotedFrom_nil] at hpasses
    exact hpasses
  have hquote : ∀ c ∈ ('+' :: u).head?, (Lexeme.isQuote c && allBlank []) = false := by
    intro c hc
    rw [List.head?_cons, Option.mem_some_iff] at hc
    rw [← hc]
    rfl
  have hsplit : plus.split ('+' :: u) = [[], u] := by
    rw [split, splitQuoted, splitQuotedFrom_cut hquote hcut, hpass]
    rfl
  rw [splitAlternatives, hsplit, List.map_cons, List.map_singleton, trim_nil,
    (Lexeme.trimmed_of_isNumeral hu).trim_eq]

/-- A literal is its only alternative, or its second alternative is a number of the same value and
the first one is empty. -/
lemma alternatives_of_isLiteral {text : String} (h : Lexeme.IsLiteral text.toList) :
    alternatives text = [text] ∨ ∃ name, alternatives text = ["", name] ∧
      Lexeme.category name.toList = .number ∧
      Lexeme.literal? name.toList = Lexeme.literal? text.toList := by
  rcases h.isAlternative_or_plus with halternative | ⟨u, htext, hnumeral⟩
  · left
    rw [alternatives, splitAlternatives_of_isAlternative halternative, List.map_singleton,
      String.ofList_toList]
  · refine Or.inr ⟨String.ofList u, ?_, ?_, ?_⟩
    · rw [alternatives, htext, splitAlternatives_of_plus hnumeral]
      rfl
    · rw [String.toList_ofList]
      exact Lexeme.category_of_isNumeral (Lexeme.isNumeral_of_plus hnumeral)
    · rw [String.toList_ofList, htext, Lexeme.literal?_of_plus hnumeral]

end Chain

/-! ### Execution -/

/-- The name is not bound, and there is neither a voice nor a primitive with it. -/
structure Library.Unknown (lib : Library) (scope : Scope) (name : String) : Prop where
  unbound : scope.get? name = none
  noVoice : lib.store.voice? name = none
  noPrimitive : lib.registry.contains name = false

variable {lib : Library} {scope : Scope} {name text : String}

namespace Library.Unknown

lemma set (h : lib.Unknown scope name) {other : String} (hne : other ≠ name) (value : Value) :
    lib.Unknown (scope.set other value) name where
  unbound := by rw [Scope.get?_set_of_ne _ _ hne, h.unbound]
  noVoice := h.noVoice
  noPrimitive := h.noPrimitive

lemma resolve_eq (h : lib.Unknown scope name) :
    Meaning.resolve lib scope name = Meaning.ofLexeme name :=
  Meaning.resolve_of_unknown h.unbound h.noVoice h.noPrimitive

lemma resolve_of_isLiteral (h : lib.Unknown scope name) {value : Value}
    (hname : Lexeme.IsLiteral name.toList) (hvalue : Lexeme.literal? name.toList = some value) :
    Meaning.resolve lib scope name = .literal value := by
  rw [h.resolve_eq]
  rcases hname with hname | hname | ⟨hname, -⟩ <;> simp only [Meaning.ofLexeme, hname, hvalue]

end Library.Unknown

/-- A step that is a literal gives the value of the literal and does nothing else. -/
lemma Step.run_of_isLiteral {value : Value} (htext : Lexeme.IsLiteral text.toList)
    (hvalue : Lexeme.literal? text.toList = some value)
    (hunknown : ∀ name ∈ Chain.alternatives text, lib.Unknown scope name) (enter : Enter)
    (last : Value) :
    (Step.resolve lib scope text).run lib enter scope last = { value, scope, trace := [] } := by
  rcases Chain.alternatives_of_isLiteral htext with halone | ⟨name, hpair, hnumber, hsame⟩
  · have hresolve : Meaning.resolve lib scope text = .literal value :=
      (hunknown text (by simp [halone])).resolve_of_isLiteral htext hvalue
    rw [Step.resolve_of_alternatives lib scope halone, hresolve]
    rfl
  · have hempty : Meaning.resolve lib scope "" = .empty :=
      (hunknown "" (by simp [hpair])).resolve_eq
    have hvalue' := hsame.trans hvalue
    have hresolve : Meaning.resolve lib scope name = .literal value :=
      (hunknown name (by simp [hpair])).resolve_of_isLiteral (Or.inl hnumber) hvalue'
    have hcompound : Step.resolve lib scope text = .compound [.empty, .literal value] := by
      rw [Step.resolve, hpair, List.map_cons, List.map_singleton, hempty, hresolve]
      rfl
    -- the empty alternative gives no result, and a number is one
    obtain ⟨x, rfl⟩ := Lexeme.exists_number hnumber hvalue'
    rw [hcompound]
    rfl

/-- Executing a literal gives its value, and nothing is warned of. It is enough that the
alternatives of the literal as a step name nothing. -/
theorem Library.execute_literal (htext : Lexeme.IsLiteral text.toList)
    (hunknown : ∀ name ∈ Chain.alternatives text, lib.Unknown scope name) (running : List String)
    (seed : Value) :
    let r := lib.execute running (braced text) scope seed
    Lexeme.literal? text.toList = some r.value ∧ r.warnings = [] := by
  obtain ⟨value, hvalue⟩ := Option.isSome_iff_exists.mp htext.isSome_literal?
  have hlast : ∀ name ∈ Chain.alternatives text, name ≠ "last" := by
    rcases Chain.alternatives_of_isLiteral htext with halone | ⟨number, hpair, hnumber, -⟩
    · rw [halone, List.forall_mem_singleton]
      exact fun hname => htext.ne_last (congrArg String.toList hname)
    · rw [hpair, List.forall_mem_cons, List.forall_mem_singleton]
      have hliteral : Lexeme.IsLiteral number.toList := Or.inl hnumber
      exact ⟨by decide, fun hname => hliteral.ne_last (congrArg String.toList hname)⟩
  have hrun := Step.run_of_isLiteral htext hvalue
    (fun name hname => (hunknown name hname).set (hlast name hname).symm seed)
    (lib.enter running) seed
  simp only [execute, runChain, Chain.steps_of_isLiteral htext, runSteps, hrun]
  exact ⟨hvalue, rfl⟩

namespace Digits

/-- A library with a voice whose name is a number. -/
def library : Library where
  store := Store.empty.insertVoice ⟨"2", [], .literal (.bool true)⟩
  registry := .empty
  files := {}

/-- A scope that binds the text of a number up to the sign of its power of ten. -/
def start : Scope :=
  Scope.empty.set "1e" (.str "one")

/-- Signs in all places of a number, digits missing before and after the point, and separators,
braces and the other quote between quotes. -/
def literals : List String :=
  ["1e+2", "-.5E+3", "1.e+2", "+1e+2", "true", "' -> \x7b\" + \x7d'", "\"\""]

lemma unknown_of_ne (hvoice : name ≠ "2") (hbound : name ≠ "1e") : library.Unknown start name where
  unbound := Scope.get?_set_of_ne .empty _ hbound.symm
  noVoice := by
    have hinsert := Store.voice?_insertVoice .empty ⟨"2", [], .literal (.bool true)⟩ name
    rwa [if_neg hvoice.symm] at hinsert
  noPrimitive := rfl

theorem execute_literal_mixed :
    (∀ text ∈ literals, Lexeme.IsLiteral text.toList ∧
      ∀ name ∈ Chain.alternatives text, library.Unknown start name) ∧
    ∀ text ∈ literals,
      let r := library.execute ["2"] (braced text) start .absent
      Lexeme.literal? text.toList = some r.value ∧ r.warnings = [] := by
  have hliteral : ∀ text ∈ literals, Lexeme.IsLiteral text.toList := by
    decide +kernel
  have hne : ∀ text ∈ literals, ∀ name ∈ Chain.alternatives text, name ≠ "2" ∧ name ≠ "1e" := by
    decide +kernel
  have hunknown : ∀ text ∈ literals, ∀ name ∈ Chain.alternatives text,
      library.Unknown start name := by
    intro text htext name hname
    obtain ⟨hvoice, hbound⟩ := hne text htext name hname
    exact unknown_of_ne hvoice hbound
  refine ⟨fun text htext => ⟨hliteral text htext, hunknown text htext⟩, fun text htext => ?_⟩
  exact Library.execute_literal (hliteral text htext) (hunknown text htext) ["2"] .absent

end Digits

end ChainScript
