import ChainScript.Text.Pieces
import Mathlib.Data.List.TakeWhile
import Mathlib.Tactic.Lemma

/-!
# Blanks at the ends of a text

A text is trimmed if it neither starts nor ends with a blank. Trimming takes away blanks at both
ends and nothing else, and the result is trimmed.
-/

namespace ChainScript.Text

/-! ### The left end -/

lemma allBlank_iff {t : List Char} : allBlank t = true ↔ ∀ c ∈ t, isBlank c = true :=
  List.all_eq_true

@[simp] lemma allBlank_nil : allBlank [] = true := rfl

@[simp] lemma allBlank_append (s t : List Char) :
    allBlank (s ++ t) = (allBlank s && allBlank t) := by
  simp [allBlank]

@[simp] lemma allBlank_cons (c : Char) (t : List Char) :
    allBlank (c :: t) = (isBlank c && allBlank t) := rfl

lemma trimLeft_append_of_allBlank {b : List Char} (h : allBlank b = true) (t : List Char) :
    trimLeft (b ++ t) = trimLeft t :=
  List.dropWhile_append_of_pos (allBlank_iff.mp h)

lemma trimLeft_cons_of_not_blank {c : Char} (h : isBlank c = false) (t : List Char) :
    trimLeft (c :: t) = c :: t := by
  simp [trimLeft, h]

lemma trimLeft_eq_nil_iff {t : List Char} : trimLeft t = [] ↔ allBlank t = true := by
  rw [trimLeft, List.dropWhile_eq_nil_iff, allBlank_iff]

lemma not_blank_of_trimLeft_eq_cons {c : Char} {t r : List Char} (h : trimLeft t = c :: r) :
    isBlank c = false := by
  have := List.head?_dropWhile_not isBlank t
  rwa [← trimLeft, h, List.head?_cons] at this

/-- What the blanks before a text leave of it does not matter once something is put after it. -/
lemma trimLeft_append_congr {s t : List Char} (h : trimLeft s = trimLeft t) (u : List Char) :
    trimLeft (s ++ u) = trimLeft (t ++ u) := by
  rw [trimLeft, trimLeft] at h ⊢
  rw [List.dropWhile_append, List.dropWhile_append, h]

/-- A text that is not all blank starts with blanks and a character that is none. -/
lemma exists_trimLeft {t : List Char} (h : allBlank t = false) :
    ∃ b c r, allBlank b = true ∧ isBlank c = false ∧ t = b ++ c :: r := by
  induction t with
  | nil => simp at h
  | cons c r ih =>
    by_cases hc : isBlank c = true
    · rw [allBlank_cons, hc, Bool.true_and] at h
      obtain ⟨b, d, r', hb, hd, rfl⟩ := ih h
      exact ⟨c :: b, d, r', by simp [hc, hb], hd, rfl⟩
    · exact ⟨[], c, r, rfl, by simpa using hc, rfl⟩

/-! ### The right end -/

lemma trimRight_eq (t : List Char) : trimRight t = (trimLeft t.reverse).reverse := rfl

lemma allBlank_reverse (t : List Char) : allBlank t.reverse = allBlank t := by
  simp [allBlank]

@[simp] lemma trimRight_nil : trimRight [] = [] := rfl

lemma trimRight_append_of_allBlank {b : List Char} (h : allBlank b = true) (t : List Char) :
    trimRight (t ++ b) = trimRight t := by
  rw [trimRight_eq, List.reverse_append, trimLeft_append_of_allBlank, trimRight_eq]
  rwa [allBlank_reverse]

/-- A text is what is left of it without the blanks at its end, and these blanks. -/
lemma exists_trimRight (t : List Char) : ∃ e, allBlank e = true ∧ t = trimRight t ++ e := by
  refine ⟨(t.reverse.takeWhile isBlank).reverse, ?_, ?_⟩
  · rw [allBlank_reverse]
    exact allBlank_iff.mpr fun c hc => List.mem_takeWhile_imp hc
  · rw [trimRight, ← List.reverse_append, List.takeWhile_append_dropWhile, List.reverse_reverse]

/-- What stands before a character that is not blank stays when blanks at the end are dropped. -/
lemma trimRight_append_cons {c : Char} (h : isBlank c = false) (s t : List Char) :
    trimRight (s ++ c :: t) = s ++ c :: trimRight t := by
  by_cases ht : allBlank t = true
  · have hnil : trimRight t = [] := by
      have := trimRight_append_of_allBlank ht []
      simpa using this
    rw [hnil, show s ++ c :: t = (s ++ [c]) ++ t by simp, trimRight_append_of_allBlank ht,
      trimRight_eq, List.reverse_append]
    simp [trimLeft_cons_of_not_blank h]
  · have hrev : allBlank t.reverse = false := by simpa [allBlank_reverse] using ht
    obtain ⟨b, d, r, hb, hd, hr⟩ := exists_trimLeft hrev
    have htail : ∀ u : List Char, trimRight (u ++ t) = u ++ (d :: r).reverse := by
      intro u
      rw [trimRight_eq, List.reverse_append, hr, List.append_assoc,
        trimLeft_append_of_allBlank hb, List.cons_append, trimLeft_cons_of_not_blank hd]
      simp
    have := htail []
    rw [List.nil_append, List.nil_append] at this
    rw [this, show s ++ c :: t = (s ++ [c]) ++ t by simp, htail]
    simp

/-! ### Both ends -/

/-- The text neither starts nor ends with a blank. -/
def Trimmed (t : List Char) : Prop :=
  (∀ c ∈ t.head?, isBlank c = false) ∧ ∀ c ∈ t.getLast?, isBlank c = false

lemma trimmed_nil : Trimmed [] := ⟨by simp, by simp⟩

lemma trimmed_of_forall {t : List Char} (h : ∀ c ∈ t, isBlank c = false) : Trimmed t :=
  ⟨fun c hc => h c (List.mem_of_head? hc), fun c hc => h c (List.mem_of_getLast? hc)⟩

lemma trim_of_allBlank {t : List Char} (h : allBlank t = true) : trim t = [] := by
  rw [trim, trimLeft_eq_nil_iff.mpr h, trimRight_nil]

lemma trimmed_of_all {t : List Char} (h : t.all (fun c => !isBlank c) = true) : Trimmed t :=
  trimmed_of_forall (by simpa using h)

/-- Blanks around a text make no difference once it is trimmed. -/
lemma trim_append_append {b e : List Char} (hb : allBlank b = true) (he : allBlank e = true)
    (t : List Char) : trim (b ++ t ++ e) = trim t := by
  by_cases ht : allBlank t = true
  · rw [trim_of_allBlank ht, trim_of_allBlank (by simp [hb, ht, he])]
  · obtain ⟨a, c, r, ha, hc, rfl⟩ := exists_trimLeft (by simpa using ht)
    have hleft : ∀ u : List Char, trimLeft (a ++ c :: r ++ u) = c :: r ++ u := by
      intro u
      rw [List.append_assoc, trimLeft_append_of_allBlank ha, List.cons_append,
        trimLeft_cons_of_not_blank hc]
    rw [trim, trim, List.append_assoc, trimLeft_append_of_allBlank hb, hleft,
      trimRight_append_of_allBlank he]
    have := hleft []
    rw [List.append_nil, List.append_nil] at this
    rw [this]

/-- A text is its trimmed form with blanks around it. -/
lemma exists_trim (t : List Char) :
    ∃ b e, allBlank b = true ∧ allBlank e = true ∧ t = b ++ trim t ++ e := by
  obtain ⟨e, he, hright⟩ := exists_trimRight (trimLeft t)
  refine ⟨t.takeWhile isBlank, e, ?_, he, ?_⟩
  · exact allBlank_iff.mpr fun c hc => List.mem_takeWhile_imp hc
  · rw [List.append_assoc, trim, ← hright]
    exact (List.takeWhile_append_dropWhile).symm

lemma trimmed_trim (t : List Char) : Trimmed (trim t) := by
  by_cases ht : allBlank t = true
  · rw [trim_of_allBlank ht]
    exact trimmed_nil
  · obtain ⟨b, c, r, hb, hc, rfl⟩ := exists_trimLeft (by simpa using ht)
    have hrev : allBlank (c :: r).reverse = false := by
      rw [allBlank_reverse, allBlank_cons, hc, Bool.false_and]
    obtain ⟨e, d, s, he, hd, hs⟩ := exists_trimLeft hrev
    have hcr : c :: r = (d :: s).reverse ++ e.reverse := by
      rw [← List.reverse_append, ← hs, List.reverse_reverse]
    have htrim : trim (b ++ c :: r) = (d :: s).reverse := by
      rw [trim, trimLeft_append_of_allBlank hb, trimLeft_cons_of_not_blank hc, trimRight_eq, hs,
        trimLeft_append_of_allBlank he, trimLeft_cons_of_not_blank hd]
    rw [htrim]
    constructor
    · intro x hx
      have hhead : (d :: s).reverse.head? = some c := by
        obtain ⟨y, ys, hy⟩ := List.exists_cons_of_ne_nil (l := (d :: s).reverse) (by simp)
        rw [hy, List.cons_append, List.cons.injEq] at hcr
        rw [hy, List.head?_cons, hcr.1]
      rw [hhead, Option.mem_some_iff] at hx
      rw [← hx]
      exact hc
    · intro x hx
      simp only [List.getLast?_reverse, List.head?_cons, Option.mem_some_iff] at hx
      rw [← hx]
      exact hd

lemma Trimmed.trim_eq {t : List Char} (h : Trimmed t) : trim t = t := by
  obtain ⟨b, e, hb, he, ht⟩ := exists_trim t
  have hbnil : b = [] := by
    cases b with
    | nil => rfl
    | cons c b =>
      have := h.1 c (by rw [ht]; simp)
      simp [this] at hb
  have henil : e = [] := by
    rcases List.eq_nil_or_concat e with rfl | ⟨e, c, rfl⟩
    · rfl
    · have := h.2 c (by rw [ht]; simp)
      simp [this] at he
  rw [hbnil, henil, List.nil_append, List.append_nil] at ht
  exact ht.symm

/-- Trimming changes exactly the texts that are not trimmed. -/
lemma trim_eq_self_iff {t : List Char} : trim t = t ↔ Trimmed t :=
  ⟨fun h => h ▸ trimmed_trim t, Trimmed.trim_eq⟩

@[simp] lemma trim_trim (t : List Char) : trim (trim t) = trim t :=
  (trimmed_trim t).trim_eq

lemma Trimmed.trim_append_append {t b e : List Char} (h : Trimmed t) (hb : allBlank b = true)
    (he : allBlank e = true) : trim (b ++ t ++ e) = t := by
  rw [Text.trim_append_append hb he, h.trim_eq]

lemma Trimmed.trim_append {t e : List Char} (h : Trimmed t) (he : allBlank e = true) :
    trim (t ++ e) = t :=
  h.trim_append_append allBlank_nil he

lemma Trimmed.trim_prepend {t b : List Char} (h : Trimmed t) (hb : allBlank b = true) :
    trim (b ++ t) = t := by
  have := h.trim_append_append hb allBlank_nil
  rwa [List.append_nil] at this

lemma map_trim_of_trimmed {pieces : List (List Char)} (h : ∀ p ∈ pieces, Trimmed p) :
    pieces.map trim = pieces := by
  rw [List.map_congr_left fun p hp => (h p hp).trim_eq, List.map_id']

lemma trimmed_of_ends {c d : Char} (hc : isBlank c = false) (hd : isBlank d = false)
    (m : List Char) : Trimmed (c :: m ++ [d]) := by
  constructor
  · intro x hx
    rw [List.cons_append, List.head?_cons, Option.mem_some_iff] at hx
    rwa [← hx]
  · intro x hx
    rw [List.getLast?_concat, Option.mem_some_iff] at hx
    rwa [← hx]

lemma Trimmed.append_append {s t : List Char} (hs : Trimmed s) (ht : Trimmed t) (hsne : s ≠ [])
    (htne : t ≠ []) (m : List Char) : Trimmed (s ++ m ++ t) := by
  constructor
  · intro c hc
    apply hs.1 c
    obtain ⟨d, r, rfl⟩ := List.exists_cons_of_ne_nil hsne
    exact hc
  · intro c hc
    apply ht.2 c
    rw [List.getLast?_append, List.getLast?_eq_some_getLast htne, Option.some_or] at hc
    rwa [List.getLast?_eq_some_getLast htne]

lemma trim_isInfix (t : List Char) : trim t <:+: t := by
  obtain ⟨b, e, -, -, ht⟩ := exists_trim t
  exact ⟨b, e, ht.symm⟩

end ChainScript.Text
