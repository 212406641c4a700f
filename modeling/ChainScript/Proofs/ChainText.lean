import ChainScript.Proofs.Cutting
import ChainScript.Proofs.Numerals
import ChainScript.Proofs.Splitting

/-!
# Writing and reading chains

A chain is written as steps between arrows, each as alternatives between plus signs. Reading gives
back the alternatives of each step unless an arrow stands in an alternative that is not the first
of its step: a quote protects arrows only where it opens the step.
-/

namespace ChainScript.Chain

open Text Separator

/-! ### Steps between arrows -/

lemma body_joinSteps (steps : List (List Char)) :
    body (joinSteps steps) = (spaced arrow).intercalate steps := by
  have htrimmed : Trimmed (joinSteps steps) := trimmed_of_ends (by decide) (by decide) _
  have hstart : stripStart? ['{'] (joinSteps steps) =
      some ((spaced arrow).intercalate steps ++ ['}']) := stripStart?_append ['{'] _
  have hend : stripEnd? ['}'] ((spaced arrow).intercalate steps ++ ['}']) =
      some ((spaced arrow).intercalate steps) := stripEnd?_append _ ['}']
  rw [body, htrimmed.trim_eq, stripBraces, hstart, Option.getD_some, hend, Option.getD_some]

/-- A text between braces is a chain that is written with one step. -/
lemma braced_eq_joinSteps (text : String) :
    braced text = String.ofList (joinSteps [text.toList]) := by
  rw [joinSteps, List.intercalate_singleton, braced]

/-- Steps that can stand in a chain are read as they were written. -/
theorem splitSteps_joinSteps {steps : List (List Char)} (hne : steps ≠ [])
    (h : ∀ t ∈ steps, Clean t ∧ Trimmed t) : splitSteps (joinSteps steps) = steps := by
  rw [splitSteps, body_joinSteps, split_joined hne fun t ht => (h t ht).1.passes (h t ht).2]
  exact map_trim_of_trimmed fun t ht => (h t ht).2

lemma steps_ofList_joinSteps {texts : List (List Char)} (hne : texts ≠ [])
    (h : ∀ t ∈ texts, Clean t ∧ Trimmed t) :
    steps (String.ofList (joinSteps texts)) = texts.map String.ofList := by
  rw [steps, String.toList_ofList, splitSteps_joinSteps hne h]

/-- A step that is read is trimmed, and can stand in a chain or has no arrow. -/
lemma of_mem_splitSteps {text t : List Char} (ht : t ∈ splitSteps text) :
    Trimmed t ∧ (Clean t ∨ ¬ arrow.text <:+: t) := by
  obtain ⟨p, hp, rfl⟩ := List.mem_map.mp ht
  refine ⟨trimmed_trim p, (clean_or_not_infix_of_mem_split hp).imp_right fun h hin => ?_⟩
  exact h (hin.trans (trim_isInfix p))

/-! ### Alternatives between plus signs -/

/-- A text that can be written as an alternative of a step: a literal between quotes, a number
without a plus sign before it, or a text without quotes and separators. -/
inductive IsAlternative : List Char → Prop where
  | quotation {q : Char} {inside : List Char} (hq : Lexeme.isQuote q = true) (h : q ∉ inside) :
      IsAlternative (q :: inside ++ [q])
  | number {t : List Char} (h : Lexeme.category t = .number) (hplus : t.head? ≠ some '+') :
      IsAlternative t
  | plain {t : List Char} (hne : t ≠ []) (ht : Trimmed t) (harrow : ¬ arrow.text <:+: t)
      (hplus : '+' ∉ t) (hquote : ∀ c ∈ t, Lexeme.isQuote c = false) : IsAlternative t

lemma bare_of_all {t : List Char} (h : t.all (!Lexeme.isQuote ·) = true) :
    ∀ c ∈ t, Lexeme.isQuote c = false := by
  intro c hc
  simpa using List.all_eq_true.mp h c hc

lemma cut?_plus_of_ne {c : Char} (hc : c ≠ '+') (piece rest : List Char) :
    plus.cut? piece (c :: rest) = none := by
  simp [cut?, Separator.text, stripStart?, Ne.symm hc]

/-- The plus sign of a power of ten ends no piece. -/
lemma cut?_plus_eq_none {piece digits after : List Char}
    (hd : Decimal.Numeral.allDigits digits = true) (hm : isMantissa (trimLeft piece) = true) :
    plus.cut? piece ('+' :: digits ++ after) = none := by
  obtain ⟨hne, hdigit⟩ := Decimal.Numeral.allDigits_iff.mp hd
  obtain ⟨d, ds, rfl⟩ := List.exists_cons_of_ne_nil hne
  simp [cut?, Separator.text, stripStart?, ends, hdigit d (by simp), hm]

lemma passes_plus_of_number {t : List Char} (h : Lexeme.isNumeral t = true)
    (hplus : t.head? ≠ some '+') : plus.Passes t := by
  have hchars := Lexeme.isNumberChar_of_isNumeral h
  cases t with
  | nil => exact passes_nil _
  | cons c t =>
    have hc := (hchars c (by simp)).plain
    refine passes_of_bare hc.1 hc.2.1 ?_
    intro before after x v hbefore _ hxv hv
    obtain ⟨d, w, rfl⟩ := List.exists_cons_of_ne_nil hv
    by_cases hd : d = '+'
    · subst hd
      rw [hxv] at h hplus
      obtain ⟨hm, hdigits⟩ := exponent_of_plus h hplus
      refine cut?_plus_eq_none hdigits ?_
      cases x with
      | nil => exact absurd rfl hplus
      | cons b x =>
        have hb := (hchars b (by rw [hxv]; simp)).plain
        rwa [trimLeft_append_of_allBlank hbefore, trimLeft_cons_of_not_blank hb.2.1]
    · exact cut?_plus_of_ne hd _ _

/-! ### What can be written -/

lemma IsAlternative.ne_nil {t : List Char} (h : IsAlternative t) : t ≠ [] := by
  rcases h with _ | ⟨h, -⟩ | ⟨hne, -, -, -, -⟩
  · simp
  · rintro rfl
    simp [Lexeme.category] at h
  · exact hne

lemma IsAlternative.trimmed {t : List Char} (h : IsAlternative t) : Trimmed t := by
  rcases h with @⟨q, inside, hq, -⟩ | ⟨h, -⟩ | ⟨-, ht, -, -, -⟩
  · exact trimmed_of_ends (Lexeme.isBlank_of_isQuote hq) (Lexeme.isBlank_of_isQuote hq) inside
  · exact Lexeme.trimmed_of_isNumeral (Lexeme.isNumeral_of_category h)
  · exact ht

lemma IsAlternative.passes {t : List Char} (h : IsAlternative t) : plus.Passes t := by
  rcases h with @⟨q, inside, hq, hin⟩ | ⟨h, hplus⟩ | ⟨hne, ht, -, hplus, hquote⟩
  · refine passes_of_quotation hq hin ?_
    intro _ _ u v _ _ huv hv
    exact absurd (List.append_eq_nil_iff.mp huv.symm).2 hv
  · exact passes_plus_of_number (Lexeme.isNumeral_of_category h) hplus
  · obtain ⟨c, r, rfl⟩ := List.exists_cons_of_ne_nil hne
    refine passes_of_bare (hquote c (by simp)) (ht.1 c rfl) ?_
    intro _ _ x v _ _ hxv hv
    obtain ⟨d, w, rfl⟩ := List.exists_cons_of_ne_nil hv
    refine cut?_plus_of_ne ?_ _ _
    rintro rfl
    exact hplus (by rw [hxv]; simp)

/-- An alternative is a literal between quotes, or it starts with no quote and has no arrow. -/
lemma IsAlternative.quotation_or_bare {t : List Char} (h : IsAlternative t) :
    (∃ q inside, Lexeme.isQuote q = true ∧ q ∉ inside ∧ t = q :: inside ++ [q]) ∨
      (∀ c ∈ t.head?, Lexeme.isQuote c = false) ∧ ¬ arrow.text <:+: t := by
  rcases h with @⟨q, inside, hq, hin⟩ | ⟨h, -⟩ | ⟨-, -, harrow, -, hquote⟩
  · exact Or.inl ⟨q, inside, hq, hin, rfl⟩
  · have hchars := Lexeme.isNumberChar_of_isNumeral (Lexeme.isNumeral_of_category h)
    right
    constructor
    · intro c hc
      exact (hchars c (List.mem_of_head? hc)).plain.1
    · intro harrow
      exact (hchars '>' (harrow.subset (by decide))).plain.2.2 rfl
  · exact Or.inr ⟨fun c hc => hquote c (List.mem_of_head? hc), harrow⟩

/-- The alternatives of a step are read as they were written. -/
theorem splitAlternatives_joinAlternatives {alternatives : List (List Char)}
    (hne : alternatives ≠ []) (h : ∀ a ∈ alternatives, IsAlternative a) :
    splitAlternatives (joinAlternatives alternatives) = alternatives := by
  rw [splitAlternatives, joinAlternatives, split_joined hne fun a ha => (h a ha).passes]
  exact map_trim_of_trimmed fun a ha => (h a ha).trimmed

/-! ### Arrows in steps -/

lemma not_arrow_infix_cons_of_ne {c : Char} {t : List Char} (hc : c ≠ '-')
    (h : ¬ arrow.text <:+: t) : ¬ arrow.text <:+: c :: t := by
  rw [List.infix_cons_iff, not_or]
  refine ⟨fun hpre => ?_, h⟩
  rw [Separator.text, List.cons_prefix_cons] at hpre
  exact hc hpre.1.symm

lemma not_arrow_infix_append {s t : List Char} (hs : ¬ arrow.text <:+: s)
    (ht : ¬ arrow.text <:+: t) (hfollows : Follows t) : ¬ arrow.text <:+: s ++ t := by
  rcases hfollows with rfl | ⟨r, rfl⟩
  · rwa [List.append_nil]
  · rw [List.infix_append_iff_ne_nil]
    rintro (h | h | ⟨l₁, l₂, -, hne, hl, -, hpre⟩)
    · exact hs h
    · exact ht h
    · -- the second part of the arrow would start with the blank
      obtain ⟨c, l, rfl⟩ := List.exists_cons_of_ne_nil hne
      rw [List.cons_prefix_cons] at hpre
      have hmem : c ∈ arrow.text := by rw [hl]; simp
      rw [hpre.1] at hmem
      exact absurd hmem (by decide)

/-- What follows the first alternative of a step has an arrow only if another alternative has. -/
lemma exists_joinAlternatives_cons (a : List Char) (more : List (List Char)) :
    ∃ rest, joinAlternatives (a :: more) = a ++ rest ∧ Follows rest ∧
      ((∀ b ∈ more, ¬ arrow.text <:+: b) → ¬ arrow.text <:+: rest) := by
  induction more generalizing a with
  | nil => exact ⟨[], by simp [joinAlternatives], Or.inl rfl, fun _ => by decide⟩
  | cons b more ih =>
    obtain ⟨rest, hjoin, hfollows, harrow⟩ := ih b
    refine ⟨' ' :: '+' :: ' ' :: (b ++ rest), ?_, Or.inr ⟨_, rfl⟩, fun h => ?_⟩
    · rw [joinAlternatives, List.intercalate_cons_cons, ← joinAlternatives, hjoin]
      simp [spaced, Separator.text]
    · have hrest := harrow fun d hd => h d (List.mem_cons_of_mem _ hd)
      refine not_arrow_infix_cons_of_ne (by decide) (not_arrow_infix_cons_of_ne (by decide) ?_)
      refine not_arrow_infix_cons_of_ne (by decide) ?_
      exact not_arrow_infix_append (h b (by simp)) hrest hfollows

lemma clean_joinAlternatives {a : List Char} {more : List (List Char)} (ha : IsAlternative a)
    (h : ∀ b ∈ more, ¬ arrow.text <:+: b) : Clean (joinAlternatives (a :: more)) := by
  obtain ⟨rest, hjoin, hfollows, harrow⟩ := exists_joinAlternatives_cons a more
  rw [hjoin]
  rcases ha.quotation_or_bare with ⟨q, inside, hq, hin, rfl⟩ | ⟨hquote, hno⟩
  · exact Or.inr ⟨q, inside, rest, hq, hin, by simp, harrow h⟩
  · refine Or.inl ⟨?_, not_arrow_infix_append hno (harrow h) hfollows⟩
    obtain ⟨c, r, rfl⟩ := List.exists_cons_of_ne_nil ha.ne_nil
    exact hquote

lemma trimmed_joinAlternatives {alternatives : List (List Char)}
    (h : ∀ a ∈ alternatives, IsAlternative a) : Trimmed (joinAlternatives alternatives) := by
  induction alternatives with
  | nil => exact trimmed_nil
  | cons a more ih =>
    cases more with
    | nil => simpa [joinAlternatives] using (h a (by simp)).trimmed
    | cons b more =>
      have hmore := ih fun c hc => h c (List.mem_cons_of_mem _ hc)
      have hne : joinAlternatives (b :: more) ≠ [] := by
        obtain ⟨rest, hjoin, -⟩ := exists_joinAlternatives_cons b more
        rw [hjoin]
        exact List.append_ne_nil_of_left_ne_nil (h b (by simp)).ne_nil rest
      rw [joinAlternatives, List.intercalate_cons_cons, ← joinAlternatives]
      exact (h a (by simp)).trimmed.append_append hmore (h a (by simp)).ne_nil hne _

lemma isInfix_intercalate {sep p : List Char} {pieces : List (List Char)} (h : p ∈ pieces) :
    p <:+: sep.intercalate pieces := by
  induction pieces with
  | nil => cases h
  | cons first more ih =>
    cases more with
    | nil =>
      exact ⟨[], [], by simp [List.mem_singleton.mp h, List.intercalate_singleton]⟩
    | cons second more =>
      rw [List.intercalate_cons_cons]
      rcases List.mem_cons.mp h with rfl | h
      · rw [List.append_assoc]
        exact (List.prefix_append _ _).isInfix
      · exact (ih h).trans (List.suffix_append _ _).isInfix

lemma eq_of_first {q : Char} {x x' y y' : List Char} (hx : q ∉ x) (hx' : q ∉ x')
    (h : x ++ q :: y = x' ++ q :: y') : y = y' := by
  induction x generalizing x' with
  | nil =>
    cases x' with
    | nil => simpa using h
    | cons c x' =>
      rw [List.nil_append, List.cons_append, List.cons.injEq] at h
      exact absurd (by simp [h.1]) hx'
  | cons c x ih =>
    cases x' with
    | nil =>
      rw [List.nil_append, List.cons_append, List.cons.injEq] at h
      exact absurd (by simp [h.1]) hx
    | cons d x' =>
      rw [List.cons_append, List.cons_append, List.cons.injEq] at h
      rw [List.mem_cons, not_or] at hx hx'
      exact ih hx.2 hx'.2 h.2

/-- A trimmed text starts with what is left of its first piece. -/
lemma exists_of_first_piece {t p rest : List Char} (ht : Trimmed t) (hjoin : p ++ rest = t) :
    ∃ after, t = trim p ++ (after ++ rest) := by
  obtain ⟨before, after, hbefore, -, hp⟩ := exists_trim p
  have hnil : before = [] := by
    cases before with
    | nil => rfl
    | cons c before =>
      have hc := ht.1 c (by rw [← hjoin, hp]; rfl)
      simp [hc] at hbefore
  rw [hnil, List.nil_append] at hp
  refine ⟨after, ?_⟩
  rw [← List.append_assoc, ← hp, hjoin]

/-- A quotation that starts a step is the first alternative of the step. -/
lemma IsAlternative.eq_quotation {a inside rest tail : List Char} {q : Char} (ha : IsAlternative a)
    (hq : Lexeme.isQuote q = true) (hin : q ∉ inside)
    (htext : a ++ rest = q :: inside ++ q :: tail) : tail = rest := by
  rcases ha.quotation_or_bare with ⟨q', inside', -, hin', rfl⟩ | ⟨hquote, -⟩
  · simp only [List.cons_append, List.append_assoc, List.cons.injEq] at htext
    obtain ⟨rfl, htext⟩ := htext
    exact (eq_of_first hin' hin htext).symm
  · obtain ⟨c, r, rfl⟩ := List.exists_cons_of_ne_nil ha.ne_nil
    rw [List.cons_append, List.cons_append, List.cons.injEq] at htext
    rw [← htext.1, hquote c rfl] at hq
    cases hq

/-- A step that has been read has no arrow in an alternative after the first. -/
lemma not_arrow_of_splitAlternatives {t a : List Char} {more : List (List Char)} (ht : Trimmed t)
    (hclean : Clean t ∨ ¬ arrow.text <:+: t) (ha : IsAlternative a)
    (hread : splitAlternatives t = a :: more) : ∀ b ∈ more, ¬ arrow.text <:+: b := by
  obtain ⟨p, pieces, hsplit, rfl, rfl⟩ := List.map_eq_cons_iff.mp hread
  intro b hb harrow
  obtain ⟨piece, hpiece, rfl⟩ := List.mem_map.mp hb
  have hjoin := intercalate_split plus t
  rw [hsplit, List.intercalate_cons_of_ne_nil (List.ne_nil_of_mem hpiece),
    List.append_assoc] at hjoin
  set rest := plus.text ++ plus.text.intercalate pieces with hrest
  have harrow : arrow.text <:+: rest :=
    (harrow.trans (trim_isInfix piece)).trans
      ((isInfix_intercalate hpiece).trans (List.suffix_append _ _).isInfix)
  have hmem : arrow.text <:+: t := hjoin ▸ harrow.trans (List.suffix_append p rest).isInfix
  rcases hclean with (⟨-, hno⟩ | ⟨q, inside, tail, hq, hin, htext, htail⟩) | hno
  · exact hno hmem
  · obtain ⟨after, hafter⟩ := exists_of_first_piece ht hjoin
    have htail' := ha.eq_quotation hq hin (hafter.symm.trans htext)
    exact htail (htail' ▸ harrow.trans (List.suffix_append after rest).isInfix)
  · exact hno hmem

/-! ### Reading what was written -/

/-- The alternatives of each step of a chain text. -/
def read (text : String) : List (List String) :=
  (steps text).map alternatives

/-- The chain text of steps that are given by their alternatives. -/
def write (steps : List (List String)) : String :=
  String.ofList (joinSteps (steps.map fun step => joinAlternatives (step.map String.toList)))

lemma read_write_eq_iff (steps : List (List String)) : read (write steps) = steps ↔
    (splitSteps (joinSteps ((steps.map (List.map String.toList)).map joinAlternatives))).map
      splitAlternatives = steps.map (List.map String.toList) := by
  have hread : read (write steps) =
      ((splitSteps (joinSteps ((steps.map (List.map String.toList)).map joinAlternatives))).map
        splitAlternatives).map (List.map String.ofList) := by
    simp [read, write, Chain.steps, alternatives, Function.comp_def]
  rw [hread]
  constructor
  · intro h
    have := congrArg (List.map (List.map String.toList)) h
    simpa [Function.comp_def] using this
  · intro h
    rw [h]
    simp [Function.comp_def]

/-- Steps are read as they were written exactly if arrows stand in first alternatives only. Quotes
that open a later alternative do not protect an arrow, though they protect a plus sign. -/
theorem read_write_iff {steps : List (List String)} (hne : steps ≠ [])
    (h : ∀ step ∈ steps, step ≠ [] ∧ ∀ a ∈ step, IsAlternative a.toList) :
    read (write steps) = steps ↔
      ∀ step ∈ steps, ∀ a ∈ step.tail, ¬ arrow.text <:+: a.toList := by
  have hmap : ∀ step ∈ steps, ∀ a ∈ step.map String.toList, IsAlternative a := by
    intro step hstep a ha
    obtain ⟨b, hb, rfl⟩ := List.mem_map.mp ha
    exact (h step hstep).2 b hb
  rw [read_write_eq_iff]
  constructor
  · intro hread step hstep
    have hmem : step.map String.toList ∈ steps.map (List.map String.toList) :=
      List.mem_map_of_mem hstep
    rw [← hread] at hmem
    obtain ⟨t, ht, halternatives⟩ := List.mem_map.mp hmem
    obtain ⟨htrim, hclean⟩ := of_mem_splitSteps ht
    obtain ⟨a, more, rfl⟩ := List.exists_cons_of_ne_nil (h step hstep).1
    have hmore := not_arrow_of_splitAlternatives htrim hclean
      (hmap _ hstep a.toList (by simp)) halternatives
    exact fun b hb => hmore b.toList (List.mem_map_of_mem hb)
  · intro harrow
    rw [splitSteps_joinSteps (by simpa using hne)]
    · rw [List.map_map, List.map_map]
      apply List.map_congr_left
      intro step hstep
      exact splitAlternatives_joinAlternatives (by simpa using (h step hstep).1) (hmap step hstep)
    · intro t ht
      simp only [List.map_map, List.mem_map, Function.comp_apply] at ht
      obtain ⟨step, hstep, rfl⟩ := ht
      refine ⟨?_, trimmed_joinAlternatives (hmap step hstep)⟩
      obtain ⟨a, more, rfl⟩ := List.exists_cons_of_ne_nil (h step hstep).1
      apply clean_joinAlternatives (hmap _ hstep a.toList (by simp))
      intro b hb
      obtain ⟨c, hc, rfl⟩ := List.mem_map.mp hb
      exact harrow _ hstep c hc

/-- Quotes of both kinds around separators and around the other quote, a sign before a power of ten,
and braces. -/
theorem read_write_mixed :
    read (write [["'a -> \"b + c'", "-1.5e+2"], ["\x7bx", "'+'", "\"it's\""]]) =
      [["'a -> \"b + c'", "-1.5e+2"], ["\x7bx", "'+'", "\"it's\""]] := by
  refine (read_write_iff (by simp) ?_).mpr ?_
  · have hquotation : ∀ q inside, Lexeme.isQuote q = true → q ∉ inside →
        IsAlternative (q :: inside ++ [q]) := fun _ _ hq hin => .quotation hq hin
    intro step hstep
    rcases List.mem_pair.mp hstep with rfl | rfl
    · refine ⟨by simp, fun a ha => ?_⟩
      rcases List.mem_pair.mp ha with rfl | rfl
      · exact hquotation '\'' "a -> \"b + c".toList (by decide) (by decide)
      · exact .number rfl (by decide)
    · refine ⟨by simp, fun a ha => ?_⟩
      simp only [List.mem_cons, List.not_mem_nil, or_false] at ha
      rcases ha with rfl | rfl | rfl
      · exact .plain (by decide) (trim_eq_self_iff.mp (by decide)) (by decide) (by decide)
          (bare_of_all (by decide))
      · exact hquotation '\'' "+".toList (by decide) (by decide)
      · exact hquotation '"' "it's".toList (by decide) (by decide)
  · decide +kernel

/-- An arrow in a quoted alternative that is not the first of its step cuts the step in two. -/
theorem read_write_later_arrow :
    (∀ a ∈ ["x", "\"a -> b\""], IsAlternative a.toList) ∧
      read (write [["x", "\"a -> b\""]]) = [["x", "\"a"], ["b\""]] := by
  refine ⟨fun a ha => ?_, by decide +kernel⟩
  rcases List.mem_pair.mp ha with rfl | rfl
  · exact .plain (by decide) (trim_eq_self_iff.mp (by decide)) (by decide) (by decide)
      (bare_of_all (by decide))
  · have hquotation : IsAlternative ('"' :: "a -> b".toList ++ ['"']) :=
      .quotation (by decide) (by decide)
    exact hquotation

end ChainScript.Chain
