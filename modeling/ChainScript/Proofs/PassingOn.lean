import ChainScript.Proofs.Composition
import ChainScript.Proofs.Literals
import ChainScript.Proofs.Naming
import Mathlib.Data.List.Infix

/-!
# Steps that pass the last result on

Before every step of a chain `last` is bound to the result before it, so the step `last` gives this
result once more and leaves everything as it is. A name that means nothing takes the result before
it and gives it on, and where the name comes again it is bound to just this result. Only where there
is no result to take does such a name stand for itself, and then it is passed on.
-/

namespace ChainScript

open Text

/-! ### Texts without quotes and arrows -/

namespace Chain

open Separator

/-- The text has no quotes and no arrows. -/
def IsPlain (t : List Char) : Prop :=
  (∀ c ∈ t, Lexeme.isQuote c = false) ∧ ¬ arrow.text <:+: t

instance (t : List Char) : Decidable (IsPlain t) :=
  decidable_of_iff (t.all (!Lexeme.isQuote ·) = true ∧ ¬ arrow.text <:+: t)
    (by simp only [IsPlain, List.all_eq_true, Bool.not_eq_true'])

lemma splitQuotedFrom_plain {s : Separator} {piece t after : List Char}
    (hquote : ∀ c ∈ t, Lexeme.isQuote c = false) (h : s.Uncut piece t) (hafter : Follows after) :
    s.splitQuotedFrom none piece (t ++ after) = s.splitQuotedFrom none (piece ++ t) after := by
  induction t generalizing piece with
  | nil => simp
  | cons c t ih =>
    obtain ⟨hc, ht⟩ := List.forall_mem_cons.mp hquote
    have hopen : (Lexeme.isQuote c && allBlank piece) = false := by rw [hc, Bool.false_and]
    have hcut : s.cut? piece (c :: (t ++ after)) = none := by
      simpa using h.cut?_eq_none rfl hafter (u := []) rfl (by simp)
    rw [List.cons_append, splitQuotedFrom_skip hopen hcut, ih ht (Uncut.cons_iff.mp h).2]
    simp

lemma IsPlain.passes {t : List Char} (h : IsPlain t) : arrow.Passes t :=
  fun _ _ _ hafter => splitQuotedFrom_plain h.1 (uncut_arrow_iff.mpr h.2) hafter

/-- Steps without quotes and arrows are read as they were written, but for blanks around them. -/
theorem steps_writeSteps_of_isPlain {tokens : List String} (hne : tokens ≠ [])
    (h : ∀ t ∈ tokens, IsPlain t.toList) : steps (writeSteps tokens) = tokens.map trimmed := by
  have hpasses : ∀ t ∈ tokens.map String.toList, arrow.Passes t := by
    intro t ht
    obtain ⟨token, htoken, rfl⟩ := List.mem_map.mp ht
    exact (h token htoken).passes
  rw [steps, writeSteps, String.toList_ofList, splitSteps, body_joinSteps,
    split_joined (by simpa using hne) hpasses, List.map_map, List.map_map]
  rfl

lemma IsPlain.clean {t : List Char} (h : IsPlain t) : Clean t :=
  Or.inl ⟨fun c hc => h.1 c (List.mem_of_head? hc), h.2⟩

lemma isPlain_of_isIdentifier {t : List Char} (h : Lexeme.isIdentifier t = true) : IsPlain t := by
  constructor
  · intro c hc
    rw [Bool.eq_false_iff]
    intro hquote
    have hword := Lexeme.isWordChar_of_isIdentifier h c hc
    rcases Lexeme.isQuote_iff.mp hquote with rfl | rfl <;> revert hword <;> decide
  · intro harrow
    have hmem : '>' ∈ t := harrow.subset (by decide)
    exact Lexeme.not_mem_of_isIdentifier h (by decide) hmem

end Chain

/-! ### Repeating the last result -/

/-- The second list is the first one with the element inserted anywhere, any number of times. -/
inductive Inserts {α : Type} (x : α) : List α → List α → Prop where
  | nil : Inserts x [] []
  | keep {l m : List α} (a : α) (h : Inserts x l m) : Inserts x (a :: l) (a :: m)
  | insert {l m : List α} (h : Inserts x l m) : Inserts x l (x :: m)

namespace Inserts

variable {α β : Type} {x : α} {l m : List α}

lemma map (f : α → β) (h : Inserts x l m) : Inserts (f x) (l.map f) (m.map f) := by
  induction h with
  | nil => exact .nil
  | keep a _ ih => exact .keep (f a) ih
  | insert _ ih => exact .insert ih

lemma ne_nil (h : Inserts x l m) (hne : l ≠ []) : m ≠ [] := by
  cases h with
  | nil => exact hne
  | keep a _ => exact List.cons_ne_nil a _
  | insert _ => exact List.cons_ne_nil x _

lemma forall_mem {P : α → Prop} (h : Inserts x l m) (hx : P x) (hl : ∀ a ∈ l, P a) :
    ∀ a ∈ m, P a := by
  induction h with
  | nil => exact hl
  | keep a _ ih =>
    obtain ⟨ha, hl⟩ := List.forall_mem_cons.mp hl
    exact List.forall_mem_cons.mpr ⟨ha, ih hl⟩
  | insert _ ih => exact List.forall_mem_cons.mpr ⟨hx, ih hl⟩

end Inserts

lemma Chain.isToken_last : Chain.IsToken "last" :=
  Chain.isToken_of_isIdentifier (by decide)

namespace Library

variable (lib : Library) (enter : Enter) {scope : Scope} {last : Value}

/-- The step `last` gives the result before it and changes nothing, whatever voices and primitives
there are. -/
lemma runSteps_last (hlast : scope.set "last" last = scope) (rest : List String) :
    let r := lib.runSteps enter rest scope last
    lib.runSteps enter ("last" :: rest) scope last =
      { r with trace := .step "last" scope :: r.trace } := by
  have hbound : scope.get? "last" = some last := by
    rw [← hlast]
    exact Scope.get?_set_self scope "last" last
  have hresolve : Step.resolve lib scope "last" = .single (.bound "last" last) := by
    rw [Step.resolve_of_alternatives lib scope Chain.isToken_last.2,
      Meaning.resolve_of_get? hbound]
  simp only [runSteps, hresolve, Step.run, Meaning.run, hlast, List.nil_append, List.cons_append]

/-- Steps `last` between the others make no difference. -/
theorem runSteps_inserts_last {tokens padded : List String} (h : Inserts "last" tokens padded)
    (hlast : scope.set "last" last = scope) :
    Run.Alike Eq (lib.runSteps enter padded scope last) (lib.runSteps enter tokens scope last) := by
  induction h generalizing scope last with
  | nil => exact ⟨rfl, rfl, rfl⟩
  | keep token _ ih =>
    rw [runSteps, runSteps]
    -- each step leaves `last` bound to its result
    generalize (Step.resolve lib scope token).run lib enter scope last = r
    have hrest := ih (Scope.set_set r.scope "last" r.value r.value)
    refine ⟨hrest.value, ?_, hrest.scope⟩
    have hwarnings := hrest.warnings
    simp only [Run.warnings] at hwarnings
    simp only [Run.warnings, List.cons_append, Trace.warnings_step, Trace.warnings_append, hwarnings]
  | insert _ ih =>
    rw [runSteps_last lib enter hlast]
    have hrest := ih hlast
    exact ⟨hrest.value, hrest.warnings, hrest.scope⟩

/-- It makes no difference to an execution whether the chain text has further steps `last`. -/
theorem execute_alike_of_inserts (running : List String) {chain longer : String}
    (h : Inserts "last" (Chain.steps chain) (Chain.steps longer)) (scope : Scope) (seed : Value) :
    Run.Alike Eq (lib.execute running longer scope seed) (lib.execute running chain scope seed) :=
  lib.runSteps_inserts_last (lib.enter running) h (Scope.set_set scope "last" seed seed)

/-- The step `last` can be inserted anywhere in a chain, any number of times: the value, the
warnings and the scope that the chain leaves are the same. -/
theorem execute_inserts_last (running : List String) {tokens padded : List String}
    (hne : tokens ≠ []) (htokens : ∀ t ∈ tokens, Chain.IsPlain t.toList)
    (h : Inserts "last" tokens padded) (scope : Scope) (seed : Value) :
    let plain := lib.execute running (Chain.writeSteps tokens) scope seed
    let longer := lib.execute running (Chain.writeSteps padded) scope seed
    longer.value = plain.value ∧ longer.warnings = plain.warnings ∧ longer.scope = plain.scope := by
  have hlast : Chain.IsPlain "last".toList := by decide
  have htrimmed : trimmed "last" = "last" :=
    Chain.trimmed_of_mem_alternatives (Chain.isToken_last.2 ▸ List.mem_singleton_self "last")
  have hinserts : Inserts "last" (Chain.steps (Chain.writeSteps tokens))
      (Chain.steps (Chain.writeSteps padded)) := by
    rw [Chain.steps_writeSteps_of_isPlain hne htokens,
      Chain.steps_writeSteps_of_isPlain (h.ne_nil hne) (h.forall_mem hlast htokens)]
    have hmap := h.map trimmed
    rwa [htrimmed] at hmap
  have halike := lib.execute_alike_of_inserts running hinserts scope seed
  exact ⟨halike.value, halike.warnings, halike.scope⟩

end Library

namespace Refrain

/-- A voice with the name `last`, and a voice that calls it. -/
def shadow : Library where
  store := (Store.empty.insertVoice ⟨"last", [], .chain "refrain -> word"⟩).insertVoice
    ⟨"refrain", ["verse"], .chain "last + verse + refrain"⟩
  registry := .empty
  files := {}

/-- A call, blanks around a name, an unknown name, and the call once more. -/
def song : List String := ["refrain", " verse ", "it-", "refrain + verse"]

/-- The same steps with `last` before, between and after them. -/
def refrained : List String :=
  ["last", "refrain", "last", "last", " verse ", "it-", "refrain + verse", "last"]

lemma inserts : Inserts "last" song refrained :=
  .insert (.keep _ (.insert (.insert (.keep _ (.keep _ (.keep _ (.insert .nil)))))))

theorem execute_inserts_last_refrain :
    (∀ t ∈ song, Chain.IsPlain t.toList) ∧ Inserts "last" song refrained ∧
      let plain := shadow.execute ["guest"] (Chain.writeSteps song) .empty .absent
      let longer := shadow.execute ["guest"] (Chain.writeSteps refrained) .empty .absent
      longer.value = plain.value ∧ longer.warnings = plain.warnings ∧
        longer.scope = plain.scope := by
  have hplain : ∀ t ∈ song, Chain.IsPlain t.toList := by decide +kernel
  refine ⟨hplain, inserts, ?_⟩
  exact shadow.execute_inserts_last ["guest"] (by decide) hplain inserts .empty .absent

end Refrain

/-! ### Names that mean nothing -/

namespace Lexeme

variable {t : List Char}

lemma isDigit_eq_false_of_isAlpha {c : Char} (h : (c.isAlpha || c == '_') = true) :
    c.isDigit = false := by
  have hrange : (65 ≤ c.toNat ∧ c.toNat ≤ 90) ∨ c.toNat = 95 ∨
      (97 ≤ c.toNat ∧ c.toNat ≤ 122) := by
    delta Char.isAlpha Char.isUpper Char.isLower at h
    simp only [Bool.or_eq_true, Bool.and_eq_true, decide_eq_true_eq, beq_iff_eq,
      UInt32.le_iff_toNat_le] at h
    rcases h with (h | h) | rfl
    · exact Or.inl h
    · exact Or.inr (Or.inr h)
    · exact Or.inr (Or.inl rfl)
  rw [Bool.eq_false_iff]
  intro hdigit
  have hdigits : 48 ≤ c.toNat ∧ c.toNat ≤ 57 := by
    simpa [Char.isDigit, UInt32.le_iff_toNat_le] using hdigit
  omega

lemma isNumeral_eq_false_of_isIdentifier (h : isIdentifier t = true) : isNumeral t = false := by
  cases t with
  | nil => cases h
  | cons c rest =>
    have hword : ∀ d, isWordChar d = false → c ≠ d := by
      rintro d hd rfl
      exact not_mem_of_isIdentifier h hd (List.mem_cons_self ..)
    have hsign : isSign c = false := by
      simp [isSign, hword '+' (by decide), hword '-' (by decide)]
    rw [isIdentifier, Bool.and_eq_true] at h
    have hstart : startsNumber ((c :: rest).dropWhile isSign) = false := by
      rw [List.dropWhile_cons_of_neg (by simp [hsign]), startsNumber,
        isDigit_eq_false_of_isAlpha h.1, Bool.false_or, beq_eq_false_iff_ne]
      exact hword '.' (by decide)
    rw [isNumeral, hstart, Bool.false_and, Bool.false_and]

/-- The token is an identifier and no truth value. -/
def IsName (t : List Char) : Prop :=
  isIdentifier t = true ∧ ¬ (t = ['t', 'r', 'u', 'e'] ∨ t = ['f', 'a', 'l', 's', 'e'])

instance (t : List Char) : Decidable (IsName t) :=
  inferInstanceAs (Decidable (_ ∧ ¬ (_ ∨ _)))

lemma IsName.category_eq (h : IsName t) : category t = .identifier := by
  have hempty : t.isEmpty = false := List.isEmpty_eq_false_iff.mpr (ne_nil_of_isIdentifier h.1)
  have hquoted : isQuoted t = false := by
    cases t with
    | nil => rfl
    | cons c rest =>
      rw [isQuoted, (Chain.isPlain_of_isIdentifier h.1).1 c (List.mem_cons_self ..),
        Bool.false_and]
  rw [category, hempty, hquoted, isNumeral_eq_false_of_isIdentifier h.1]
  simp [h.1, h.2]

end Lexeme

namespace Library

variable {lib : Library} {scope : Scope} {name : String} {last : Value}

/-- The name has the given value, or it means nothing. -/
def Takes (lib : Library) (scope : Scope) (value : Value) (name : String) : Prop :=
  scope.get? name = some value ∨ lib.Unknown scope name

lemma Takes.set (h : lib.Takes scope last name) (other : String) :
    lib.Takes (scope.set other last) last name := by
  by_cases hname : other = name
  · rw [hname]
    exact Or.inl (Scope.get?_set_self scope name last)
  · rcases h with hbound | hunknown
    · exact Or.inl (by rw [Scope.get?_set_of_ne _ _ hname, hbound])
    · exact Or.inr (hunknown.set hname last)

lemma Unknown.resolve_of_isName (h : lib.Unknown scope name) (hname : Lexeme.IsName name.toList) :
    Step.resolve lib scope name = .single (.fresh name) := by
  rw [Step.resolve_of_alternatives lib scope (Chain.isToken_of_isIdentifier hname.1).2,
    h.resolve_eq, Meaning.ofLexeme, hname.category_eq]

/-- A name that has the last result or means nothing gives the last result, and if it binds
anything, it is this result to the name. -/
lemma Takes.run_step (h : lib.Takes scope last name) (hname : Lexeme.IsName name.toList)
    (enter : Enter) (hlast : last.isAbsent = false) :
    let r := (Step.resolve lib scope name).run lib enter scope last
    r.value = last ∧ (r.scope = scope ∨ r.scope = scope.set name last) ∧ r.trace = [] := by
  rcases h with hbound | hunknown
  · have hresolve : Step.resolve lib scope name = .single (.bound name last) := by
      rw [Step.resolve_of_alternatives lib scope (Chain.isToken_of_isIdentifier hname.1).2,
        Meaning.resolve_of_get? hbound]
    rw [hresolve]
    exact ⟨rfl, Or.inl rfl, rfl⟩
  · rw [hunknown.resolve_of_isName hname, Step.run, Meaning.run, if_neg (by simp [hlast])]
    exact ⟨rfl, Or.inr rfl, rfl⟩

/-- Names that have the last result or mean nothing pass it on, without warnings. -/
theorem runSteps_takes {names : List String} (hnames : ∀ n ∈ names, Lexeme.IsName n.toList)
    (htakes : ∀ n ∈ names, lib.Takes scope last n) (enter : Enter) (hlast : last.isAbsent = false) :
    let r := lib.runSteps enter names scope last
    r.value = last ∧ r.warnings = [] := by
  induction names generalizing scope with
  | nil => exact ⟨rfl, rfl⟩
  | cons name rest ih =>
    obtain ⟨hname, hrest⟩ := List.forall_mem_cons.mp hnames
    obtain ⟨htake, htakes⟩ := List.forall_mem_cons.mp htakes
    obtain ⟨hvalue, hscope, htrace⟩ := htake.run_step hname enter hlast
    rw [runSteps, hvalue, htrace]
    generalize ((Step.resolve lib scope name).run lib enter scope last).scope = next at hscope
    -- whichever names are bound by this step, they are bound to the last result
    have hnext : ∀ n ∈ rest, lib.Takes (next.set "last" last) last n := by
      intro n hn
      rcases hscope with rfl | rfl
      · exact (htakes n hn).set "last"
      · exact ((htakes n hn).set name).set "last"
    exact ih hrest hnext

/-- A name that means nothing stands for itself where there is no result before it. -/
lemma Unknown.run_step_absent (h : lib.Unknown scope name) (hname : Lexeme.IsName name.toList)
    (enter : Enter) : (Step.resolve lib scope name).run lib enter scope .absent =
      { value := .str name, scope, trace := [.warned (.unresolved name)] } := by
  rw [h.resolve_of_isName hname]
  rfl

/-- A chain of names that mean nothing passes its seed on. Without a seed it gives the text of its
first name, which is warned of. -/
theorem execute_unknown (running : List String) {names : List String} (hne : names ≠ [])
    (hnames : ∀ n ∈ names, Lexeme.IsName n.toList ∧ n ≠ "last")
    (hunknown : ∀ n ∈ names, lib.Unknown scope n) (seed : Value) :
    let r := lib.execute running (Chain.writeSteps names) scope seed
    (seed ≠ .absent → r.value = seed ∧ r.warnings = []) ∧
      (seed = .absent → r.value = .str (names.head hne) ∧
        r.warnings = [.unresolved (names.head hne)]) := by
  have hwritten := lib.execute_written hne (fun n hn => ?_) running scope seed
  · rw [hwritten]
    have hstart : ∀ n ∈ names, lib.Unknown (scope.set "last" seed) n :=
      fun n hn => (hunknown n hn).set (hnames n hn).2.symm seed
    have hname : ∀ n ∈ names, Lexeme.IsName n.toList := fun n hn => (hnames n hn).1
    constructor
    · intro hseed
      have hlast : seed.isAbsent = false := by rwa [Bool.eq_false_iff, Ne, Value.isAbsent_iff]
      exact runSteps_takes hname (fun n hn => Or.inr (hstart n hn)) _ hlast
    · rintro rfl
      obtain ⟨name, rest, rfl⟩ := List.exists_cons_of_ne_nil hne
      obtain ⟨hfirst, hrest⟩ := List.forall_mem_cons.mp hstart
      obtain ⟨hname, hnames⟩ := List.forall_mem_cons.mp hname
      rw [runSteps, hfirst.run_step_absent hname]
      -- from the second name on the text of the first one is passed on
      have htakes : ∀ n ∈ rest,
          lib.Takes ((scope.set "last" .absent).set "last" (.str name)) (.str name) n :=
        fun n hn => Takes.set (Or.inr (hrest n hn)) "last"
      have hpassed := runSteps_takes hnames htakes (lib.enter running) rfl
      exact ⟨hpassed.1, by simpa [Run.warnings] using hpassed.2⟩
  · have hid := (hnames n hn).1.1
    exact ⟨Lexeme.trimmed_of_isIdentifier hid, (Chain.isPlain_of_isIdentifier hid).clean⟩

end Library

namespace Refrain

/-- Unknown names of which one comes again, one that starts like a truth value, and a single
underscore. -/
def hum : List String := ["la", "_", "la", "trueish", "la"]

lemma unknown_of_hum : ∀ n ∈ hum, shadow.Unknown .empty n := by
  intro n hn
  refine ⟨rfl, ?_, rfl⟩
  revert n
  decide +kernel

theorem execute_unknown_hum :
    (∀ n ∈ hum, Lexeme.IsName n.toList ∧ n ≠ "last") ∧ (∀ n ∈ hum, shadow.Unknown .empty n) ∧
      let sung := shadow.execute ["guest"] (Chain.writeSteps hum) .empty (.bool false)
      let silent := shadow.execute ["guest"] (Chain.writeSteps hum) .empty .absent
      (sung.value = .bool false ∧ sung.warnings = []) ∧
        silent.value = .str "la" ∧ silent.warnings = [.unresolved "la"] := by
  have hnames : ∀ n ∈ hum, Lexeme.IsName n.toList ∧ n ≠ "last" := by decide +kernel
  have hexecute := fun seed =>
    Library.execute_unknown ["guest"] (by decide) hnames unknown_of_hum seed
  exact ⟨hnames, unknown_of_hum, (hexecute (.bool false)).1 (by simp), (hexecute .absent).2 rfl⟩

end Refrain

end ChainScript
