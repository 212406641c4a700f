import ChainScript.Proofs.Calling
import ChainScript.Proofs.Resplitting
import ChainScript.Proofs.Warnings

/-!
# First-success routing

A compound step gives what the first of its alternatives gives that succeeds, and stops there. Each
alternative gives what it would give as a step by itself, but a token that means nothing is a
failure here. If none succeeds, the only results there are to be combined are empty texts, so the
step gives the empty text or no result. As no alternative changes the scope, it makes no difference
whether all of them are resolved at first or each when its turn comes.
-/

namespace ChainScript

open Text

/-! ### Alternatives of alternatives -/

namespace Separator

variable {s : Separator} {quote : Option Char} {piece t : List Char}

lemma split_of_passes (h : s.Passes t) : s.split t = [t] := by
  have hpass := h [] [] allBlank_nil (Or.inl rfl)
  rw [List.append_nil, List.nil_append, splitQuotedFrom_nil] at hpass
  rw [split, splitQuoted, hpass, Option.getD_some]

/-- With regard to quotes a text is cut at no other places than without it. -/
lemma Uncut.splitQuotedFrom_eq {pieces : List (List Char)} (h : s.Uncut piece t)
    (hsplit : s.splitQuotedFrom quote piece t = some pieces) : pieces = [piece ++ t] := by
  fun_induction splitQuotedFrom s quote piece t with
  | case1 piece =>
    rw [List.append_nil]
    exact (Option.some.inj hsplit).symm
  | case2 => cases hsplit
  | case3 piece q c rest ih =>
    have hrest := ih (cons_iff.mp h).2 hsplit
    rwa [List.append_assoc] at hrest
  | case4 piece c rest hopen ih =>
    have hrest := ih (cons_iff.mp h).2 hsplit
    rwa [List.append_assoc] at hrest
  | case5 piece c rest hopen after hcut ih =>
    rw [(cons_iff.mp h).1] at hcut
    cases hcut
  | case6 piece c rest hopen hcut ih =>
    have hrest := ih (cons_iff.mp h).2 hsplit
    rwa [List.append_assoc] at hrest

lemma split_of_uncut (h : s.Uncut [] t) : s.split t = [t] := by
  rw [split]
  cases hsplit : s.splitQuoted t with
  | some pieces => rw [Option.getD_some, h.splitQuotedFrom_eq hsplit, List.nil_append]
  | none =>
    have hplain := splitPlainFrom_append h (Or.inl rfl)
    rw [List.append_nil, List.nil_append, splitPlainFrom_nil] at hplain
    rw [Option.getD_none, splitPlain, hplain]

/-- A piece is not cut once more. -/
lemma split_of_mem_split {text : List Char} (h : piece ∈ s.split text) :
    s.split (trim piece) = [trim piece] := by
  rw [split] at h
  cases hsplit : s.splitQuoted text with
  | some pieces =>
    rw [hsplit, Option.getD_some] at h
    exact split_of_passes ((whole_of_mem_splitQuoted hsplit h).passes (trimmed_trim piece))
  | none =>
    rw [hsplit, Option.getD_none] at h
    exact split_of_uncut (uncut_of_mem_splitPlain h).trim

end Separator

/-- An alternative of a step is a step with no other alternatives. -/
lemma Chain.alternatives_of_mem {token name : String} (h : name ∈ alternatives token) :
    alternatives name = [name] := by
  obtain ⟨t, ht, rfl⟩ := List.mem_map.mp h
  obtain ⟨piece, hpiece, rfl⟩ := List.mem_map.mp ht
  rw [alternatives, splitAlternatives, String.toList_ofList, Separator.split_of_mem_split hpiece]
  simp

/-! ### Combining what did not succeed -/

namespace Value

lemma isVacant_iff {v : Value} : v.isVacant = true ↔ v = .absent ∨ v = .str "" := by
  cases v <;> simp [isVacant]

lemma join_replicate_empty (n : Nat) : String.join (List.replicate n "") = "" := by
  induction n with
  | zero => rfl
  | succ n ih => rw [List.replicate_succ, String.join_cons, ih, String.empty_append]

/-- The results that are there, if none of them succeeds. -/
lemma filter_of_vacant {values : List Value} (h : ∀ v ∈ values, v.isVacant = true) :
    (values.filter fun v => !v.isAbsent) =
      List.replicate (values.filter fun v => !v.isAbsent).length (.str "") := by
  refine List.eq_replicate_of_mem fun v hv => ?_
  obtain ⟨hmem, hpresent⟩ := List.mem_filter.mp hv
  rcases isVacant_iff.mp (h v hmem) with rfl | rfl
  · cases hpresent
  · rfl

lemma mapM_text?_replicate (n : Nat) (text : String) :
    (List.replicate n (str text)).mapM text? = some (List.replicate n text) := by
  induction n with
  | zero => rfl
  | succ n ih => simp [List.replicate_succ, ih, text?]

/-- Where no result succeeds, those that are there are no numbers but texts. -/
lemma texts_of_vacant {values : List Value} (h : ∀ v ∈ values, v.isVacant = true)
    (hpresent : (values.filter fun v => !v.isAbsent) ≠ []) :
    (values.filter fun v => !v.isAbsent).mapM number? = none ∧
      ∃ texts, (values.filter fun v => !v.isAbsent).mapM text? = some texts ∧
        String.join texts = "" := by
  rw [filter_of_vacant h] at hpresent ⊢
  refine ⟨?_, _, mapM_text?_replicate _ "", join_replicate_empty _⟩
  cases hlength : (values.filter fun v => !v.isAbsent).length with
  | zero =>
    rw [hlength] at hpresent
    exact absurd rfl hpresent
  | succ n =>
    rw [List.replicate_succ, List.mapM_cons]
    rfl

lemma filter_present_eq_nil {values : List Value} :
    (values.filter fun v => !v.isAbsent) = [] ↔ ∀ v ∈ values, v = .absent := by
  simp [isAbsent_iff]

lemma combine_of_absent {values : List Value} (h : ∀ v ∈ values, v = .absent) :
    combine values = .absent := by
  rw [combine, filter_present_eq_nil.mpr h]

lemma combine_of_empty {values : List Value} (h : ∀ v ∈ values, v.isVacant = true)
    (hempty : .str "" ∈ values) : combine values = .str "" := by
  have hpresent : (values.filter fun v => !v.isAbsent) ≠ [] := fun hnil => by
    cases filter_present_eq_nil.mp hnil _ hempty
  obtain ⟨hnumbers, texts, htexts, hjoin⟩ := texts_of_vacant h hpresent
  rw [combine]
  split
  · next hnil => exact absurd hnil hpresent
  · rw [hnumbers, htexts]
    exact congrArg str hjoin

/-- One more result that does not succeed matters only if it is there. -/
lemma combine_concat {values : List Value} (h : ∀ v ∈ values, v.isVacant = true) {v : Value}
    (hv : v.isVacant = true) :
    combine (values ++ [v]) = if v.isAbsent then combine values else v := by
  rcases isVacant_iff.mp hv with rfl | rfl
  · simp [combine, isAbsent]
  · exact combine_of_empty (List.forall_mem_append.mpr ⟨h, List.forall_mem_singleton.mpr hv⟩)
      (List.mem_append_right _ (List.mem_singleton_self _))

end Value

/-! ### Trying an alternative -/

namespace Library

/-- Runs a token that is an alternative: as a step by itself, but an unknown token is a failure and
binds nothing. -/
def tryAlone (lib : Library) (enter : Enter) (scope : Scope) (last : Value) (name : String) : Run :=
  match Step.resolve lib scope name with
  | .single (.fresh token) | .single (.unresolved token) =>
    { value := .absent, scope, trace := [.warned (.unresolved token)] }
  | step => step.run lib enter scope last

/-- Runs the alternatives one after the other, each resolved in the scope that the one before it has
left, until one succeeds. If none does, the result is empty if there was one, and `fallback` if
not. -/
def tryEach (lib : Library) (enter : Enter) (last fallback : Value) : List String → Scope → Run
  | [], scope => { value := fallback, scope, trace := [] }
  | name :: rest, scope =>
    let r := lib.tryAlone enter scope last name
    if r.value.isVacant then
      let next := if r.value.isAbsent then fallback else r.value
      let more := lib.tryEach enter last next rest r.scope
      { more with trace := r.trace ++ more.trace }
    else r

variable (lib : Library) (enter : Enter) (scope : Scope) (last : Value) {token name : String}

/-- An alternative is resolved as it would be as a step by itself. -/
lemma resolve_of_mem_alternatives (h : name ∈ Chain.alternatives token) :
    Step.resolve lib scope name = .single (Meaning.resolve lib scope name) :=
  Step.resolve_of_alternatives lib scope (Chain.alternatives_of_mem h)

lemma tryAlone_of_mem_alternatives (h : name ∈ Chain.alternatives token) :
    lib.tryAlone enter scope last name =
      let attempt := (Meaning.resolve lib scope name).attempt lib enter scope last
      { value := attempt.1, scope, trace := attempt.2 } := by
  rw [tryAlone, resolve_of_mem_alternatives lib scope h]
  cases Meaning.resolve lib scope name <;> rfl

/-- It makes no difference whether the alternatives are resolved before all of them or each in its
turn. -/
lemma tryEach_eq_route {names : List String} {passed : List Value}
    (hnames : names ⊆ Chain.alternatives token) (hpassed : ∀ v ∈ passed, v.isVacant = true) :
    lib.tryEach enter last (Value.combine passed) names scope =
      let routed := Meaning.route lib enter scope last passed
        (names.map (Meaning.resolve lib scope))
      { value := routed.1, scope, trace := routed.2 } := by
  induction names generalizing passed with
  | nil => rfl
  | cons name rest ih =>
    obtain ⟨hname, hrest⟩ := List.cons_subset.mp hnames
    rw [tryEach, tryAlone_of_mem_alternatives lib enter scope last hname, List.map_cons,
      Meaning.route]
    dsimp only
    split
    · next hvacant =>
      rw [← Value.combine_concat hpassed hvacant, ih hrest]
      exact List.forall_mem_append.mpr ⟨hpassed, List.forall_mem_singleton.mpr hvacant⟩
    · rfl

lemma scope_tryAlone (h : name ∈ Chain.alternatives token) :
    (lib.tryAlone enter scope last name).scope = scope := by
  rw [tryAlone_of_mem_alternatives lib enter scope last h]

end Library

/-! ### The first success -/

/-- What happens in the runs of the names one after the other. -/
def tracesOf (alone : String → Run) (names : List String) : Trace :=
  names.flatMap fun name => (alone name).trace

lemma tracesOf_cons (alone : String → Run) (name : String) (names : List String) :
    tracesOf alone (name :: names) = (alone name).trace ++ tracesOf alone names :=
  List.flatMap_cons

lemma tracesOf_singleton (alone : String → Run) (name : String) :
    tracesOf alone [name] = (alone name).trace :=
  List.flatMap_singleton _ name

/-- The names give, in their order, a value and what happens until it is found, where `alone` has
what comes of each name by itself. The value is that of the first name whose value is neither absent
nor the empty text, and the names after it are not run. -/
inductive Routed (alone : String → Run) (names : List String) : Value → Trace → Prop
  | won {before after : List String} {winner : String} (hnames : names = before ++ winner :: after)
      (hbefore : ∀ name ∈ before, (alone name).value = .absent ∨ (alone name).value = .str "")
      (hpresent : (alone winner).value ≠ .absent) (hfull : (alone winner).value ≠ .str "") :
      Routed alone names (alone winner).value (tracesOf alone (before ++ [winner]))
  | empty (hall : ∀ name ∈ names, (alone name).value = .absent ∨ (alone name).value = .str "")
      (hsome : ∃ name ∈ names, (alone name).value = .str "") :
      Routed alone names (.str "") (tracesOf alone names)
  | absent (hall : ∀ name ∈ names, (alone name).value = .absent) :
      Routed alone names .absent (tracesOf alone names)

namespace Routed

variable {alone : String → Run} {names : List String} {name : String} {value : Value}
  {trace : Trace}

lemma of_success (h : (alone name).value.isVacant = false) :
    Routed alone (name :: names) (alone name).value (alone name).trace := by
  have hneither : ¬ ((alone name).value = .absent ∨ (alone name).value = .str "") := by
    rw [← Value.isVacant_iff, h]
    exact Bool.false_ne_true
  rw [← tracesOf_singleton]
  have hbefore : ∀ other ∈ ([] : List String),
      (alone other).value = .absent ∨ (alone other).value = .str "" := List.forall_mem_nil _
  exact won rfl hbefore (fun habsent => hneither (Or.inl habsent))
    (fun hempty => hneither (Or.inr hempty))

lemma cons_absent (h : (alone name).value = .absent) (hrest : Routed alone names value trace) :
    Routed alone (name :: names) value ((alone name).trace ++ trace) := by
  cases hrest with
  | won hnames hbefore hpresent hfull =>
    rw [← tracesOf_cons, ← List.cons_append]
    exact won (by rw [hnames, List.cons_append])
      (List.forall_mem_cons.mpr ⟨Or.inl h, hbefore⟩) hpresent hfull
  | empty hall hsome =>
    rw [← tracesOf_cons]
    obtain ⟨other, hother, hempty⟩ := hsome
    exact empty (List.forall_mem_cons.mpr ⟨Or.inl h, hall⟩)
      ⟨other, List.mem_cons_of_mem _ hother, hempty⟩
  | absent hall =>
    rw [← tracesOf_cons]
    exact absent (List.forall_mem_cons.mpr ⟨h, hall⟩)

lemma cons_empty (h : (alone name).value = .str "") (hrest : Routed alone names value trace) :
    Routed alone (name :: names) (if value.isAbsent then .str "" else value)
      ((alone name).trace ++ trace) := by
  have hsome : ∃ other ∈ name :: names, (alone other).value = .str "" :=
    ⟨name, List.mem_cons_self, h⟩
  cases hrest with
  | @won _ _ winner hnames hbefore hpresent hfull =>
    have hthere : (alone winner).value.isAbsent = false := by
      cases hvalue : (alone winner).value with
      | absent => exact absurd hvalue hpresent
      | _ => rfl
    rw [hthere, ← tracesOf_cons, ← List.cons_append]
    exact won (by rw [hnames, List.cons_append])
      (List.forall_mem_cons.mpr ⟨Or.inr h, hbefore⟩) hpresent hfull
  | empty hall _ =>
    rw [← tracesOf_cons]
    exact empty (List.forall_mem_cons.mpr ⟨Or.inr h, hall⟩) hsome
  | absent hall =>
    rw [← tracesOf_cons]
    exact empty (List.forall_mem_cons.mpr ⟨Or.inr h, fun other ho => Or.inl (hall other ho)⟩) hsome

/-- If no name succeeds, the value is what their values amount to together. -/
lemma eq_combine (h : Routed alone names value trace)
    (hall : ∀ name ∈ names, (alone name).value.isVacant = true) :
    value = Value.combine (names.map fun name => (alone name).value) := by
  cases h with
  | @won _ _ winner hnames _ hpresent hfull =>
    have hwinner : winner ∈ names := hnames ▸ List.mem_append_cons_self
    rcases Value.isVacant_iff.mp (hall winner hwinner) with habsent | hempty
    · exact absurd habsent hpresent
    · exact absurd hempty hfull
  | empty _ hsome =>
    obtain ⟨name, hname, hempty⟩ := hsome
    exact (Value.combine_of_empty (List.forall_mem_map.mpr hall)
      (List.mem_map.mpr ⟨name, hname, hempty⟩)).symm
  | absent habsent => exact (Value.combine_of_absent (List.forall_mem_map.mpr habsent)).symm

end Routed

/-- One after the other the names are routed, and `fallback` stands in for no result. -/
lemma Library.routed_tryEach {lib : Library} {enter : Enter} {scope : Scope} {last : Value}
    {names : List String}
    (hscope : ∀ name ∈ names, (lib.tryAlone enter scope last name).scope = scope)
    (fallback : Value) :
    ∃ value, Routed (lib.tryAlone enter scope last) names value
        (lib.tryEach enter last fallback names scope).trace ∧
      (lib.tryEach enter last fallback names scope).value =
        if value.isAbsent then fallback else value := by
  induction names generalizing fallback with
  | nil => exact ⟨.absent, .absent (List.forall_mem_nil _), rfl⟩
  | cons name rest ih =>
    obtain ⟨hname, hrest⟩ := List.forall_mem_cons.mp hscope
    rw [tryEach]
    dsimp only
    rw [hname]
    split
    · next hvacant =>
      rcases Value.isVacant_iff.mp hvacant with habsent | hempty
      · obtain ⟨value, hrouted, hvalue⟩ := ih hrest fallback
        rw [habsent]
        exact ⟨value, hrouted.cons_absent habsent, hvalue⟩
      · -- from here on the empty text stands in for no result
        obtain ⟨value, hrouted, hvalue⟩ := ih hrest (.str "")
        rw [hempty]
        refine ⟨_, hrouted.cons_empty hempty, hvalue.trans ?_⟩
        cases value <;> rfl
    · next hsuccess =>
      rw [Bool.not_eq_true] at hsuccess
      refine ⟨_, .of_success hsuccess, ?_⟩
      cases hvalue : (lib.tryAlone enter scope last name).value with
      | absent => rw [hvalue] at hsuccess; cases hsuccess
      | _ => rfl

/-! ### Compound steps -/

namespace Activation

variable (lib : Library) (a : Activation) (taken : List String) (token : String)

/-- The run of the token `name` as an alternative, when it comes by itself after the steps
`taken`. -/
def alternativeRun (name : String) : Run :=
  let now := a.after lib taken
  lib.tryAlone (lib.enter a.running) now.scope now.value name

/-- The compound step `token` that comes after the steps `taken` is first-success routing and
nothing else. -/
structure Routing : Prop where
  /-- It has the result of the first alternative that succeeds, and what happens is what happens in
  the alternatives up to that one. -/
  routed : Routed (a.alternativeRun lib taken) (Chain.alternatives token)
    (a.stepRun lib taken token).value (a.stepRun lib taken token).trace
  /-- No binding changes. -/
  scope : (a.stepRun lib taken token).scope = (a.after lib taken).scope
  /-- Each alternative could as well be resolved just before it runs. -/
  inTurn : a.stepRun lib taken token = lib.tryEach (lib.enter a.running) (a.after lib taken).value
    .absent (Chain.alternatives token) (a.after lib taken).scope
  /-- If no alternative succeeds, the results are combined, but there is either none or they are all
  texts: there is no sum of numbers, and no first result that stands for all. -/
  combined : (∀ name ∈ Chain.alternatives token,
      (a.alternativeRun lib taken name).value.isVacant = true) →
    let values := (Chain.alternatives token).map fun name => (a.alternativeRun lib taken name).value
    let present := values.filter fun v => !v.isAbsent
    (a.stepRun lib taken token).value = Value.combine values ∧
      (present ≠ [] → present.mapM Value.number? = none ∧ ∃ texts,
        present.mapM Value.text? = some texts ∧ String.join texts = "")

variable {token}

lemma stepRun_eq_tryEach (hcompound : 1 < (Chain.alternatives token).length) :
    a.stepRun lib taken token = lib.tryEach (lib.enter a.running) (a.after lib taken).value
      .absent (Chain.alternatives token) (a.after lib taken).scope := by
  have hpassed : ∀ v ∈ ([] : List Value), v.isVacant = true := List.forall_mem_nil _
  have hroute := lib.tryEach_eq_route (lib.enter a.running) (a.after lib taken).scope
    (a.after lib taken).value (List.Subset.refl (Chain.alternatives token)) hpassed
  rw [Value.combine_of_absent (List.forall_mem_nil _)] at hroute
  rw [hroute, stepRun, Step.resolve]
  dsimp only
  rw [if_pos hcompound, Step.run]

/-- Every compound step, in whatever chain and after whatever steps, is first-success routing and
nothing else. -/
theorem compound_step_routes (hcompound : 1 < (Chain.alternatives token).length) :
    a.Routing lib taken token := by
  have hturn := a.stepRun_eq_tryEach lib taken hcompound
  have hrouted : Routed (a.alternativeRun lib taken) (Chain.alternatives token)
      (a.stepRun lib taken token).value (a.stepRun lib taken token).trace := by
    obtain ⟨value, hrouted, hvalue⟩ := Library.routed_tryEach
      (fun _ hname => lib.scope_tryAlone (lib.enter a.running) (a.after lib taken).scope
        (a.after lib taken).value hname) .absent
    rw [hturn, hvalue]
    cases value <;> exact hrouted
  refine ⟨hrouted, ?_, hturn, fun hall => ⟨hrouted.eq_combine hall, fun hpresent => ?_⟩⟩
  · rw [stepRun, Step.resolve, if_pos hcompound, Step.run]
  · exact Value.texts_of_vacant (List.forall_mem_map.mpr hall) hpresent

end Activation

namespace Menu

/-- Of the alternatives `cook + sold + tea + kitchen + bread` the first means nothing, the second
fails, the third is empty and the fourth is a voice that has something. -/
def library : Library where
  store := (Store.empty.insertVoice ⟨"tea", [], .literal (.str "")⟩).insertVoice
    ⟨"kitchen", [], .chain "cook + 'soup'"⟩
  registry := Registry.register .empty "sold" ⟨fun _ scope => (.breakdown (some "out"), scope)⟩
  files := {}

/-- A chain with this step. -/
def activation : Activation where
  running := []
  chain := "3 -> cook + sold + tea + kitchen + bread"
  scope := .empty
  seed := .absent

theorem compound_step_routes_menu :
    1 < (Chain.alternatives "cook + sold + tea + kitchen + bread").length ∧
      activation.Routing library ["3"] "cook + sold + tea + kitchen + bread" :=
  ⟨by decide +kernel, activation.compound_step_routes library ["3"] (by decide +kernel)⟩

end Menu

end ChainScript
