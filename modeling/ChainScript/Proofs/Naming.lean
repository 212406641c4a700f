import ChainScript.Proofs.ChainText
import ChainScript.Proofs.Declaring
import ChainScript.Proofs.Relay
import ChainScript.Proofs.Shadowing

/-!
# Voice names as steps

A voice can be declared under any name without blanks, slashes and opening parentheses, so there may
be separators in it. Where these take the name apart, no chain calls the voice: its name is no
alternative of the step that it stands for. Where the name stays whole, the step gives what the
voice gives.
-/

namespace ChainScript

open Text

/-! ### Characters that are not blank -/

namespace Text

/-- The number of characters that are not blank. -/
def solidCount (t : List Char) : Nat :=
  t.countP fun c => !isBlank c

lemma solidCount_append (s t : List Char) : solidCount (s ++ t) = solidCount s + solidCount t :=
  List.countP_append

lemma solidCount_of_allBlank {t : List Char} (h : allBlank t = true) : solidCount t = 0 := by
  rw [solidCount, List.countP_eq_zero]
  intro c hc
  simp [allBlank_iff.mp h c hc]

@[simp] lemma solidCount_trim (t : List Char) : solidCount (trim t) = solidCount t := by
  obtain ⟨b, e, hb, he, ht⟩ := exists_trim t
  rw [congrArg solidCount ht, solidCount_append, solidCount_append, solidCount_of_allBlank hb,
    solidCount_of_allBlank he]
  omega

end Text

namespace Separator

variable {s : Separator} {t piece : List Char}

/-- A piece of a text that is cut lacks the characters of a separator at least. -/
lemma solidCount_lt_of_mem {pieces : List (List Char)} (hmem : piece ∈ pieces)
    (hlength : 1 < pieces.length) : solidCount piece < solidCount (s.text.intercalate pieces) := by
  have hsep : 0 < solidCount s.text := by cases s <;> decide
  obtain ⟨first, more, rfl⟩ := List.exists_cons_of_ne_nil (List.ne_nil_of_mem hmem)
  have hmore : more ≠ [] := by
    rintro rfl
    simp at hlength
  rw [List.intercalate_cons_of_ne_nil hmore, solidCount_append, solidCount_append]
  rcases List.mem_cons.mp hmem with rfl | hrest
  · omega
  · have hle : solidCount piece ≤ solidCount (s.text.intercalate more) :=
      (Chain.isInfix_intercalate hrest).sublist.countP_le
    omega

/-- A text of which a piece has all that is not blank is not cut. -/
lemma split_eq_singleton_of_mem (hmem : piece ∈ s.split t) (h : solidCount t ≤ solidCount piece) :
    s.split t = [t] := by
  apply split_eq_singleton
  by_contra hlength
  have hlt := solidCount_lt_of_mem (s := s) hmem (by omega)
  rw [intercalate_split] at hlt
  omega

lemma split_eq_singleton_of_not_infix (h : ¬ s.text <:+: t) : s.split t = [t] := by
  apply split_eq_singleton
  by_contra hlength
  obtain ⟨p, more, hpieces⟩ := List.exists_cons_of_ne_nil (split_ne_nil s t)
  have hmore : more ≠ [] := by
    rintro rfl
    simp [hpieces] at hlength
  have hjoin := intercalate_split s t
  rw [hpieces, List.intercalate_cons_of_ne_nil hmore] at hjoin
  exact h ⟨p, _, hjoin⟩

lemma solidCount_le_of_mem_split (hmem : piece ∈ s.split t) : solidCount piece ≤ solidCount t := by
  have hinfix : piece <:+: t := intercalate_split s t ▸ Chain.isInfix_intercalate hmem
  exact hinfix.sublist.countP_le

end Separator

/-! ### Names that stay whole -/

namespace Chain

open Separator

/-- The chain text whose only step is meant to be the name. -/
def alone (name : String) : String :=
  braced (" " ++ name ++ " ")

/-- The name is the only step of its chain, and has no alternatives but itself. -/
def IsToken (name : String) : Prop :=
  steps (alone name) = [name] ∧ alternatives name = [name]

lemma body_alone (name : String) : body (alone name).toList = [' '] ++ name.toList ++ [' '] := by
  rw [alone, braced_eq_joinSteps, String.toList_ofList, body_joinSteps, List.intercalate_singleton,
    String.toList_append, String.toList_append]
  rfl

lemma isToken_of_split {name : String} (hname : ∀ c ∈ name.toList, isBlank c = false)
    (harrow : arrow.split ([' '] ++ name.toList ++ [' ']) = [[' '] ++ name.toList ++ [' ']])
    (hplus : plus.split name.toList = [name.toList]) : IsToken name := by
  have htrimmed : Trimmed name.toList := trimmed_of_forall hname
  have hblank : allBlank [' '] = true := by decide
  constructor
  · rw [steps, splitSteps, body_alone, harrow, List.map_singleton,
      htrimmed.trim_append_append hblank hblank, List.map_singleton, String.ofList_toList]
  · rw [alternatives, splitAlternatives, hplus, List.map_singleton, htrimmed.trim_eq,
      List.map_singleton, String.ofList_toList]

/-- A name stays whole if there are no separators in it. -/
lemma isToken_of_bare {name : String} (hname : ∀ c ∈ name.toList, isBlank c = false)
    (hbare : ∀ s : Separator, ¬ s.text <:+: name.toList) : IsToken name := by
  apply isToken_of_split hname
  · apply split_eq_singleton_of_not_infix
    have hleft : ¬ arrow.text <:+: [' '] ++ name.toList :=
      not_arrow_infix_cons_of_ne (by decide) (hbare arrow)
    exact not_arrow_infix_append hleft (by decide) (Or.inr ⟨[], rfl⟩)
  · exact split_eq_singleton_of_not_infix (hbare plus)

/-- An identifier stays whole. -/
lemma isToken_of_isIdentifier {name : String} (h : Lexeme.isIdentifier name.toList = true) :
    IsToken name := by
  refine isToken_of_bare (fun c hc => ?_) fun s hinfix => ?_
  · exact Lexeme.isBlank_of_isWordChar (Lexeme.isWordChar_of_isIdentifier h c hc)
  · cases s with
    | arrow =>
      have harrow : '>' ∈ name.toList := hinfix.subset (by decide)
      exact Lexeme.not_mem_of_isIdentifier h (by decide) harrow
    | plus =>
      have hplus : '+' ∈ name.toList := hinfix.subset (by decide)
      exact Lexeme.not_mem_of_isIdentifier h (by decide) hplus

/-- A name without blanks stays whole if it is an alternative at all. -/
lemma isToken_of_mentions {name : String} (hname : ∀ c ∈ name.toList, isBlank c = false)
    (h : Mentions (alone name) name) : IsToken name := by
  have htrimmed : Trimmed name.toList := trimmed_of_forall hname
  have hblank : allBlank [' '] = true := by decide
  obtain ⟨token, htoken, halternative⟩ := h
  obtain ⟨t, ht, rfl⟩ := List.mem_map.mp htoken
  obtain ⟨step, hstep, rfl⟩ := List.mem_map.mp ht
  obtain ⟨u, hu, heq⟩ := List.mem_map.mp halternative
  obtain ⟨piece, hpiece, rfl⟩ := List.mem_map.mp hu
  rw [body_alone] at hstep
  rw [String.toList_ofList] at hpiece
  -- all that is not blank in the chain is in the piece, and so it is in the step
  have hwhole : solidCount ([' '] ++ name.toList ++ [' ']) = solidCount piece := by
    rw [solidCount_append, solidCount_append, solidCount_of_allBlank hblank, ← heq,
      String.toList_ofList, solidCount_trim]
    omega
  have hle : solidCount piece ≤ solidCount step := by
    have := solidCount_le_of_mem_split hpiece
    rwa [solidCount_trim] at this
  have harrow := split_eq_singleton_of_mem hstep (hwhole ▸ hle)
  have hstep' : step = [' '] ++ name.toList ++ [' '] := by
    rwa [harrow, List.mem_singleton] at hstep
  rw [hstep', htrimmed.trim_append_append hblank hblank] at hpiece
  apply isToken_of_split hname harrow
  apply split_eq_singleton_of_mem hpiece
  rw [← hwhole, solidCount_append, solidCount_append]
  omega

end Chain

/-! ### A single voice -/

/-- The context has this voice, no other voice and no primitives. -/
structure Context.HoldsOnly (c : Context) (files : FileTree) (v : Voice) : Prop where
  voices : (c.ready files).store.voices.entries = [v]
  registry : c.registry = .empty

/-- The chain whose only step is the name of the voice gives what the voice gives, where there is
nothing but the voice, and for all inputs that bind `input` and neither the name nor a parameter. -/
def Voice.StandsAsStep (v : Voice) : Prop :=
  ∀ (c : Context) (files : FileTree) (inputs : Bindings) (seed : Value), c.HoldsOnly files v →
    (Scope.ofBindings inputs).get? "input" = some seed →
    (Scope.ofBindings inputs).get? v.name = none →
    (∀ p ∈ v.parameters, (Scope.ofBindings inputs).get? p = none) →
    (c.executeChain files (Chain.alone v.name) inputs).1 = (c.executeVoice files v.name inputs).1

namespace Context

variable {c : Context} {files : FileTree} {v w : Voice}

lemma HoldsOnly.voice? (h : c.HoldsOnly files v) :
    ((c.ready files).library files).store.voice? v.name = some v := by
  rw [library, Store.voice?, Catalogue.find?, h.voices]
  simp

lemma HoldsOnly.extensional (h : c.HoldsOnly files v) :
    ((c.ready files).library files).registry.Extensional := by
  rw [library, ready, loadDefaults]
  split_ifs <;> exact h.registry ▸ Registry.extensional_empty

/-- A voice whose name stays whole can be used as a step. -/
theorem standsAsStep_of_isToken (hlast : v.name ≠ "last") (htoken : Chain.IsToken v.name) :
    v.StandsAsStep := by
  intro c files inputs seed honly hinput hunbound hparameters
  have hnone : ((Scope.ofBindings inputs).set "last" seed).get? v.name = none := by
    rw [Scope.get?_set_of_ne _ _ hlast.symm, hunbound]
  have hvoice := enter_alike_runVoice ((c.ready files).library files) [] honly.extensional
    (by simp) (by simp) honly.voice? hinput
    (fun p hp value hvalue => by
      rw [hparameters p hp] at hvalue
      cases hvalue)
  have hchain : runChain ((c.ready files).library files) (Chain.alone v.name) inputs =
      runVoice ((c.ready files).library files) v.name inputs := by
    have halike := Library.runSteps_voice htoken.2 honly.voice? hnone [] seed
    simp only [runChain, Scope.value, hinput, Option.getD_some, Library.execute, Library.runChain,
      htoken.1]
    rw [hvoice]
    exact congrArg₂ Execution.mk halike.value halike.warnings
  rw [executeChain, executeVoice, hchain]

/-- The context with just this voice. -/
def only (v : Voice) : Context where
  config := {}
  store := Store.empty.insertVoice v
  registry := .empty
  defaultsLoaded := true

lemma holdsOnly_only (v : Voice) : (only v).HoldsOnly {} v where
  voices := rfl
  registry := rfl

/-- Two voices of one name cannot be told apart by a chain that does not mention the name. -/
lemma runChain_only_eq (hname : v.name = w.name) {chain : String}
    (hchain : ¬ Chain.Mentions chain v.name) (inputs : Bindings) :
    runChain ((only v).library {}) chain inputs = runChain ((only w).library {}) chain inputs := by
  have hagree : ((only v).library {}).AgreeOutside {v.name} ((only w).library {}) := by
    constructor
    · rfl
    · intro name hne
      rw [Set.mem_singleton_iff] at hne
      have hv := Store.voice?_insertVoice .empty v name
      have hw := Store.voice?_insertVoice .empty w name
      rw [if_neg (Ne.symm hne)] at hv
      rw [← hname, if_neg (Ne.symm hne)] at hw
      exact hv.trans hw.symm
    · intro _ _ _
      rfl
  have hsim : Simulation ((only v).library {}) ((only w).library {})
      (Scope.Shielded {v.name} (Chain.Mentions chain)) (Chain.Mentions chain) := by
    apply hagree.simulation
    rintro name ⟨other, hother, hne, -⟩
    rw [List.mem_singleton.mp hother] at hne
    exact absurd rfl hne
  have hshielded : Scope.Shielded {v.name} (Chain.Mentions chain) (Scope.ofBindings inputs)
      (Scope.ofBindings inputs) := by
    refine ⟨rfl, fun name hmem hmentions => ?_⟩
    rw [Set.mem_singleton_iff.mp hmem] at hmentions
    exact absurd hmentions hchain
  have hrunning : ∀ name, Chain.Mentions chain name → (name ∈ [] ↔ name ∈ []) :=
    fun _ _ => Iff.rfl
  have halike := hsim.execute_alike hrunning (fun _ h => h)
    (hshielded.set "last" ((Scope.ofBindings inputs).value "input"))
  exact congrArg₂ Execution.mk halike.value halike.warnings

/-- A value whose voice can be used as a step is what the chain of its name gives. -/
lemma value_runChain_only {x : Value} {inputs : Bindings} {seed : Value} (h : v.StandsAsStep)
    (hbody : v.body = .literal x) (hinput : (Scope.ofBindings inputs).get? "input" = some seed)
    (hunbound : (Scope.ofBindings inputs).get? v.name = none)
    (hparameters : ∀ p ∈ v.parameters, (Scope.ofBindings inputs).get? p = none) :
    (runChain ((only v).library {}) (Chain.alone v.name) inputs).value = x := by
  have honly := holdsOnly_only v
  have hexecution := h _ {} inputs seed honly hinput hunbound hparameters
  have hvalue := congrArg Execution.value hexecution
  rw [executeVoice, runVoice_of_literal honly.voice? hbody] at hvalue
  exact hvalue

/-- If voices of one name but with different values can be used as steps, the chain of the name
mentions it. -/
lemma mentions_of_standsAsStep {n : String} {x y : Value} (hinput : "input" ≠ n)
    (hx : Voice.StandsAsStep ⟨n, [], .literal x⟩) (hy : Voice.StandsAsStep ⟨n, [], .literal y⟩)
    (hne : x ≠ y) : Chain.Mentions (Chain.alone n) n := by
  by_contra hmentions
  let inputs : Bindings := Catalogue.empty.insert ("input", .absent)
  have hseed : (Scope.ofBindings inputs).get? "input" = some .absent := rfl
  have hunbound : (Scope.ofBindings inputs).get? n = none := Scope.get?_set_of_ne .empty _ hinput
  have hvalue := value_runChain_only hx rfl hseed hunbound (by simp)
  have hvalue' := value_runChain_only hy rfl hseed hunbound (by simp)
  have hsame := runChain_only_eq (v := ⟨n, [], .literal x⟩) (w := ⟨n, [], .literal y⟩) rfl
    hmentions inputs
  rw [hsame, hvalue'] at hvalue
  exact hne hvalue.symm

end Context

/-! ### All voices of a name -/

namespace Declaration

open Context

lemma exists_line {n : String} (hname : IsVoiceName n.toList) {t : List Char} {body : Body}
    (hbody : IsBodyText t body) : ∃ line, read? line = some (.voice ⟨n, [], body⟩) := by
  refine ⟨writeVoice n [] (String.ofList t), read?_writeVoice hname (by simp) ?_ ?_⟩
  · rw [String.toList_ofList]
    exact hbody.trimmed
  · rw [String.toList_ofList]
    exact hbody.readBody?_eq

/-- All voices that lines declare under a name can be used as steps exactly if the name stays whole.
The name `last` is left out, as it is always bound. -/
theorem standsAsStep_iff {n : String} (hlast : n ≠ "last")
    (hdeclared : ∃ line v, read? line = some (.voice v) ∧ v.name = n) :
    (∀ line v, read? line = some (.voice v) → v.name = n → v.StandsAsStep) ↔ Chain.IsToken n := by
  constructor
  · intro h
    by_cases hinput : "input" = n
    · subst hinput
      constructor <;> decide +kernel
    have hname : IsVoiceName n.toList := by
      obtain ⟨line, v, hread, rfl⟩ := hdeclared
      exact isVoiceName_of_read? hread
    -- voices with different values can be declared under the name
    obtain ⟨line, hyes⟩ := exists_line hname .yes
    obtain ⟨line', hno⟩ := exists_line hname .no
    have hne : Value.bool true ≠ .bool false := by simp
    have hmentions := mentions_of_standsAsStep hinput (h _ _ hyes rfl) (h _ _ hno rfl) hne
    exact Chain.isToken_of_mentions (fun c hc => (hname.2 c hc).1) hmentions
  · rintro htoken line v - rfl
    exact standsAsStep_of_isToken hlast htoken

/-- Separators between quotes that open a name leave it whole, and a bare plus sign does not. -/
theorem standsAsStep_quoted :
    (∀ line v, read? line = some (.voice v) → v.name = "'a->b+c'" → v.StandsAsStep) ∧
      ¬ ∀ line v, read? line = some (.voice v) → v.name = "a+b" → v.StandsAsStep := by
  constructor
  · have hname : IsVoiceName "'a->b+c'".toList := by decide
    obtain ⟨line, hread⟩ := exists_line hname .yes
    have htoken : Chain.IsToken "'a->b+c'" := ⟨by decide +kernel, by decide +kernel⟩
    exact (standsAsStep_iff (by decide) ⟨line, _, hread, rfl⟩).mpr htoken
  · have hname : IsVoiceName "a+b".toList := by decide
    obtain ⟨line, hread⟩ := exists_line hname .yes
    have htoken : ¬ Chain.IsToken "a+b" := fun h => absurd h.2 (by decide +kernel)
    exact fun h => htoken ((standsAsStep_iff (by decide) ⟨line, _, hread, rfl⟩).mp h)

/-- A voice with a plus sign in its name is executed by this name, but its step means two other
names. -/
theorem not_standsAsStep_plus :
    let v : Voice := ⟨"a+b", [], .literal (.bool true)⟩
    let inputs : Bindings := .ofList Prod.fst [("input", .str "x")]
    read? "voice a+b / true" = some (.voice v) ∧ (only v).HoldsOnly {} v ∧
      (Scope.ofBindings inputs).get? "input" = some (.str "x") ∧
      (Scope.ofBindings inputs).get? "a+b" = none ∧
      ((only v).executeVoice {} "a+b" inputs).1 = ⟨.bool true, []⟩ ∧
      ((only v).executeChain {} "{ a+b }" inputs).1 =
        ⟨.absent, [.unresolved "a", .unresolved "b"]⟩ := by
  have hsteps : Chain.steps "{ a+b }" = ["a+b"] := by decide +kernel
  have halternatives : Chain.alternatives "a+b" = ["a", "b"] := by decide +kernel
  refine ⟨rfl, holdsOnly_only _, rfl, rfl, rfl, ?_⟩
  rw [executeChain, runChain, Library.execute, Library.runChain, hsteps, Library.runSteps,
    Step.resolve, halternatives]
  rfl

end Declaration

end ChainScript
