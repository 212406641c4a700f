import ChainScript.Proofs.Agreement
import ChainScript.Proofs.Bindings
import Mathlib.Logic.Relation

/-!
# The calling convention

Whatever an execution calls, it calls in a step of a chain that it runs: its own chain, or that of a
voice it has entered. A voice finds the last result of its caller under `input` and its parameters,
for as long as it runs. A primitive finds it under `last`, and under those of its aliases that the
caller has not bound. The caller finds its own names as they were.
-/

namespace ChainScript

/-! ### The alternatives that are tried -/

namespace Meaning

/-- The alternatives that are tried: all up to the first one that gives a result which is neither
absent nor empty. -/
def tried (lib : Library) (enter : Enter) (scope : Scope) (last : Value) :
    List Meaning → List Meaning
  | [] => []
  | m :: rest =>
    m :: if (m.attempt lib enter scope last).1.isVacant then tried lib enter scope last rest else []

/-- The meaning is that of a chain voice or a primitive, which has to be called. -/
def IsCall : Meaning → Prop
  | voice .. | primitive _ => True
  | _ => False

variable {lib : Library} {enter : Enter} {scope : Scope} {last : Value}

lemma tried_subset (alternatives : List Meaning) :
    tried lib enter scope last alternatives ⊆ alternatives := by
  induction alternatives with
  | nil => exact List.Subset.refl _
  | cons m rest ih =>
    rw [tried]
    split
    · exact List.cons_subset_cons m ih
    · exact List.cons_subset_cons m (List.nil_subset rest)

/-- What happens in a compound step happens in the alternatives that are tried. -/
lemma trace_route_eq (passed : List Value) (alternatives : List Meaning) :
    (route lib enter scope last passed alternatives).2 =
      (tried lib enter scope last alternatives).flatMap
        fun m => (m.attempt lib enter scope last).2 := by
  induction alternatives generalizing passed with
  | nil => rfl
  | cons m rest ih =>
    rw [route, tried]
    dsimp only
    split
    · rw [List.flatMap_cons, ← ih]
    · rw [List.flatMap_singleton]

/-- Only warnings come from a meaning that is no call. -/
lemma mem_trace_run {m : Meaning} {event : Event}
    (h : event ∈ (m.run lib enter scope last).trace) :
    (∃ failure, event = .warned failure) ∨
      (∃ name parameters text, m = voice name parameters text ∧ event ∈ (enter name scope last).2) ∨
      ∃ name, m = primitive name ∧ event ∈ (lib.call name scope last).2 := by
  cases m with
  | voice name parameters text => exact Or.inr (Or.inl ⟨name, parameters, text, rfl, h⟩)
  | primitive name => exact Or.inr (Or.inr ⟨name, rfl, h⟩)
  | fresh name =>
    rw [run] at h
    split at h
    · exact Or.inl ⟨_, List.mem_singleton.mp h⟩
    · cases h
  | unresolved token => exact Or.inl ⟨_, List.mem_singleton.mp h⟩
  | bound | constant | literal | empty => cases h

lemma mem_trace_attempt {m : Meaning} {event : Event}
    (h : event ∈ (m.attempt lib enter scope last).2) :
    (∃ failure, event = .warned failure) ∨ event ∈ (m.run lib enter scope last).trace := by
  cases m with
  | fresh token | unresolved token => exact Or.inl ⟨_, List.mem_singleton.mp h⟩
  | _ => exact Or.inr h

end Meaning

namespace Step

variable {lib : Library} {enter : Enter} {scope : Scope} {last : Value}

/-- The meanings that are tried in a step. -/
def tried (lib : Library) (enter : Enter) (scope : Scope) (last : Value) : Step → List Meaning
  | single m => [m]
  | compound alternatives => Meaning.tried lib enter scope last alternatives

lemma tried_subset (step : Step) : step.tried lib enter scope last ⊆ step.meanings := by
  cases step with
  | single m => exact List.Subset.refl _
  | compound alternatives => exact Meaning.tried_subset alternatives

/-- What happens in a step is a warning, or part of a call that is tried. -/
lemma mem_trace_run {step : Step} {event : Event}
    (h : event ∈ (step.run lib enter scope last).trace) :
    (∃ failure, event = .warned failure) ∨
      (∃ name parameters text, .voice name parameters text ∈ step.tried lib enter scope last ∧
        event ∈ (enter name scope last).2) ∨
      ∃ name, .primitive name ∈ step.tried lib enter scope last ∧
        event ∈ (lib.call name scope last).2 := by
  have hmeaning : (∃ failure, event = .warned failure) ∨
      ∃ m ∈ step.tried lib enter scope last, event ∈ (m.run lib enter scope last).trace := by
    cases step with
    | single m => exact Or.inr ⟨m, List.mem_singleton_self m, h⟩
    | compound alternatives =>
      have htrace : event ∈ (Meaning.route lib enter scope last [] alternatives).2 := h
      rw [Meaning.trace_route_eq] at htrace
      obtain ⟨m, hm, hevent⟩ := List.mem_flatMap.mp htrace
      exact (Meaning.mem_trace_attempt hevent).imp_right fun hrun => ⟨m, hm, hrun⟩
  rcases hmeaning with hwarned | ⟨m, hm, hevent⟩
  · exact Or.inl hwarned
  · rcases Meaning.mem_trace_run hevent with
      hwarned | ⟨name, parameters, text, rfl, henter⟩ | ⟨name, rfl, hcall⟩
    · exact Or.inl hwarned
    · exact Or.inr (Or.inl ⟨name, parameters, text, hm, henter⟩)
    · exact Or.inr (Or.inr ⟨name, hm, hcall⟩)

/-- A step that calls something leaves the scope as it is. -/
lemma scope_run_of_isCall {step : Step} {m : Meaning}
    (hm : m ∈ step.tried lib enter scope last) (hcall : m.IsCall) :
    (step.run lib enter scope last).scope = scope := by
  rcases scope_run lib enter scope last step with h | ⟨name, rfl, -, -⟩
  · exact h
  · rw [List.mem_singleton.mp hm] at hcall
    cases hcall

end Step

namespace Library

variable {lib : Library} {enter : Enter}

/-- The steps after others are taken from where these have led. -/
lemma runSteps_append (tokens more : List String) (scope : Scope) (last : Value) :
    lib.runSteps enter (tokens ++ more) scope last =
      let r := lib.runSteps enter tokens scope last
      let r' := lib.runSteps enter more r.scope r.value
      { r' with trace := r.trace ++ r'.trace } := by
  induction tokens generalizing scope last with
  | nil => rfl
  | cons token rest ih =>
    rw [List.cons_append, runSteps, ih, runSteps]
    simp

/-- What happens in a run happens in one of its steps. -/
lemma mem_trace_runSteps {tokens : List String} {scope : Scope} {last : Value} {event : Event}
    (h : event ∈ (lib.runSteps enter tokens scope last).trace) :
    ∃ taken token, taken ++ [token] <+: tokens ∧
      let r := lib.runSteps enter taken scope last
      event = .step token r.scope ∨
        event ∈ ((Step.resolve lib r.scope token).run lib enter r.scope r.value).trace := by
  induction tokens generalizing scope last with
  | nil => cases h
  | cons token rest ih =>
    rw [runSteps] at h
    rcases List.mem_append.mp h with hfirst | hrest
    · refine ⟨[], token, List.prefix_append [token] rest, ?_⟩
      exact List.mem_cons.mp hfirst
    · obtain ⟨taken, next, hprefix, hevent⟩ := ih hrest
      exact ⟨token :: taken, next, List.cons_prefix_cons.mpr ⟨rfl, hprefix⟩, hevent⟩

end Library

/-! ### Activations -/

/-- A chain that runs: the voices that are running, the innermost of which may be the one that the
chain belongs to, the text of the chain, its scope at the start, and the result before its first
step. -/
structure Activation where
  running : List String
  chain : String
  scope : Scope
  seed : Value

namespace Activation

variable (lib : Library) (a : Activation) (taken : List String) (token : String)

/-- The execution of the chain. -/
def run : Run :=
  lib.execute a.running a.chain a.scope a.seed

/-- The run of the first steps of the chain. Its value is the result of the latest of them, and the
seed if there is none. -/
def after : Run :=
  lib.runSteps (lib.enter a.running) taken (a.scope.set "last" a.seed) a.seed

/-- The run of the step `token` when it comes after the steps `taken`. -/
def stepRun : Run :=
  let now := a.after lib taken
  (Step.resolve lib now.scope token).run lib (lib.enter a.running) now.scope now.value

/-- The meanings that are tried in this step. -/
def tried : List Meaning :=
  let now := a.after lib taken
  (Step.resolve lib now.scope token).tried lib (lib.enter a.running) now.scope now.value

/-- The activation of a voice that is entered after the steps `taken`. -/
def inner (name : String) (parameters : List String) (text : String) : Activation :=
  let now := a.after lib taken
  { running := name :: a.running
    chain := text
    scope := voiceScope now.scope parameters now.value
    seed := now.value }

/-- The calling convention, for the step `token` that comes after the steps `taken`. -/
structure Convention : Prop where
  /-- The value that the steps after this one see is its result. -/
  result : (a.after lib (taken ++ [token])).value = (a.stepRun lib taken token).value
  /-- As long as a voice runs that has been entered in the step, its parameters and `input` have the
  result that precedes the step. -/
  voices : ∀ name parameters text, .voice name parameters text ∈ a.tried lib taken token →
    ∀ inside, inside <+: Chain.steps text → ∀ key, key = "input" ∨ key ∈ parameters →
      key ≠ "last" → ((a.inner lib taken name parameters text).after lib inside).scope.get? key =
        some (a.after lib taken).value
  /-- A primitive that is called in the step has this result under `last` and under those aliases
  that the chain has not bound, and only these aliases are its own. -/
  primitives : ∀ name, .primitive name ∈ a.tried lib taken token →
    let own := callScope (a.after lib taken).scope (a.after lib taken).value
    own.get? "last" = some (a.after lib taken).value ∧
      (∀ key ∈ ["input", "path", "file", "line"], own.get? key =
        some (((a.after lib taken).scope.get? key).getD (a.after lib taken).value)) ∧
      ∀ key, key ∈ own.ownNames ↔
        key ∈ ["input", "path", "file", "line"] ∧ (a.after lib taken).scope.get? key = none
  /-- After a call all names are as before, until the result of the step is bound to `last`. -/
  caller : ∀ m ∈ a.tried lib taken token, m.IsCall →
    (∀ key, (a.stepRun lib taken token).scope.get? key = (a.after lib taken).scope.get? key) ∧
      ∀ key, key ≠ "last" → (a.after lib (taken ++ [token])).scope.get? key =
        (a.after lib taken).scope.get? key

/-- What can happen in the step `token` that comes after the steps `taken`: it begins; a voice that
is tried is entered, or it is left; a primitive that is tried is called; or there is a warning. -/
inductive Shows : Event → Prop
  | step : Shows (.step token (a.after lib taken).scope)
  | entered {name text : String} {parameters : List String}
      (htried : .voice name parameters text ∈ a.tried lib taken token) (hidle : name ∉ a.running) :
      Shows (.entered name (a.inner lib taken name parameters text).scope)
  | left {name text : String} {parameters : List String}
      (htried : .voice name parameters text ∈ a.tried lib taken token) (hidle : name ∉ a.running) :
      Shows (.left name)
  | called {name : String} (htried : .primitive name ∈ a.tried lib taken token) :
      Shows (.called name (a.after lib taken).scope
        (callScope (a.after lib taken).scope (a.after lib taken).value))
  | warned (failure : Failure) : Shows (.warned failure)

/-- From an activation to those of the voices that are entered in its steps. -/
inductive Calls (lib : Library) (a : Activation) : Activation → Prop
  | voice {taken : List String} {token name text : String} {parameters : List String}
      (hstep : taken ++ [token] <+: Chain.steps a.chain)
      (htried : .voice name parameters text ∈ a.tried lib taken token) (hidle : name ∉ a.running) :
      Calls lib a (a.inner lib taken name parameters text)

/-- In the execution of `top`, at some depth, the activation `a` takes the step `token` after the
steps `taken`. -/
def Takes (lib : Library) (top a : Activation) (taken : List String) (token : String) : Prop :=
  Relation.ReflTransGen (Calls lib) top a ∧ taken ++ [token] <+: Chain.steps a.chain

end Activation

/-! ### Scopes of callers and callees -/

namespace Scope

lemma mem_ownNames_iff {s : Scope} {key : String} :
    key ∈ s.ownNames ↔ (s.own.find? key).isSome = true :=
  Catalogue.contains_iff.symm

/-- The names that are bound because they have no value become names of the scope itself. -/
lemma mem_ownNames_setAllIfUnbound (s : Scope) (names : List String) (value : Value)
    (key : String) : key ∈ (s.setAllIfUnbound names value).ownNames ↔
      key ∈ s.ownNames ∨ key ∈ names ∧ s.get? key = none := by
  induction names generalizing s with
  | nil => simp [setAllIfUnbound]
  | cons name names ih =>
    have hcons : s.setAllIfUnbound (name :: names) value =
      (s.setIfUnbound name value).setAllIfUnbound names value := rfl
    rw [hcons, ih, get?_setIfUnbound, setIfUnbound, contains]
    by_cases hname : name = key
    · subst hname
      cases hget : s.get? name with
      | none => simp [set, mem_ownNames_iff]
      | some bound => simp
    · split
      · simp [Ne.symm hname]
      · simp [set, mem_ownNames_iff, Catalogue.find?_insert, hname, Ne.symm hname]

end Scope

lemma mem_ownNames_callScope (caller : Scope) (last : Value) (key : String) :
    key ∈ (callScope caller last).ownNames ↔ key ∈ aliases ∧ caller.get? key = none := by
  rw [callScope, Scope.mem_ownNames_setAllIfUnbound, Scope.get?_child]
  exact or_iff_right fun h => by cases h

lemma get?_callScope (caller : Scope) (last : Value) (key : String) :
    (callScope caller last).get? key =
      if key ∈ aliases then some ((caller.get? key).getD last) else caller.get? key := by
  rw [callScope, Scope.get?_setAllIfUnbound, Scope.get?_child]

lemma get?_voiceScope (caller : Scope) (parameters : List String) (last : Value) {key : String}
    (h : key = "input" ∨ key ∈ parameters) :
    (voiceScope caller parameters last).get? key = some last := by
  rw [voiceScope, Scope.get?_setAll]
  split_ifs with hparameter
  · rfl
  · rw [h.resolve_right hparameter, Scope.get?_set_self]

namespace Activation

variable (lib : Library) (a : Activation)

/-! ### The convention is kept -/

lemma get?_last_after (taken : List String) :
    (a.after lib taken).scope.get? "last" = some (a.after lib taken).value :=
  Library.get?_last_runSteps lib _ _ (Scope.get?_set_self _ _ _)

lemma after_concat (taken : List String) (token : String) :
    (a.after lib (taken ++ [token])).value = (a.stepRun lib taken token).value ∧
      (a.after lib (taken ++ [token])).scope =
        (a.stepRun lib taken token).scope.set "last" (a.stepRun lib taken token).value := by
  rw [after, Library.runSteps_append]
  exact ⟨rfl, rfl⟩

/-- What a chain finds bound stays bound to the same value, `last` apart, as long as it runs. -/
lemma get?_after_of_scope {taken : List String} (htaken : taken <+: Chain.steps a.chain)
    {key : String} {value : Value} (hkey : key ≠ "last") (h : a.scope.get? key = some value) :
    (a.after lib taken).scope.get? key = some value := by
  have hextends := Library.extends_runSteps lib (lib.enter a.running)
    (fun token htoken => Chain.trimmed_of_mem_steps (htaken.subset htoken))
    (a.scope.set "last" a.seed) a.seed
  refine hextends.kept hkey ?_
  rwa [Scope.get?_set_of_ne _ _ hkey.symm]

theorem convention (taken : List String) (token : String) : a.Convention lib taken token where
  result := (a.after_concat lib taken token).1
  voices name parameters text _ inside hinside key hkey hlast :=
    (a.inner lib taken name parameters text).get?_after_of_scope lib hinside hlast
      (get?_voiceScope _ parameters _ hkey)
  primitives name _ := by
    refine ⟨?_, fun key hkey => ?_, fun key => mem_ownNames_callScope _ _ key⟩
    · rw [get?_callScope, if_neg (by decide)]
      exact a.get?_last_after lib taken
    · rw [get?_callScope]
      exact if_pos hkey
  caller m hm hcall := by
    have hscope : (a.stepRun lib taken token).scope = (a.after lib taken).scope :=
      Step.scope_run_of_isCall hm hcall
    refine ⟨fun key => by rw [hscope], fun key hkey => ?_⟩
    rw [(a.after_concat lib taken token).2, hscope, Scope.get?_set_of_ne _ _ hkey.symm]

/-! ### Every event belongs to a step -/

variable {lib a}

/-- A voice that is tried is a chain voice of the store. -/
lemma voice?_of_mem_tried {taken : List String} {token name text : String}
    {parameters : List String} (h : .voice name parameters text ∈ a.tried lib taken token) :
    ∃ v, lib.store.voice? name = some v ∧ v.body = .chain text ∧ v.parameters = parameters := by
  have hmeaning := Step.tried_subset _ h
  rw [Step.meanings_resolve] at hmeaning
  obtain ⟨alternative, -, hresolve⟩ := List.mem_map.mp hmeaning
  obtain ⟨rfl, -, hv⟩ := Meaning.of_resolve_eq_voice hresolve
  exact hv

/-- What happens when a voice is entered happens to that voice or while its chain runs. -/
lemma mem_trace_enter {running : List String} {name text : String} {v : Voice} {caller : Scope}
    {last : Value} {event : Event} (hv : lib.store.voice? name = some v)
    (hbody : v.body = .chain text) (h : event ∈ (lib.enter running name caller last).2) :
    (∃ failure, event = .warned failure) ∨ name ∉ running ∧
      (event = .entered name (voiceScope caller v.parameters last) ∨ event = .left name ∨
        event ∈ (lib.execute (name :: running) text (voiceScope caller v.parameters last)
          last).trace) := by
  rw [Library.enter_eq_executeVoice hv hbody, Library.executeVoice] at h
  split_ifs at h with hrunning
  · exact Or.inl ⟨_, List.mem_singleton.mp h⟩
  · refine Or.inr ⟨hrunning, ?_⟩
    rcases List.mem_append.mp h with hentered | hleft
    · exact (List.mem_cons.mp hentered).imp_right Or.inr
    · exact Or.inr (Or.inl (List.mem_singleton.mp hleft))

lemma mem_trace_call {name : String} {caller : Scope} {last : Value} {event : Event}
    (h : event ∈ (lib.call name caller last).2) :
    (∃ failure, event = .warned failure) ∨ event = .called name caller (callScope caller last) := by
  cases hp : lib.registry.primitive? name with
  | none =>
    rw [Library.call, hp] at h
    exact Or.inl ⟨_, List.mem_singleton.mp h⟩
  | some p =>
    rw [Library.call_eq hp] at h
    split at h
    · exact Or.inr (List.mem_singleton.mp h)
    · rcases List.mem_cons.mp h with hcalled | hwarned
      · exact Or.inr hcalled
      · exact Or.inl ⟨_, List.mem_singleton.mp hwarned⟩

/-- All that happens in an execution happens in a step of some activation. -/
theorem exists_takes (lib : Library) (top : Activation) {event : Event}
    (h : event ∈ (top.run lib).trace) :
    ∃ a taken token, Takes lib top a taken token ∧ a.Shows lib taken token event := by
  obtain ⟨running, chain, scope, seed⟩ := top
  induction running using Library.running_induction lib generalizing chain scope seed with
  | h running ih =>
    obtain ⟨taken, token, hstep, hevent⟩ := Library.mem_trace_runSteps h
    have htakes : Takes lib ⟨running, chain, scope, seed⟩ ⟨running, chain, scope, seed⟩ taken token :=
      ⟨.refl, hstep⟩
    rcases hevent with rfl | hevent
    · exact ⟨_, taken, token, htakes, .step⟩
    rcases Step.mem_trace_run hevent with
      ⟨failure, rfl⟩ | ⟨name, parameters, text, htried, henter⟩ | ⟨name, htried, hcall⟩
    · exact ⟨_, taken, token, htakes, .warned failure⟩
    · obtain ⟨v, hv, hbody, rfl⟩ := voice?_of_mem_tried (a := ⟨running, chain, scope, seed⟩) htried
      rcases mem_trace_enter hv hbody henter with ⟨failure, rfl⟩ | ⟨hidle, rfl | rfl | hinner⟩
      · exact ⟨_, taken, token, htakes, .warned failure⟩
      · exact ⟨_, taken, token, htakes, .entered htried hidle⟩
      · exact ⟨_, taken, token, htakes, .left htried hidle⟩
      · -- the rest happens in the execution of the voice
        obtain ⟨b, inside, next, ⟨hreaches, hnext⟩, hshows⟩ :=
          ih name (Library.mem_chainNames hv hbody) hidle text _ _ hinner
        exact ⟨b, inside, next, ⟨.head (.voice hstep htried hidle) hreaches, hnext⟩, hshows⟩
    · rcases mem_trace_call hcall with ⟨failure, rfl⟩ | rfl
      · exact ⟨_, taken, token, htakes, .warned failure⟩
      · exact ⟨_, taken, token, htakes, .called htried⟩

/-- The calling convention is kept in every step of every execution, at any depth, and nothing
happens in an execution but in such a step: each voice that is entered, and each primitive that is
called with a scope of its own, is one that the convention speaks of. -/
theorem calling_convention (lib : Library) (top : Activation) :
    (∀ a taken token, Takes lib top a taken token → a.Convention lib taken token) ∧
      ∀ event ∈ (top.run lib).trace, ∃ a taken token, Takes lib top a taken token ∧
        a.Shows lib taken token event :=
  ⟨fun a taken token _ => a.convention lib taken token, fun _ => exists_takes lib top⟩

end Activation

end ChainScript
