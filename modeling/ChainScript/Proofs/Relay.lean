import ChainScript.Context
import ChainScript.Proofs.Agreement

/-!
# Calling a voice through another one

A voice whose chain is only the name of another voice stands for that other voice: it makes no
difference which of the two is executed. The called voice runs in a scope inside the scope of the
caller and with one more voice running, but it can see neither.
-/

namespace ChainScript

/-! ### A voice as the only step -/

namespace Library

variable {lib : Library} {name : String} {v : Voice} {s : Scope}

/-- A step that is the name of a voice enters that voice. -/
lemma runSteps_voice (halternatives : Chain.alternatives name = [name])
    (hv : lib.store.voice? name = some v) (hnone : s.get? name = none) (running : List String)
    (last : Value) :
    Alike ((lib.runSteps (lib.enter running) [name] s last).value,
        (lib.runSteps (lib.enter running) [name] s last).trace)
      (lib.enter running name s last) := by
  have hresolve : Step.resolve lib s name = .single (Meaning.ofVoice v) := by
    rw [Step.resolve_of_alternatives lib s halternatives, Meaning.resolve_of_voice? hnone hv]
  have hname : v.name = name := Store.name_of_voice? hv
  simp only [runSteps, hresolve, Step.run]
  rcases Meaning.ofVoice_cases v with ⟨text, hbody, hof⟩ | ⟨value, hbody, hof⟩
  · rw [hof, Meaning.run, hname]
    refine ⟨rfl, ?_⟩
    simp
  · rw [hof, Meaning.run, enter_eq_enterWith, enterWith_of_literal hv hbody]
    exact ⟨rfl, rfl⟩

/-- A voice whose chain has the name of another voice as its only step enters that voice. -/
lemma executeVoice_of_step {running : List String} {caller text : String}
    (hcaller : caller ∉ running) (hsteps : Chain.steps text = [name])
    (halternatives : Chain.alternatives name = [name]) (hv : lib.store.voice? name = some v)
    {seed : Value} (hnone : (s.set "last" seed).get? name = none) :
    let r := lib.executeVoice running caller text s seed
    Alike (r.value, r.trace)
      (lib.enter (caller :: running) name (s.set "last" seed) seed) := by
  have halike := runSteps_voice halternatives hv hnone (caller :: running) seed
  rw [executeVoice, if_neg hcaller, execute, runChain, hsteps]
  exact ⟨halike.value, by simpa using halike.warnings⟩

end Library

/-! ### Executing and calling -/

namespace Context

variable {lib : Library} {v : Voice} {inputs : Bindings} {seed : Value}

lemma runVoice_of_literal {value : Value} (hv : lib.store.voice? v.name = some v)
    (hbody : v.body = .literal value) :
    runVoice lib v.name inputs = { value, warnings := [] } := by
  simp [runVoice, hv, hbody]

lemma runVoice_of_chain {text : String} (hv : lib.store.voice? v.name = some v)
    (hbody : v.body = .chain text)
    (hinput : (Scope.ofBindings inputs).get? "input" = some seed) :
    let r := lib.executeVoice [] v.name text
      ((Scope.ofBindings inputs).setAllIfUnbound v.parameters seed) seed
    runVoice lib v.name inputs = { value := r.value, warnings := r.warnings } := by
  simp [runVoice, hv, hbody, Scope.value, hinput]

/-- The scope of a voice that is called with the value of `input` reads like the one in which it is
executed, once both have bound `last`. -/
lemma agree_voiceScope {parameters : List String}
    (hinput : (Scope.ofBindings inputs).get? "input" = some seed)
    (hparameters : ∀ p ∈ parameters, ∀ value, (Scope.ofBindings inputs).get? p = some value →
      value = seed) :
    Scope.Agree
      ((voiceScope ((Scope.ofBindings inputs).set "last" seed) parameters seed).set "last" seed)
      (((Scope.ofBindings inputs).setAllIfUnbound parameters seed).set "last" seed) := by
  intro name
  rw [Scope.get?_set, Scope.get?_set]
  split_ifs with hlast
  · rfl
  rw [voiceScope, Scope.get?_setAll, Scope.get?_setAllIfUnbound]
  split_ifs with hparameter
  · cases hget : (Scope.ofBindings inputs).get? name with
    | none => rfl
    | some value => rw [hparameters name hparameter value hget, Option.getD_some]
  · rw [Scope.get?_set, Scope.get?_child, Scope.get?_set_of_ne _ _ hlast]
    split_ifs with hname
    · rw [← hname, hinput]
    · rfl

/-- Calling a voice with the value of `input` gives what executing it gives, if none of the voices
that are running is mentioned in the store. -/
theorem enter_alike_runVoice (lib : Library) (running : List String)
    (hprimitives : lib.registry.Extensional)
    (hrunning : ∀ name ∈ running, ¬ lib.store.Mentions name) (hname : v.name ∉ running)
    (hv : lib.store.voice? v.name = some v)
    (hinput : (Scope.ofBindings inputs).get? "input" = some seed)
    (hparameters : ∀ p ∈ v.parameters, ∀ value, (Scope.ofBindings inputs).get? p = some value →
      value = seed) :
    let answer := lib.enter running v.name ((Scope.ofBindings inputs).set "last" seed) seed
    runVoice lib v.name inputs = { value := answer.1, warnings := Trace.warnings answer.2 } := by
  cases hbody : v.body with
  | literal value =>
    rw [runVoice_of_literal hv hbody, Library.enter_eq_enterWith,
      Library.enterWith_of_literal hv hbody]
    rfl
  | chain text =>
    -- The names that may come up are those that are not running at the call.
    have hN : ∀ name, lib.store.Mentions name → name ∉ running :=
      fun name hmentions hmem => hrunning name hmem hmentions
    have hagree : ∀ name, name ∉ running → (name ∈ running ↔ name ∈ []) :=
      fun name h => iff_of_false h List.not_mem_nil
    have halike := (Simulation.ofAgree hprimitives hN).executeVoice_alike hagree hname
      (fun other hother => hN other (Store.mentions_of_voice? hv hbody hother))
      (agree_voiceScope hinput hparameters)
    rw [runVoice_of_chain hv hbody hinput, Library.enter_eq_executeVoice hv hbody]
    exact congrArg₂ Execution.mk halike.value.symm halike.warnings.symm

end Context

/-! ### Relays -/

/-- In the store `outer` only passes on to `inner`: it has no parameters, and the name of `inner` is
the only step of its chain and the only alternative of that step. No chain of the store mentions
`outer`. -/
structure Store.Relays (s : Store) (outer inner : Voice) : Prop where
  outer_stored : s.voice? outer.name = some outer
  inner_stored : s.voice? inner.name = some inner
  parameters : outer.parameters = []
  body : outer.body = .chain (Text.braced inner.name)
  steps : Chain.steps (Text.braced inner.name) = [inner.name]
  alternatives : Chain.alternatives inner.name = [inner.name]
  unmentioned : ¬ s.Mentions outer.name

namespace Store.Relays

variable {s : Store} {outer inner : Voice}

lemma mentions_inner (h : s.Relays outer inner) : s.Mentions inner.name := by
  refine Store.mentions_of_voice? h.outer_stored h.body ⟨inner.name, ?_, ?_⟩
  · rw [h.steps]
    exact List.mem_singleton_self _
  · rw [h.alternatives]
    exact List.mem_singleton_self _

lemma ne (h : s.Relays outer inner) : inner.name ≠ outer.name :=
  fun hname => h.unmentioned (hname ▸ h.mentions_inner)

end Store.Relays

namespace Context

variable {inputs : Bindings} {seed : Value} {outer inner : Voice}

/-- Executing a relay enters the voice behind it. -/
lemma runVoice_relay {lib : Library} (hrelays : lib.store.Relays outer inner)
    (hlast : inner.name ≠ "last")
    (hinput : (Scope.ofBindings inputs).get? "input" = some seed)
    (hunbound : (Scope.ofBindings inputs).get? inner.name = none) :
    let answer := lib.enter [outer.name] inner.name ((Scope.ofBindings inputs).set "last" seed) seed
    runVoice lib outer.name inputs = { value := answer.1, warnings := Trace.warnings answer.2 } := by
  have hnone : ((Scope.ofBindings inputs).set "last" seed).get? inner.name = none := by
    rw [Scope.get?_set_of_ne _ _ hlast.symm, hunbound]
  have houter : outer.name ∉ [] := List.not_mem_nil
  have halike := Library.executeVoice_of_step houter hrelays.steps hrelays.alternatives
    hrelays.inner_stored hnone
  have hscope : (Scope.ofBindings inputs).setAllIfUnbound outer.parameters seed =
      Scope.ofBindings inputs := by
    rw [hrelays.parameters]
    rfl
  rw [runVoice_of_chain hrelays.outer_stored hrelays.body hinput, hscope]
  exact congrArg₂ Execution.mk halike.value halike.warnings

/-- It makes no difference whether a voice is executed or a voice that relays to it. The primitives
have to be extensional, and the inputs may bind neither the name of the voice nor its parameters to
anything else than the value of `input`, which a call binds them to anyway. -/
theorem executeVoice_relay (c : Context) (files : FileTree)
    (hrelays : (c.ready files).store.Relays outer inner)
    (hprimitives : c.registry.Extensional) (hlast : inner.name ≠ "last")
    (hinput : (Scope.ofBindings inputs).get? "input" = some seed)
    (hunbound : (Scope.ofBindings inputs).get? inner.name = none)
    (hparameters : ∀ p ∈ inner.parameters, ∀ value,
      (Scope.ofBindings inputs).get? p = some value → value = seed) :
    c.executeVoice files outer.name inputs = c.executeVoice files inner.name inputs := by
  have hregistry : ((c.ready files).library files).registry.Extensional := by
    rw [library, ready, loadDefaults]
    split_ifs
    · exact hprimitives
    · exact hprimitives
  have hdirect := enter_alike_runVoice ((c.ready files).library files) [outer.name] hregistry ?_ ?_
    hrelays.inner_stored hinput hparameters
  · rw [executeVoice, executeVoice, runVoice_relay hrelays hlast hinput hunbound, hdirect]
  · intro name hname
    rw [List.mem_singleton.mp hname]
    exact hrelays.unmentioned
  · rw [List.mem_singleton]
    exact hrelays.ne

end Context

namespace Echo

/-- A voice that calls itself. -/
def shout : Voice := ⟨"shout", ["text"], .chain "text -> upper -> loud -> shout + far + loud"⟩

/-- A voice that calls the other one. -/
def relay : Voice := ⟨"relay", [], .chain "{shout}"⟩

/-- A context with both voices and the built-in primitives. -/
def context : Context :=
  { Context.ofConfig { lazyLoad := false } with
    store := (Store.empty.insertVoice shout).insertVoice relay }

/-- Inputs that bind the parameter too. -/
def inputs : Bindings := .ofList Prod.fst [("input", .str "hey"), ("text", .str "hey")]

lemma relays : (context.ready {}).store.Relays relay shout where
  outer_stored := rfl
  inner_stored := rfl
  parameters := rfl
  body := rfl
  steps := by decide +kernel
  alternatives := by decide +kernel
  unmentioned := by decide +kernel

theorem executeVoice_relay_echo :
    (context.ready {}).store.Relays relay shout ∧ context.registry.Extensional ∧
      context.executeVoice {} "relay" inputs = context.executeVoice {} "shout" inputs := by
  have hprimitives : context.registry.Extensional := Builtin.extensional_registry _ _
  have hparameters : ∀ p ∈ shout.parameters, ∀ value,
      (Scope.ofBindings inputs).get? p = some value → value = .str "hey" := by
    intro p hp value hvalue
    rw [List.mem_singleton.mp hp] at hvalue
    exact (Option.some.inj hvalue).symm
  refine ⟨relays, hprimitives, ?_⟩
  exact Context.executeVoice_relay context {} relays hprimitives (by decide) rfl rfl hparameters

end Echo

end ChainScript
