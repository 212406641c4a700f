import ChainScript.Proofs.Entering

/-!
# Two executions side by side

Two executions go alike if, step by step, each name that comes up means the same in both and what it
means is done alike. This is said once for two libraries and two scopes with a relation between
them; what it takes is collected in `Simulation`.
-/

namespace ChainScript

/-- The answers have the same result and the same warnings. -/
structure Alike (a b : Value × Trace) : Prop where
  value : a.1 = b.1
  warnings : Trace.warnings a.2 = Trace.warnings b.2

/-- The runs have the same result and the same warnings, and leave related scopes. -/
structure Run.Alike (R : Scope → Scope → Prop) (r r' : Run) : Prop where
  value : r.value = r'.value
  warnings : r.warnings = r'.warnings
  scope : R r.scope r'.scope

/-- What makes executions with two libraries go alike in scopes related by `R`, as long as no names
come up but those that `N` holds for. -/
structure Simulation (lib lib' : Library) (R : Scope → Scope → Prop) (N : String → Prop) :
    Prop where
  get? : ∀ {s t name}, R s t → N name → s.get? name = t.get? name
  set : ∀ {s t}, R s t → ∀ name value, R (s.set name value) (t.set name value)
  child : ∀ {s t}, R s t → R s.child t.child
  voice? : ∀ {s t name}, R s t → N name → s.get? name = none →
    lib.store.voice? name = lib'.store.voice? name
  primitive? : ∀ {s t name}, R s t → N name → s.get? name = none → lib.store.voice? name = none →
    lib.registry.primitive? name = lib'.registry.primitive? name
  call : ∀ {s t name p}, R s t → lib.registry.primitive? name = some p → ∀ last,
    (p.call lib.files (callScope s last)).1 = (p.call lib'.files (callScope t last)).1
  names : ∀ {s t name v text}, R s t → N name → s.get? name = none →
    lib.store.voice? name = some v → v.body = .chain text →
    ∀ other, Chain.Mentions text other → N other

lemma Registry.contains_eq_isSome (r : Registry) (name : String) :
    r.contains name = (r.primitive? name).isSome := by
  rw [primitive?, Option.isSome_map, Catalogue.contains]

lemma Scope.rel_setAll {R : Scope → Scope → Prop}
    (hset : ∀ {s t}, R s t → ∀ name value, R (s.set name value) (t.set name value))
    {s t : Scope} (hR : R s t) (names : List String) (value : Value) :
    R (s.setAll names value) (t.setAll names value) := by
  induction names generalizing s t with
  | nil => exact hR
  | cons name names ih => exact ih (hset hR name value)

namespace Alike

lemma refl (a : Value × Trace) : Alike a a := ⟨rfl, rfl⟩

lemma step {a b : Value × Trace} (h : Alike a b) {R : Scope → Scope → Prop} {s t : Scope}
    (hR : R s t) : Run.Alike R { value := a.1, scope := s, trace := a.2 }
      { value := b.1, scope := t, trace := b.2 } := ⟨h.value, h.warnings, hR⟩

end Alike

namespace Simulation

variable {lib lib' : Library} {R : Scope → Scope → Prop} {N : String → Prop}
  (sim : Simulation lib lib' R N) {s t : Scope} {name : String}

include sim

/-- A name means the same on both sides. -/
lemma resolve_eq (hR : R s t) (hN : N name) :
    Meaning.resolve lib s name = Meaning.resolve lib' t name := by
  have hget := sim.get? hR hN
  rcases Meaning.resolve_cases lib s name with
    ⟨_, hbound, hr⟩ | ⟨hnone, ⟨v, hv, hr⟩ | ⟨hv, ⟨hp, hr⟩ | ⟨hp, hr⟩⟩⟩ <;> rw [hr]
  · rw [Meaning.resolve_of_get? (hget.symm.trans hbound)]
  · rw [sim.voice? hR hN hnone] at hv
    rw [Meaning.resolve_of_voice? (hget.symm.trans hnone) hv]
  all_goals
    rw [Registry.contains_eq_isSome, sim.primitive? hR hN hnone hv,
      ← Registry.contains_eq_isSome] at hp
    rw [sim.voice? hR hN hnone] at hv
  · rw [Meaning.resolve_of_primitive (hget.symm.trans hnone) hv hp]
  · rw [Meaning.resolve_of_unknown (hget.symm.trans hnone) hv hp]

lemma call_alike (hR : R s t) (hN : N name) (hnone : s.get? name = none)
    (hv : lib.store.voice? name = none) (last : Value) :
    Alike (lib.call name s last) (lib'.call name t last) := by
  have hprimitive := sim.primitive? hR hN hnone hv
  rw [Library.call, Library.call, ← hprimitive]
  cases hp : lib.registry.primitive? name with
  | none => exact .refl _
  | some p =>
    dsimp only
    rw [sim.call hR hp last]
    cases (p.call lib'.files (callScope t last)).1.result with
    | ok value => exact ⟨rfl, rfl⟩
    | error reason => exact ⟨rfl, rfl⟩

/-! ### Runs -/

section

variable {enter enter' : Enter}
  (henter : ∀ {s t name}, R s t → N name → s.get? name = none → ∀ last,
    Alike (enter name s last) (enter' name t last))

include henter

lemma run_alike (hR : R s t) (hN : N name) (last : Value) :
    Run.Alike R ((Meaning.resolve lib s name).run lib enter s last)
      ((Meaning.resolve lib s name).run lib' enter' t last) := by
  cases hm : Meaning.resolve lib s name with
  | voice other parameters text =>
    obtain ⟨rfl, hnone, -⟩ := Meaning.of_resolve_eq_voice hm
    exact (henter hR hN hnone last).step hR
  | primitive other =>
    obtain ⟨rfl, hnone, hv, -⟩ := Meaning.of_resolve_eq_primitive hm
    exact (sim.call_alike hR hN hnone hv last).step hR
  | fresh other =>
    rw [Meaning.run, Meaning.run]
    split
    · exact ⟨rfl, rfl, hR⟩
    · exact ⟨rfl, rfl, sim.set hR other last⟩
  | bound | constant | literal | unresolved | empty => exact ⟨rfl, rfl, hR⟩

lemma attempt_alike (hR : R s t) (hN : N name) (last : Value) :
    Alike ((Meaning.resolve lib s name).attempt lib enter s last)
      ((Meaning.resolve lib s name).attempt lib' enter' t last) := by
  have hrun := sim.run_alike henter hR hN last
  cases hm : Meaning.resolve lib s name with
  | fresh | unresolved => exact .refl _
  | _ =>
    rw [hm] at hrun
    exact ⟨hrun.value, hrun.warnings⟩

lemma route_alike (hR : R s t) (last : Value) {names : List String} (hN : ∀ name ∈ names, N name)
    (passed : List Value) :
    Alike (Meaning.route lib enter s last passed (names.map (Meaning.resolve lib s)))
      (Meaning.route lib' enter' t last passed (names.map (Meaning.resolve lib s))) := by
  induction names generalizing passed with
  | nil => exact .refl _
  | cons name names ih =>
    have hfirst := sim.attempt_alike henter hR (hN name (List.mem_cons_self ..)) last
    have hrest := fun passed => ih (fun n hn => hN n (List.mem_cons_of_mem _ hn)) passed
    rw [List.map_cons, Meaning.route, Meaning.route]
    dsimp only
    rw [← hfirst.value]
    split
    · refine ⟨(hrest _).value, ?_⟩
      rw [Trace.warnings_append, Trace.warnings_append, hfirst.warnings, (hrest _).warnings]
    · exact ⟨rfl, hfirst.warnings⟩

/-- A step goes alike if its alternatives may come up. -/
lemma step_alike (hR : R s t) (last : Value) {token : String}
    (hN : ∀ name ∈ Chain.alternatives token, N name) :
    Run.Alike R ((Step.resolve lib s token).run lib enter s last)
      ((Step.resolve lib' t token).run lib' enter' t last) := by
  have hmap : (Chain.alternatives token).map (Meaning.resolve lib s) =
      (Chain.alternatives token).map (Meaning.resolve lib' t) :=
    List.map_congr_left fun name hname => sim.resolve_eq hR (hN name hname)
  rw [Step.resolve, Step.resolve]
  split_ifs with hlength
  · rw [← hmap]
    exact (sim.route_alike henter hR last hN []).step hR
  · have htrimmed : N (Text.trimmed token) := by
      refine hN _ ?_
      rw [Chain.alternatives_eq_singleton (Nat.le_of_not_lt hlength)]
      exact List.mem_singleton_self _
    rw [← sim.resolve_eq hR htrimmed]
    exact sim.run_alike henter hR htrimmed last

/-- Steps go alike one after the other. -/
theorem runSteps_alike {tokens : List String}
    (hN : ∀ token ∈ tokens, ∀ name ∈ Chain.alternatives token, N name) (hR : R s t)
    (last : Value) :
    Run.Alike R (lib.runSteps enter tokens s last) (lib'.runSteps enter' tokens t last) := by
  induction tokens generalizing s t last with
  | nil => exact ⟨rfl, rfl, hR⟩
  | cons token rest ih =>
    have hstep := sim.step_alike henter hR last (hN token (List.mem_cons_self ..))
    have hset := sim.set hstep.scope "last"
      ((Step.resolve lib s token).run lib enter s last).value
    have hrest := ih (fun t ht => hN t (List.mem_cons_of_mem _ ht)) hset
      ((Step.resolve lib s token).run lib enter s last).value
    rw [Library.runSteps, Library.runSteps, ← hstep.value]
    refine ⟨hrest.value, ?_, hrest.scope⟩
    have hwarnings := hstep.warnings
    have hmore := hrest.warnings
    simp only [Run.warnings, Trace.warnings_step, Trace.warnings_append, List.cons_append] at *
    rw [hwarnings, hmore]

theorem runChain_alike {chain : String} (hN : ∀ name, Chain.Mentions chain name → N name)
    {seed : Value} (hR : R (s.set "last" seed) (t.set "last" seed)) :
    Run.Alike R (lib.runChain enter chain s seed) (lib'.runChain enter' chain t seed) :=
  sim.runSteps_alike henter (fun token htoken name hname => hN name ⟨token, htoken, hname⟩) hR seed

end

/-! ### Executions -/

lemma voiceScope_rel (hR : R s t) (parameters : List String) (last : Value) :
    R (voiceScope s parameters last) (voiceScope t parameters last) :=
  Scope.rel_setAll sim.set (sim.set (sim.child hR) "input" last) parameters last

lemma executeVoiceWith_alike {deeper deeper' : List String → Enter} {running running' : List String}
    (henter : name ∉ running → ∀ {s t other}, R s t → N other → s.get? other = none → ∀ last,
      Alike (deeper (name :: running) other s last) (deeper' (name :: running') other t last))
    (hrunning : name ∈ running ↔ name ∈ running') {chain : String}
    (hN : ∀ other, Chain.Mentions chain other → N other) {seed : Value}
    (hR : R (s.set "last" seed) (t.set "last" seed)) :
    Alike ((lib.executeVoiceWith deeper running name chain s seed).value,
        (lib.executeVoiceWith deeper running name chain s seed).trace)
      ((lib'.executeVoiceWith deeper' running' name chain t seed).value,
        (lib'.executeVoiceWith deeper' running' name chain t seed).trace) := by
  rw [Library.executeVoiceWith, Library.executeVoiceWith]
  by_cases hname : name ∈ running
  · rw [if_pos hname, if_pos (hrunning.mp hname)]
    exact .refl _
  · rw [if_neg hname, if_neg (mt hrunning.mpr hname)]
    have hrun := sim.runChain_alike (henter hname) hN hR
    refine ⟨hrun.value, ?_⟩
    have hwarnings := hrun.warnings
    simp only [Run.warnings, Trace.warnings_entered, Trace.warnings_append,
      List.cons_append] at hwarnings ⊢
    rw [hwarnings]

/-- Voices are entered alike if the names that may come up are running on both sides or on
neither. -/
theorem enter_alike {running running' : List String}
    (hrunning : ∀ name, N name → (name ∈ running ↔ name ∈ running')) (hR : R s t) (hN : N name)
    (hnone : s.get? name = none) (last : Value) :
    Alike (lib.enter running name s last) (lib'.enter running' name t last) := by
  induction running using Library.running_induction lib
    generalizing running' s t name last with
  | h running ih =>
    have hvoice := sim.voice? hR hN hnone
    rw [Library.enter_eq_enterWith, Library.enter_eq_enterWith]
    cases hv : lib.store.voice? name with
    | none =>
      rw [Library.enterWith_of_missing hv, Library.enterWith_of_missing (hvoice.symm.trans hv)]
      exact .refl _
    | some v =>
      cases hbody : v.body with
      | literal value =>
        rw [Library.enterWith_of_literal hv hbody,
          Library.enterWith_of_literal (hvoice.symm.trans hv) hbody]
        exact .refl _
      | chain text =>
        rw [Library.enterWith_of_chain hv hbody,
          Library.enterWith_of_chain (hvoice.symm.trans hv) hbody]
        have hscope := sim.set (sim.voiceScope_rel hR v.parameters last) "last" last
        refine sim.executeVoiceWith_alike ?_ (hrunning name hN) (sim.names hR hN hnone hv hbody)
          hscope
        intro hname s t other hR hN hnone last
        refine ih name (Library.mem_chainNames hv hbody) hname ?_ hR hN hnone last
        intro other hother
        rw [List.mem_cons, List.mem_cons, hrunning other hother]

/-- A chain executes alike if all names that it mentions may come up. -/
theorem execute_alike {running running' : List String}
    (hrunning : ∀ name, N name → (name ∈ running ↔ name ∈ running')) {chain : String}
    (hN : ∀ other, Chain.Mentions chain other → N other) {seed : Value}
    (hR : R (s.set "last" seed) (t.set "last" seed)) :
    Run.Alike R (lib.execute running chain s seed) (lib'.execute running' chain t seed) :=
  sim.runChain_alike (fun hR hN hnone last => sim.enter_alike hrunning hR hN hnone last) hN hR

theorem executeVoice_alike {running running' : List String}
    (hrunning : ∀ name, N name → (name ∈ running ↔ name ∈ running')) (hname : N name)
    {chain : String} (hN : ∀ other, Chain.Mentions chain other → N other) {seed : Value}
    (hR : R (s.set "last" seed) (t.set "last" seed)) :
    Alike ((lib.executeVoice running name chain s seed).value,
        (lib.executeVoice running name chain s seed).trace)
      ((lib'.executeVoice running' name chain t seed).value,
        (lib'.executeVoice running' name chain t seed).trace) := by
  refine sim.executeVoiceWith_alike ?_ (hrunning name hname) hN hR
  intro _ s t other hR hN hnone last
  refine sim.enter_alike ?_ hR hN hnone last
  intro other hother
  rw [List.mem_cons, List.mem_cons, hrunning other hother]

end Simulation

end ChainScript
