import ChainScript.Context
import ChainScript.Proofs.Entering
import ChainScript.Proofs.Loading
import Mathlib.Data.List.Chain

/-!
# The cycles that are reported

Each voice that is running was entered from the chain of the one around it, so that chain mentions
it. A voice that would be entered while it is running therefore refers to itself through the voices
that were entered since, and an execution reports no other cycles.
-/

namespace ChainScript

namespace Store

/-- The text of the chain voice with the given name. -/
def chain? (s : Store) (name : String) : Option String :=
  (s.voice? name).bind Voice.chain?

/-- The chain of the one voice mentions the other one, and both are chain voices. -/
def Refers (s : Store) (v w : String) : Prop :=
  (∃ text ∈ s.chain? v, Chain.Mentions text w) ∧ (s.chain? w).isSome = true

/-- The chain voice refers to itself, at once or through other chain voices. -/
def Recurs (s : Store) (v : String) : Prop :=
  Relation.TransGen s.Refers v v

variable {s : Store} {name text : String}

lemma chain?_of_voice? {v : Voice} (hv : s.voice? name = some v) (hbody : v.body = .chain text) :
    s.chain? name = some text := by
  rw [chain?, hv, Option.bind_some, Voice.chain?_eq_some hbody]

/-- A voice that refers to itself is a chain voice. -/
lemma Recurs.isSome (h : s.Recurs name) : (s.chain? name).isSome = true := by
  obtain ⟨_, -, hrefers⟩ := Relation.TransGen.tail'_iff.mp h
  exact hrefers.2

/-- The running voices, innermost first, refer to each other from the outside to the inside. -/
def Nested (s : Store) (running : List String) : Prop :=
  running.IsChain fun inner outer => s.Refers outer inner

/-- The innermost of the running voices refers to all that is called now. -/
lemma Nested.cons {running : List String} (hrunning : s.Nested running)
    (hmentions : ∀ outer ∈ running.head?, ∃ text ∈ s.chain? outer, Chain.Mentions text name)
    (hname : s.chain? name = some text) : s.Nested (name :: running) :=
  List.IsChain.cons hrunning fun outer houter =>
    ⟨hmentions outer houter, by rw [hname, Option.isSome_some]⟩

/-- A voice that is nested in itself refers to itself. -/
lemma Nested.recurs {running : List String} (h : s.Nested (name :: running))
    (hname : name ∈ running) : s.Recurs name := by
  have htrans : (name :: running).IsChain fun inner outer => Relation.TransGen s.Refers outer inner :=
    List.IsChain.imp (fun _ _ h => .single h) h
  have : Trans (fun inner outer => Relation.TransGen s.Refers outer inner)
      (fun inner outer => Relation.TransGen s.Refers outer inner)
      (fun inner outer => Relation.TransGen s.Refers outer inner) :=
    ⟨fun hinner houter => houter.trans hinner⟩
  exact (List.pairwise_cons.mp htrans.pairwise).1 name hname

end Store

/-! ### Executions -/

/-- Each cycle that the trace reports is one of the store. -/
def Trace.Honest (s : Store) (t : Trace) : Prop :=
  ∀ v, .cycle v ∈ Trace.warnings t → s.Recurs v

namespace Trace.Honest

variable {s : Store} {t : Trace}

lemma of_warnings_eq_nil (h : Trace.warnings t = []) : Honest s t := by
  intro v hv
  rw [h] at hv
  cases hv

lemma closed (s : Store) : Trace.Closed (Honest s) where
  nil := of_warnings_eq_nil rfl
  append ht hu v hv := by
    rw [warnings_append] at hv
    exact (List.mem_append.mp hv).elim (ht v) (hu v)

lemma warned {failure : Failure} (h : ∀ v, failure = .cycle v → s.Recurs v) :
    Honest s [.warned failure] := by
  intro v hv
  exact h v (List.mem_singleton.mp hv).symm

end Trace.Honest

namespace Library

variable {lib : Library} {running : List String}

lemma honest_call (s : Store) (name : String) (caller : Scope) (last : Value) :
    Trace.Honest s (lib.call name caller last).2 := by
  rw [call]
  split
  · exact .warned fun _ h => by cases h
  · dsimp only
    split
    · exact .of_warnings_eq_nil rfl
    · exact .warned (s := s) fun _ h => by cases h

/-- A chain reports honestly if the voices that it mentions are entered honestly. -/
lemma honest_runChain {s : Store} {enter : Enter} {chain : String}
    (henter : ∀ name, Chain.Mentions chain name → ∀ caller last,
      Trace.Honest s (enter name caller last).2) (scope : Scope) (seed : Value) :
    Trace.Honest s (lib.runChain enter chain scope seed).trace := by
  refine trace_runSteps (Trace.Honest.closed s) (fun _ _ _ => .of_warnings_eq_nil rfl) ?_ _ _
  intro token htoken name hname scope last
  apply Meaning.trace_run (.of_warnings_eq_nil rfl)
  · intro other parameters text hresolve
    obtain ⟨rfl, -⟩ := Meaning.of_resolve_eq_voice hresolve
    exact henter other ⟨token, htoken, hname⟩ scope last
  · intro other _
    exact honest_call s other scope last
  · intro other _
    exact .warned fun _ h => by cases h

lemma honest_executeVoiceWith {s : Store} {deeper : List String → Enter} {name chain : String}
    (hcycle : name ∈ running → s.Recurs name)
    (hdeeper : name ∉ running → ∀ other, Chain.Mentions chain other → ∀ caller last,
      Trace.Honest s (deeper (name :: running) other caller last).2) (scope : Scope) (seed : Value) :
    Trace.Honest s (lib.executeVoiceWith deeper running name chain scope seed).trace := by
  rw [executeVoiceWith]
  split_ifs with hname
  · refine .warned fun other hother => ?_
    cases hother
    exact hcycle hname
  · have hinner : Trace.Honest s (lib.runChain (deeper (name :: running)) chain scope seed).trace :=
      honest_runChain (hdeeper hname) scope seed
    intro v hv
    refine hinner v ?_
    simpa using hv

/-- Voices are entered honestly from the chain of the innermost running voice, if the running voices
are nested. -/
theorem honest_enter (hrunning : lib.store.Nested running) {name : String}
    (hmentions : ∀ outer ∈ running.head?, ∃ text ∈ lib.store.chain? outer,
      Chain.Mentions text name) (caller : Scope) (last : Value) :
    Trace.Honest lib.store (lib.enter running name caller last).2 := by
  induction running using running_induction lib generalizing name caller last with
  | h running ih =>
    rw [enter_eq_enterWith]
    cases hv : lib.store.voice? name with
    | none =>
      rw [enterWith_of_missing hv]
      exact .warned fun _ h => by cases h
    | some v =>
      cases hbody : v.body with
      | literal value =>
        rw [enterWith_of_literal hv hbody]
        exact .of_warnings_eq_nil rfl
      | chain text =>
        have hchain := Store.chain?_of_voice? hv hbody
        have hnested := hrunning.cons hmentions hchain
        rw [enterWith_of_chain hv hbody]
        refine honest_executeVoiceWith hnested.recurs (fun hname other hother => ?_) _ _
        refine ih name (mem_chainNames hv hbody) hname hnested fun outer houter => ?_
        cases houter
        exact ⟨text, hchain, hother⟩

/-- A chain that no voice has runs honestly when no voice is running. -/
lemma honest_execute (lib : Library) (chain : String) (scope : Scope) (seed : Value) :
    Trace.Honest lib.store (lib.execute [] chain scope seed).trace :=
  honest_runChain (fun _ _ => honest_enter .nil fun _ h => by cases h) scope seed

lemma honest_executeVoice {name text : String} (hchain : lib.store.chain? name = some text)
    (scope : Scope) (seed : Value) :
    Trace.Honest lib.store (lib.executeVoice [] name text scope seed).trace := by
  rw [executeVoice_eq_executeVoiceWith]
  refine honest_executeVoiceWith (fun h => by cases h) (fun _ other hother => ?_) scope seed
  refine honest_enter (.singleton name) fun outer houter => ?_
  cases houter
  exact ⟨text, hchain, hother⟩

end Library

/-! ### Load failures -/

namespace Store

/-- No cycle is among the failures that are kept for the next execution. -/
def NotesNoCycle (s : Store) : Prop :=
  ∀ v, .cycle v ∉ s.warnings

namespace NotesNoCycle

variable {s : Store} {files : FileTree}

lemma warn (hs : s.NotesNoCycle) {failure : Failure} (h : ∀ v, failure ≠ .cycle v) :
    (s.warn failure).NotesNoCycle := by
  intro v hv
  rw [warnings_warn] at hv
  rcases List.mem_append.mp hv with hv | hv
  · exact hs v hv
  · exact h v (List.mem_singleton.mp hv).symm

lemma take (hs : s.NotesNoCycle) (d : Declaration) : (s.take files d).NotesNoCycle := by
  refine take_cases (fun _ => hs) (fun _ => hs) (fun path => ?_) hs (fun _ _ _ _ => hs) d
  exact hs.warn fun v h => by cases h

lemma loadText (hs : s.NotesNoCycle) (base text : String) :
    (s.loadText files base text).NotesNoCycle := by
  obtain ⟨_, _, hloads⟩ := loads_loadFrames files [.ofText base text] s
  exact hloads.keeps (fun _ d hs => hs.take d) hs

lemma load (hs : s.NotesNoCycle) {path : String} {t : Store} (h : s.load files path = .ok t) :
    t.NotesNoCycle := by
  obtain ⟨_, _, hloads⟩ := loads_load h
  exact hloads.keeps (fun _ d hs => hs.take d) hs

/-- The failure to load a file is no cycle. -/
lemma loadDefault (hs : s.NotesNoCycle) (path : String) :
    (Context.loadDefault files s path).NotesNoCycle := by
  rw [Context.loadDefault]
  cases hload : s.load files path with
  | ok t => exact hs.load hload
  | error failure =>
    refine hs.warn fun v hfailure => ?_
    subst hfailure
    rw [Store.load] at hload
    split at hload <;> cases hload

lemma loadRoot (hs : s.NotesNoCycle) (config : Config) :
    (Context.loadRoot config files s).NotesNoCycle := by
  rw [Context.loadRoot]
  split
  · next paths _ =>
    exact List.foldlRecOn paths (Context.loadDefault files) hs fun _ hs path _ =>
      hs.loadDefault path
  · exact hs.warn fun v h => by cases h

end NotesNoCycle

end Store

/-! ### Contexts -/

namespace Context

/-- The context has come about from a configuration by loading, registering and executing. The files
may have changed in between. -/
inductive Built : Context → Prop
  | ofConfig (config : Config) : Built (.ofConfig config)
  | load {c c' : Context} {files : FileTree} {path : String} (hc : Built c)
      (hload : c.load files path = .ok c') : Built c'
  | loadText {c : Context} (files : FileTree) (text : String) (hc : Built c) :
      Built (c.loadText files text)
  | register {c : Context} (name : String) (p : Primitive) (hc : Built c) :
      Built (c.register name p)
  | loadDefaults {c : Context} (files : FileTree) (hc : Built c) : Built (c.loadDefaults files)
  | executeVoice {c : Context} (files : FileTree) (name : String) (inputs : Bindings)
      (hc : Built c) : Built (c.executeVoice files name inputs).2
  | executeChain {c : Context} (files : FileTree) (chain : String) (inputs : Bindings)
      (hc : Built c) : Built (c.executeChain files chain inputs).2

variable {c : Context}

lemma notesNoCycle_loadDefaults (hc : c.store.NotesNoCycle) (files : FileTree) :
    (c.loadDefaults files).store.NotesNoCycle := by
  rw [loadDefaults]
  split
  · exact hc
  · exact hc.loadRoot c.config

lemma Built.notesNoCycle (hc : c.Built) : c.store.NotesNoCycle := by
  induction hc with
  | ofConfig config => exact fun _ h => by cases h
  | load _ hload ih =>
    obtain ⟨store, hstore, rfl⟩ := of_load_eq_ok hload
    exact ih.load hstore
  | loadText files text _ ih => exact ih.loadText _ text
  | register name p _ ih => exact ih
  | loadDefaults files _ ih => exact notesNoCycle_loadDefaults ih files
  | executeVoice files name inputs _ ih => exact fun _ h => by cases h
  | executeChain files chain inputs _ ih => exact fun _ h => by cases h

lemma recurs_of_runVoice {lib : Library} {name v : String} {inputs : Bindings}
    (h : .cycle v ∈ (runVoice lib name inputs).warnings) : lib.store.Recurs v := by
  rw [runVoice] at h
  split at h
  · cases List.mem_singleton.mp h
  · next x hvoice =>
    split at h
    · cases h
    · next text hbody =>
      rw [Store.name_of_voice? hvoice] at h
      exact Library.honest_executeVoice (Store.chain?_of_voice? hvoice hbody) _ _ v h

lemma recurs_of_runChain {lib : Library} {chain v : String} {inputs : Bindings}
    (h : .cycle v ∈ (runChain lib chain inputs).warnings) : lib.store.Recurs v :=
  Library.honest_execute lib chain _ _ v h

/-- If a cycle is reported, by the execution of a voice or of a chain text, then the voice in the
report is a chain voice that refers to itself. So there are no such reports if no voice does, however
often voices are called. -/
theorem reported_cycle_recurs (hc : c.Built) (files : FileTree) (inputs : Bindings) :
    let s := (c.ready files).store
    (∀ name v, .cycle v ∈ (c.executeVoice files name inputs).1.warnings →
        (s.chain? v).isSome = true ∧ s.Recurs v) ∧
      (∀ chain v, .cycle v ∈ (c.executeChain files chain inputs).1.warnings →
        (s.chain? v).isSome = true ∧ s.Recurs v) ∧
      ((∀ v, ¬ s.Recurs v) → ∀ text v,
        .cycle v ∉ (c.executeVoice files text inputs).1.warnings ∧
          .cycle v ∉ (c.executeChain files text inputs).1.warnings) := by
  have hload : ∀ v, .cycle v ∉ c.loadWarnings files := notesNoCycle_loadDefaults hc.notesNoCycle files
  have hvoice : ∀ name v, .cycle v ∈ (c.executeVoice files name inputs).1.warnings →
      (c.ready files).store.Recurs v := by
    intro name v hv
    exact recurs_of_runVoice ((List.mem_append.mp hv).resolve_left (hload v))
  have hchain : ∀ chain v, .cycle v ∈ (c.executeChain files chain inputs).1.warnings →
      (c.ready files).store.Recurs v := by
    intro chain v hv
    exact recurs_of_runChain ((List.mem_append.mp hv).resolve_left (hload v))
  refine ⟨fun name v hv => ?_, fun chain v hv => ?_, fun hnone text v => ⟨?_, ?_⟩⟩
  · exact ⟨(hvoice name v hv).isSome, hvoice name v hv⟩
  · exact ⟨(hchain chain v hv).isSome, hchain chain v hv⟩
  · exact fun hv => hnone v (hvoice text v hv)
  · exact fun hv => hnone v (hchain text v hv)

end Context

namespace Ring

/-- A voice that refers to itself through the next one. -/
def echo : Voice := ⟨"echo", [], .chain "{mild -> far}"⟩

def far : Voice := ⟨"far", [], .chain "{echo + mild}"⟩

/-- A voice that both refer to. -/
def mild : Voice := ⟨"mild", [], .literal (.bool true)⟩

/-- The lines that declare the voices. -/
def text : String :=
  "voice echo / {mild -> far}\nvoice far / {echo + mild}\nvoice mild / true"

/-- A context that has loaded the lines. -/
def context : Context :=
  (Context.ofConfig { lazyLoad := false }).loadText {} text

lemma store_context :
    context.store = ((Store.empty.insertVoice echo).insertVoice far).insertVoice mild := by
  have hlines : Text.lines text.toList = ["voice echo / {mild -> far}".toList,
    "voice far / {echo + mild}".toList, "voice mild / true".toList] := by decide +kernel
  have hecho : Declaration.readLine? "voice echo / {mild -> far}".toList =
    some (.voice echo) := by rfl
  have hfar : Declaration.readLine? "voice far / {echo + mild}".toList =
    some (.voice far) := by rfl
  have hmild : Declaration.readLine? "voice mild / true".toList = some (.voice mild) := by rfl
  rw [context, Context.loadText, Store.loadText, Frame.ofText, hlines]
  simp only [Store.loadFrames, hecho, hfar, hmild]
  rfl

lemma reported : .cycle "far" ∈ (context.executeChain {} "far -> echo" .empty).1.warnings := by
  have hlibrary : (context.ready {}).library {} =
      { store := context.store.clearWarnings, registry := context.registry, files := {} } := rfl
  rw [Context.executeChain, hlibrary, store_context]
  refine List.mem_append_right _ ?_
  -- The depth is bounded by the number of chain voices, so the execution can be evaluated.
  rw [Context.runChain, ← Library.runChain_enterWithin fun _ _ _ _ => (.absent, [])]
  decide +kernel

theorem reported_cycle_recurs_ring :
    context.Built ∧ .cycle "far" ∈ (context.executeChain {} "far -> echo" .empty).1.warnings ∧
      (context.ready {}).store.Recurs "far" :=
  have hbuilt : context.Built := .loadText {} text (.ofConfig _)
  ⟨hbuilt, reported,
    ((Context.reported_cycle_recurs hbuilt {} .empty).2.1 "far -> echo" "far" reported).2⟩

end Ring

end ChainScript
