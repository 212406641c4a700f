import ChainScript.Proofs.Entering
import Mathlib.Data.List.Perm.Subperm

/-!
# The voices that are running

Executions end, and they treat the voices that are running as a stack: what is entered is left
again, nothing is entered twice, and only chain voices of the store are entered.
-/

namespace ChainScript

namespace Trace

/-- What happens while the given voices are running and leaves them running. The voices that are
entered have one of the names and were not running, and each is left before the one around it. -/
inductive Orderly (names : List String) : List String → Trace → Prop
  | nil (running : List String) : Orderly names running []
  | step {running : List String} {t : Trace} (token : String) (scope : Scope)
      (ht : Orderly names running t) : Orderly names running (.step token scope :: t)
  | called {running : List String} {t : Trace} (primitive : String) (caller own : Scope)
      (ht : Orderly names running t) : Orderly names running (.called primitive caller own :: t)
  | warned {running : List String} {t : Trace} (failure : Failure)
      (ht : Orderly names running t) : Orderly names running (.warned failure :: t)
  | voice {running : List String} {inner t : Trace} {name : String} (scope : Scope)
      (hname : name ∈ names) (hidle : name ∉ running)
      (hinner : Orderly names (name :: running) inner) (ht : Orderly names running t) :
      Orderly names running (.entered name scope :: inner ++ .left name :: t)

/-- At each moment of the trace, if `running` were running before, a voice that is running is
running once only, and it has one of the names or is one of the guests; so there are never more than
there are names and guests without such a name. In the end the same voices are running as
before. -/
structure KeepsStack (names guests running : List String) (t : Trace) : Prop where
  restored : running? running t = some running
  throughout : ∀ before, before <+: t → ∃ stack, running? running before = some stack ∧
    stack.Nodup ∧ stack ⊆ names ++ guests ∧
    stack.length ≤ names.length + (guests.filter (· ∉ names)).length

namespace Orderly

variable {names running : List String} {t u : Trace}

lemma append (ht : Orderly names running t) (hu : Orderly names running u) :
    Orderly names running (t ++ u) := by
  induction ht with
  | nil => exact hu
  | step token scope _ ih => exact .step token scope (ih hu)
  | called primitive caller own _ ih => exact .called primitive caller own (ih hu)
  | warned failure _ ih => exact .warned failure (ih hu)
  | voice scope hname hidle hinner _ _ ih =>
    rw [List.append_assoc]
    exact .voice scope hname hidle hinner (ih hu)

/-- The rest of a trace finds the same voices running as what comes before it. -/
lemma running?_append (ht : Orderly names running t) (u : Trace) :
    running? running (t ++ u) = running? running u := by
  induction ht generalizing u with
  | nil => rfl
  | step _ _ _ ih => exact ih u
  | called _ _ _ _ ih => exact ih u
  | warned _ _ ih => exact ih u
  | @voice running inner t name scope _ _ _ _ ihinner ih =>
    calc running? running (.entered name scope :: inner ++ .left name :: t ++ u)
        = running? (name :: running) (inner ++ .left name :: (t ++ u)) := by simp [running?]
      _ = running? (name :: running) (.left name :: (t ++ u)) := ihinner _
      _ = running? running (t ++ u) := by simp [running?]
      _ = running? running u := ih u

lemma restored (ht : Orderly names running t) : running? running t = some running := by
  have h := ht.running?_append []
  rwa [List.append_nil] at h

lemma mono {names' : List String} (hnames : names ⊆ names') (ht : Orderly names running t) :
    Orderly names' running t := by
  induction ht with
  | nil => exact .nil _
  | step token scope _ ih => exact .step token scope ih
  | called primitive caller own _ ih => exact .called primitive caller own ih
  | warned failure _ ih => exact .warned failure ih
  | voice scope hname hidle _ _ ihinner ih => exact .voice scope (hnames hname) hidle ihinner ih

/-- At each moment the voices that were running are still running, below the voices entered
since. -/
lemma throughout (ht : Orderly names running t) (hrunning : running.Nodup) {before : Trace}
    (hbefore : before <+: t) : ∃ deeper, running? running before = some (deeper ++ running) ∧
      (deeper ++ running).Nodup ∧ deeper ⊆ names := by
  have hnow {running : List String} (h : running.Nodup) : ∃ deeper,
      running? running [] = some (deeper ++ running) ∧ (deeper ++ running).Nodup ∧
        deeper ⊆ names := ⟨[], rfl, h, List.nil_subset _⟩
  induction ht generalizing before with
  | nil =>
    rw [List.prefix_nil.mp hbefore]
    exact hnow hrunning
  | step _ _ _ ih | called _ _ _ _ ih | warned _ _ ih =>
    rcases List.prefix_cons_iff.mp hbefore with rfl | ⟨b, rfl, hb⟩
    · exact hnow hrunning
    · have hrest := ih hrunning hb
      exact hrest
  | @voice running inner t name scope hname hidle hinner _ ihinner ih =>
    rcases List.prefix_cons_iff.mp hbefore with rfl | ⟨b, rfl, hb⟩
    · exact hnow hrunning
    have hnodup : (name :: running).Nodup := List.nodup_cons.mpr ⟨hidle, hrunning⟩
    rcases List.prefix_or_prefix_of_prefix hb (List.prefix_append _ _) with hin | ⟨b, rfl⟩
    · -- The voice is still running, with what is entered inside it above it.
      obtain ⟨deeper, hstack, hdistinct, hdeeper⟩ := ihinner hnodup hin
      refine ⟨deeper ++ [name], ?_, ?_, ?_⟩
      · rw [List.append_assoc]
        exact hstack
      · rwa [List.append_assoc]
      · exact List.append_subset.mpr ⟨hdeeper, List.cons_subset.mpr ⟨hname, List.nil_subset _⟩⟩
    · rw [running?, hinner.running?_append]
      rcases List.prefix_cons_iff.mp ((List.prefix_append_right_inj _).mp hb) with
        rfl | ⟨after, rfl, hafter⟩
      · exact ⟨[name], rfl, hnodup, List.cons_subset.mpr ⟨hname, List.nil_subset _⟩⟩
      · have hrest := ih hrunning hafter
        rwa [running?, if_pos rfl]

/-- An orderly trace keeps the stack, if what is running and what may be entered are names or
guests. -/
theorem keepsStack {all guests : List String} (ht : Orderly all running t)
    (hrunning : running.Nodup) (hall : all ⊆ names ++ guests) (hguests : running ⊆ guests) :
    KeepsStack names guests running t where
  restored := ht.restored
  throughout := by
    intro before hbefore
    obtain ⟨deeper, hstack, hnodup, hdeeper⟩ := ht.throughout hrunning hbefore
    have hsubset : deeper ++ running ⊆ names ++ guests := List.append_subset.mpr
      ⟨fun _ h => hall (hdeeper h), fun _ h => List.mem_append_right _ (hguests h)⟩
    refine ⟨_, hstack, hnodup, hsubset, ?_⟩
    have hfilter : deeper ++ running ⊆ names ++ guests.filter (· ∉ names) := by
      intro name hmem
      rcases List.mem_append.mp (hsubset hmem) with h | h
      · exact List.mem_append_left _ h
      · by_cases hname : name ∈ names
        · exact List.mem_append_left _ hname
        · exact List.mem_append_right _ (List.mem_filter.mpr ⟨h, by simpa using hname⟩)
    calc (deeper ++ running).length
        ≤ (names ++ guests.filter (· ∉ names)).length :=
          (List.subperm_of_subset hnodup hfilter).length_le
      _ = names.length + (guests.filter (· ∉ names)).length := List.length_append

end Orderly

end Trace

/-! ### Executions -/

namespace Library

variable {lib : Library} {running : List String}

lemma orderly_closed (names running : List String) : Trace.Closed (Trace.Orderly names running) :=
  ⟨.nil _, .append⟩

lemma orderly_call (lib : Library) (names running : List String) (name : String) (caller : Scope)
    (last : Value) : Trace.Orderly names running (lib.call name caller last).2 := by
  rw [call]
  split
  · exact .warned _ (.nil _)
  · dsimp only
    split
    · exact .called _ _ _ (.nil _)
    · exact .called _ _ _ (.warned _ (.nil _))

/-- A chain runs orderly if the voices it names are entered orderly. -/
lemma orderly_runChain {enter : Enter} {names : List String}
    (henter : ∀ name caller last, Trace.Orderly names running (enter name caller last).2)
    (chain : String) (scope : Scope) (seed : Value) :
    Trace.Orderly names running (lib.runChain enter chain scope seed).trace := by
  refine trace_runSteps (orderly_closed names running) (fun _ _ _ => .step _ _ (.nil _)) ?_ _ _
  intro token _ name _ scope last
  apply Meaning.trace_run (.nil _)
  · intro name _ _ _
    exact henter name scope last
  · intro name _
    exact orderly_call lib names running name scope last
  · intro token _
    exact .warned _ (.nil _)

/-- Chain voices are entered orderly, whatever they refer to. -/
theorem orderly_enter (running : List String) (name : String) (caller : Scope) (last : Value) :
    Trace.Orderly lib.store.chainNames running (lib.enter running name caller last).2 := by
  induction running using running_induction lib generalizing name caller last with
  | h running ih =>
    rw [enter_eq_enterWith]
    cases hv : lib.store.voice? name with
    | none =>
      rw [enterWith_of_missing hv]
      exact .warned _ (.nil _)
    | some v =>
      cases hbody : v.body with
      | literal value =>
        rw [enterWith_of_literal hv hbody]
        exact .nil _
      | chain text =>
        rw [enterWith_of_chain hv hbody, executeVoiceWith]
        split_ifs with hrunning
        · exact .warned _ (.nil _)
        · have hname := mem_chainNames hv hbody
          exact .voice _ hname hrunning (orderly_runChain (ih name hname hrunning) _ _ _) (.nil _)

lemma orderly_execute (lib : Library) (running : List String) (chain : String) (scope : Scope)
    (seed : Value) :
    Trace.Orderly lib.store.chainNames running (lib.execute running chain scope seed).trace :=
  orderly_runChain (orderly_enter running) chain scope seed

lemma orderly_executeVoice (name chain : String) (scope : Scope) (seed : Value) :
    Trace.Orderly (name :: lib.store.chainNames) running
      (lib.executeVoice running name chain scope seed).trace := by
  rw [executeVoice]
  split_ifs with hrunning
  · exact .warned _ (.nil _)
  · have hinner := orderly_execute lib (name :: running) chain scope seed
    exact .voice scope (List.mem_cons_self ..) hrunning
      (hinner.mono (List.subset_cons_self ..)) (.nil _)

/-- A chain can be run whatever the voices of the store refer to, by itself or under the name of a
voice. It comes back before it is further down than there are idle chain voices, so nothing
`beyond` that has an influence on it, and it keeps the stack of the voices that are running: these
are chain voices of the store, or were running before, or have the name that the chain runs
under. -/
theorem execution_comes_back (lib : Library) {running : List String} (hrunning : running.Nodup)
    (chain : String) (scope : Scope) (seed : Value) :
    ((∀ beyond, lib.runChain (lib.enterWithin beyond (lib.idle running + 1) running) chain scope
          seed = lib.execute running chain scope seed) ∧
        (lib.execute running chain scope seed).trace.KeepsStack lib.store.chainNames running
          running) ∧
      ∀ name, (∀ beyond, lib.executeVoiceWith (lib.enterWithin beyond (lib.idle running + 1))
          running name chain scope seed = lib.executeVoice running name chain scope seed) ∧
        (lib.executeVoice running name chain scope seed).trace.KeepsStack lib.store.chainNames
          (running.insert name) running := by
  refine ⟨⟨fun beyond => runChain_enterWithin beyond chain scope seed, ?_⟩, fun name =>
    ⟨fun beyond => executeVoiceWith_enterWithin beyond name chain scope seed, ?_⟩⟩
  · exact (orderly_execute lib running chain scope seed).keepsStack hrunning
      (List.subset_append_left _ _) (List.Subset.refl _)
  · refine (orderly_executeVoice name chain scope seed).keepsStack hrunning ?_ ?_
    · refine List.cons_subset.mpr ⟨?_, List.subset_append_left _ _⟩
      exact List.mem_append_right _ (List.mem_insert_self)
    · intro other hother
      exact List.mem_insert_of_mem hother

/-- Two voices that refer to each other, and nothing else. -/
def pingPong : Library where
  store := (Store.empty.insertVoice { name := "ping", parameters := [], body := .chain "pong" })
    |>.insertVoice { name := "pong", parameters := ["ball"], body := .chain "ping + pong -> ball" }
  registry := .empty
  files := {}

theorem execution_comes_back_pingPong : ["guest"].Nodup ∧
    pingPong.store.chainNames = ["ping", "pong"] ∧ pingPong.idle ["guest"] = 2 ∧
    (∀ beyond, pingPong.runChain (pingPong.enterWithin beyond 3 ["guest"]) "ping -> pong" .empty
      .absent = pingPong.execute ["guest"] "ping -> pong" .empty .absent) ∧
    (pingPong.executeVoice ["guest"] "pong" "ping" .empty .absent).trace.KeepsStack ["ping", "pong"]
      ["pong", "guest"] ["guest"] := by
  have hnodup : ["guest"].Nodup := by decide
  refine ⟨hnodup, rfl, rfl, ?_, ?_⟩
  · exact (execution_comes_back pingPong hnodup "ping -> pong" .empty .absent).1.1
  · exact ((execution_comes_back pingPong hnodup "ping" .empty .absent).2 "pong").2

end Library

end ChainScript
