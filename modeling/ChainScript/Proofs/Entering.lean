import ChainScript.Proofs.Steps

/-!
# Entering voices

Entering a voice, taken apart from the recursion: the voices in the chain of the voice are entered
in some way `deeper`. `Library.enter` is the way that has itself for `deeper`, and as each voice
leaves one voice fewer to enter, it comes back after as many voices inside each other as are idle.
-/

namespace ChainScript

namespace Library

/-- Runs a chain text under the name of a voice, where voices are entered by `deeper`. -/
def executeVoiceWith (lib : Library) (deeper : List String → Enter) (running : List String)
    (name chain : String) (scope : Scope) (seed : Value) : Run :=
  if name ∈ running then { value := .absent, scope, trace := [.warned (.cycle name)] }
  else
    let r := lib.runChain (deeper (name :: running)) chain scope seed
    { r with trace := .entered name scope :: r.trace ++ [.left name] }

/-- Enters a voice, where the voices inside it are entered by `deeper`. -/
def enterWith (lib : Library) (deeper : List String → Enter) (running : List String) : Enter :=
  fun name caller last =>
    match lib.store.voice? name with
    | none => (.absent, [.warned (.missing name)])
    | some v =>
      match v.body with
      | .literal value => (value, [])
      | .chain text =>
        let r := lib.executeVoiceWith deeper running name text
          (voiceScope caller v.parameters last) last
        (r.value, r.trace)

/-- Enters a voice with at most `depth` voices inside each other. Only for those further down it
matters what `beyond` does. -/
def enterWithin (lib : Library) (beyond : List String → Enter) : Nat → List String → Enter
  | 0 => beyond
  | depth + 1 => lib.enterWith (lib.enterWithin beyond depth)

variable {lib : Library} {running : List String}

/-- For a property of what is running: it may be assumed of what is running inside a voice that can
still be entered. -/
@[elab_as_elim]
theorem running_induction (lib : Library) {P : List String → Prop} (running : List String)
    (h : ∀ running, (∀ name ∈ lib.store.chainNames, name ∉ running → P (name :: running)) →
      P running) : P running := by
  induction hn : lib.idle running using Nat.strong_induction_on generalizing running with
  | h n ih =>
    subst hn
    exact h running fun name hvoice hidle => ih _ (idle_cons_lt hvoice hidle) _ rfl

lemma idle_cons_le (name : String) : lib.idle (name :: running) ≤ lib.idle running := by
  apply List.countP_mono_left
  intro other _ h
  simp only [List.mem_cons, not_or, decide_eq_true_eq] at h ⊢
  exact h.2

lemma mem_chainNames {name text : String} {v : Voice} (hv : lib.store.voice? name = some v)
    (hbody : v.body = .chain text) : name ∈ lib.store.chainNames :=
  Store.mem_chainNames_of_voice? hv (Voice.chain?_eq_some hbody)

/-! ### Unfolding -/

lemma executeVoice_eq_executeVoiceWith (lib : Library) :
    lib.executeVoice = lib.executeVoiceWith lib.enter := rfl

lemma enterWith_of_missing {deeper : List String → Enter} {name : String} {caller : Scope}
    {last : Value} (hv : lib.store.voice? name = none) :
    lib.enterWith deeper running name caller last = (.absent, [.warned (.missing name)]) := by
  simp [enterWith, hv]

lemma enterWith_of_literal {deeper : List String → Enter} {name : String} {caller : Scope}
    {last value : Value} {v : Voice} (hv : lib.store.voice? name = some v)
    (hbody : v.body = .literal value) :
    lib.enterWith deeper running name caller last = (value, []) := by
  simp [enterWith, hv, hbody]

lemma enterWith_of_chain {deeper : List String → Enter} {name text : String} {caller : Scope}
    {last : Value} {v : Voice} (hv : lib.store.voice? name = some v)
    (hbody : v.body = .chain text) :
    lib.enterWith deeper running name caller last =
      ((lib.executeVoiceWith deeper running name text
          (voiceScope caller v.parameters last) last).value,
        (lib.executeVoiceWith deeper running name text
          (voiceScope caller v.parameters last) last).trace) := by
  simp [enterWith, hv, hbody]

/-- Entering is the way to enter voices that uses itself for the voices inside. -/
theorem enter_eq_enterWith (lib : Library) (running : List String) :
    lib.enter running = lib.enterWith lib.enter running := by
  funext name caller last
  cases hv : lib.store.voice? name with
  | none =>
    rw [enterWith_of_missing hv, enter]
    split
    · rfl
    · next hsome => rw [hv] at hsome; cases hsome
  | some v =>
    cases hbody : v.body with
    | literal value =>
      rw [enterWith_of_literal hv hbody, enter]
      split
      · next hnone => rw [hv] at hnone; cases hnone
      · next w hsome =>
        rw [hv] at hsome
        cases hsome
        split
        · next hliteral => rw [hbody] at hliteral; cases hliteral; rfl
        · next hchain => rw [hbody] at hchain; cases hchain
    | chain text =>
      rw [enterWith_of_chain hv hbody, enter_eq_executeVoice hv hbody]
      rfl

/-! ### Depth -/

/-- What is done inside matters only for chain voices that are not running. -/
lemma enterWith_congr {deeper deeper' : List String → Enter}
    (h : ∀ name ∈ lib.store.chainNames, name ∉ running →
      deeper (name :: running) = deeper' (name :: running)) :
    lib.enterWith deeper running = lib.enterWith deeper' running := by
  funext name caller last
  cases hv : lib.store.voice? name with
  | none => rw [enterWith_of_missing hv, enterWith_of_missing hv]
  | some v =>
    cases hbody : v.body with
    | literal value => rw [enterWith_of_literal hv hbody, enterWith_of_literal hv hbody]
    | chain text =>
      rw [enterWith_of_chain hv hbody, enterWith_of_chain hv hbody]
      by_cases hrunning : name ∈ running
      · simp only [executeVoiceWith, hrunning, if_true]
      · rw [executeVoiceWith, executeVoiceWith, h name (mem_chainNames hv hbody) hrunning]

/-- Entering comes back before it is further down than there are idle chain voices: nothing
beyond that has an influence. -/
theorem enterWithin_eq_enter (beyond : List String → Enter) {depth : Nat}
    (hdepth : lib.idle running < depth) :
    lib.enterWithin beyond depth running = lib.enter running := by
  induction depth generalizing running with
  | zero => exact absurd hdepth (Nat.not_lt_zero _)
  | succ depth ih =>
    rw [enterWithin, enter_eq_enterWith]
    refine enterWith_congr fun name hvoice hidle => ih ?_
    exact Nat.lt_of_lt_of_le (idle_cons_lt hvoice hidle) (Nat.le_of_lt_succ hdepth)

theorem runChain_enterWithin (beyond : List String → Enter) (chain : String) (scope : Scope)
    (seed : Value) :
    lib.runChain (lib.enterWithin beyond (lib.idle running + 1) running) chain scope seed =
      lib.execute running chain scope seed := by
  rw [enterWithin_eq_enter beyond (Nat.lt_succ_self _), execute]

theorem executeVoiceWith_enterWithin (beyond : List String → Enter) (name chain : String)
    (scope : Scope) (seed : Value) :
    lib.executeVoiceWith (lib.enterWithin beyond (lib.idle running + 1)) running name chain scope
      seed = lib.executeVoice running name chain scope seed := by
  have hdepth : lib.idle (name :: running) < lib.idle running + 1 :=
    Nat.lt_succ_of_le (idle_cons_le name)
  rw [executeVoice_eq_executeVoiceWith, executeVoiceWith, executeVoiceWith,
    enterWithin_eq_enter beyond hdepth]

end Library

end ChainScript
