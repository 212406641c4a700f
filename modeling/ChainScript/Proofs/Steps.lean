import ChainScript.Evaluate
import ChainScript.Proofs.Splitting

/-!
# Steps one by one

What a token of a chain can mean, and what taking one step can do to the scope and to the trace.
Facts about whole runs are derived from these.
-/

namespace ChainScript

/-! ### Tokens -/

lemma Text.trimmed_eq_of_trim {t : String} (h : Text.trim t.toList = t.toList) :
    Text.trimmed t = t := by
  rw [Text.trimmed, h, String.ofList_toList]

namespace Chain

/-- The tokens of a chain text are trimmed. -/
lemma trimmed_of_mem_steps {text token : String} (h : token ∈ steps text) :
    Text.trimmed token = token := by
  obtain ⟨t, ht, rfl⟩ := List.mem_map.mp h
  obtain ⟨piece, -, rfl⟩ := List.mem_map.mp ht
  exact Text.trimmed_eq_of_trim (by simp)

lemma trimmed_of_mem_alternatives {token name : String} (h : name ∈ alternatives token) :
    Text.trimmed name = name := by
  obtain ⟨t, ht, rfl⟩ := List.mem_map.mp h
  obtain ⟨piece, -, rfl⟩ := List.mem_map.mp ht
  exact Text.trimmed_eq_of_trim (by simp)

/-- The name is an alternative of a step of the chain text. -/
def Mentions (text name : String) : Prop :=
  ∃ token ∈ steps text, name ∈ alternatives token

instance (text name : String) : Decidable (Mentions text name) :=
  inferInstanceAs (Decidable (∃ token ∈ steps text, name ∈ alternatives token))

/-- A step with no more than one alternative is that alternative. -/
lemma alternatives_eq_singleton {token : String} (h : (alternatives token).length ≤ 1) :
    alternatives token = [Text.trimmed token] := by
  have hsplit : (Separator.plus.split token.toList).length ≤ 1 := by
    simpa [alternatives, splitAlternatives] using h
  rw [alternatives, splitAlternatives, Separator.split_eq_singleton hsplit]
  rfl

end Chain

/-- The name is an alternative of a step of some chain voice. -/
def Store.Mentions (s : Store) (name : String) : Prop :=
  ∃ v ∈ s.voices.entries, ∃ text ∈ v.chain?, Chain.Mentions text name

instance (s : Store) (name : String) : Decidable (s.Mentions name) :=
  inferInstanceAs (Decidable (∃ v ∈ s.voices.entries, ∃ text ∈ v.chain?, Chain.Mentions text name))

lemma Voice.chain?_eq_some {v : Voice} {text : String} (hbody : v.body = .chain text) :
    v.chain? = some text := by
  rw [Voice.chain?, hbody]

lemma Store.mentions_of_voice? {s : Store} {name other text : String} {v : Voice}
    (hv : s.voice? name = some v) (hbody : v.body = .chain text)
    (h : Chain.Mentions text other) : s.Mentions other :=
  ⟨v, Catalogue.mem_of_find? hv, text, Voice.chain?_eq_some hbody, h⟩

/-! ### Meanings -/

/-- What the alternatives of a step mean. -/
def Step.meanings : Step → List Meaning
  | single m => [m]
  | compound ms => ms

/-- What a step means is what its alternatives mean. -/
theorem Step.meanings_resolve (lib : Library) (scope : Scope) (token : String) :
    (Step.resolve lib scope token).meanings =
      (Chain.alternatives token).map (Meaning.resolve lib scope) := by
  rw [Step.resolve]
  split_ifs with h
  · rfl
  · rw [Chain.alternatives_eq_singleton (Nat.le_of_not_lt h)]
    rfl

/-- A step that is its only alternative means what the token means. -/
lemma Step.resolve_of_alternatives (lib : Library) (scope : Scope) {token : String}
    (h : Chain.alternatives token = [token]) :
    Step.resolve lib scope token = .single (Meaning.resolve lib scope token) := by
  have htrimmed : Text.trimmed token = token :=
    Chain.trimmed_of_mem_alternatives (h ▸ List.mem_singleton_self token)
  rw [Step.resolve, h, htrimmed]
  exact if_neg (Nat.lt_irrefl 1)

namespace Meaning

variable {lib : Library} {scope : Scope} {token name : String}

/-- What a token can mean, by where its name is found first. -/
theorem resolve_cases (lib : Library) (scope : Scope) (token : String) :
    (∃ value, scope.get? token = some value ∧ resolve lib scope token = bound token value) ∨
      scope.get? token = none ∧
        ((∃ v, lib.store.voice? token = some v ∧ resolve lib scope token = ofVoice v) ∨
          lib.store.voice? token = none ∧
            (lib.registry.contains token = true ∧ resolve lib scope token = primitive token ∨
              lib.registry.contains token = false ∧
                resolve lib scope token = ofLexeme token)) := by
  cases hget : scope.get? token with
  | some value => exact Or.inl ⟨value, rfl, resolve_of_get? hget⟩
  | none =>
    refine Or.inr ⟨rfl, ?_⟩
    cases hv : lib.store.voice? token with
    | some v => exact Or.inl ⟨v, rfl, resolve_of_voice? hget hv⟩
    | none =>
      refine Or.inr ⟨rfl, ?_⟩
      cases hp : lib.registry.contains token with
      | true => exact Or.inl ⟨rfl, resolve_of_primitive hget hv hp⟩
      | false => exact Or.inr ⟨rfl, resolve_of_unknown hget hv hp⟩

lemma ofVoice_cases (v : Voice) :
    (∃ text, v.body = .chain text ∧ ofVoice v = voice v.name v.parameters text) ∨
      ∃ value, v.body = .literal value ∧ ofVoice v = constant v.name value := by
  unfold ofVoice
  cases v.body with
  | chain text => exact Or.inl ⟨text, rfl, rfl⟩
  | literal value => exact Or.inr ⟨value, rfl, rfl⟩

lemma isIdentifier_of_category {t : List Char} (h : Lexeme.category t = .identifier) :
    Lexeme.isIdentifier t = true := by
  rw [Lexeme.category] at h
  split_ifs at h with _ _ _ _ hid
  exact hid

lemma ofLexeme_cases (token : String) :
    ofLexeme token = empty ∨ (∃ value, ofLexeme token = literal value) ∨
      Lexeme.isIdentifier token.toList = true ∧ ofLexeme token = fresh token ∨
      ofLexeme token = unresolved token := by
  unfold ofLexeme
  cases hc : Lexeme.category token.toList with
  | empty => exact Or.inl rfl
  | identifier => exact Or.inr (Or.inr (Or.inl ⟨isIdentifier_of_category hc, rfl⟩))
  | other => exact Or.inr (Or.inr (Or.inr rfl))
  | quoted | number | boolean =>
    cases Lexeme.literal? token.toList with
    | some value => exact Or.inr (Or.inl ⟨value, rfl⟩)
    | none => exact Or.inr (Or.inr (Or.inr rfl))

/-- A token that means a voice is the name of a chain voice and is not bound. -/
lemma of_resolve_eq_voice {parameters : List String} {text : String}
    (h : resolve lib scope token = voice name parameters text) :
    name = token ∧ scope.get? token = none ∧
      ∃ v, lib.store.voice? token = some v ∧ v.body = .chain text ∧ v.parameters = parameters := by
  rcases resolve_cases lib scope token with
    ⟨_, -, hr⟩ | ⟨hget, ⟨v, hv, hr⟩ | ⟨-, ⟨-, hr⟩ | ⟨-, hr⟩⟩⟩ <;> rw [hr] at h
  · cases h
  · rcases ofVoice_cases v with ⟨t, ht, hof⟩ | ⟨_, -, hof⟩ <;> rw [hof] at h <;> cases h
    exact ⟨Store.name_of_voice? hv, hget, v, hv, ht, rfl⟩
  · cases h
  · rcases ofLexeme_cases token with hof | ⟨_, hof⟩ | ⟨-, hof⟩ | hof <;> rw [hof] at h <;> cases h

/-- A token that means a primitive is its name, and neither a voice nor bound. -/
lemma of_resolve_eq_primitive (h : resolve lib scope token = primitive name) :
    name = token ∧ scope.get? token = none ∧ lib.store.voice? token = none ∧
      lib.registry.contains token = true := by
  rcases resolve_cases lib scope token with
    ⟨_, -, hr⟩ | ⟨hget, ⟨v, hv, hr⟩ | ⟨hv, ⟨hp, hr⟩ | ⟨-, hr⟩⟩⟩ <;> rw [hr] at h
  · cases h
  · rcases ofVoice_cases v with ⟨_, -, hof⟩ | ⟨_, -, hof⟩ <;> rw [hof] at h <;> cases h
  · cases h
    exact ⟨rfl, hget, hv, hp⟩
  · rcases ofLexeme_cases token with hof | ⟨_, hof⟩ | ⟨-, hof⟩ | hof <;> rw [hof] at h <;> cases h

/-- A token that means a fresh name is an identifier and names nothing. -/
lemma of_resolve_eq_fresh (h : resolve lib scope token = fresh name) :
    name = token ∧ scope.get? token = none ∧ lib.store.voice? token = none ∧
      lib.registry.contains token = false ∧ Lexeme.isIdentifier token.toList = true := by
  rcases resolve_cases lib scope token with
    ⟨_, -, hr⟩ | ⟨hget, ⟨v, hv, hr⟩ | ⟨hv, ⟨-, hr⟩ | ⟨hp, hr⟩⟩⟩ <;> rw [hr] at h
  · cases h
  · rcases ofVoice_cases v with ⟨_, -, hof⟩ | ⟨_, -, hof⟩ <;> rw [hof] at h <;> cases h
  · cases h
  · rcases ofLexeme_cases token with hof | ⟨_, hof⟩ | ⟨hid, hof⟩ | hof <;> rw [hof] at h <;> cases h
    exact ⟨rfl, hget, hv, hp, hid⟩

end Meaning

/-! ### The scope after a step -/

variable {lib : Library} {enter : Enter}

/-- A step leaves the scope as it is, or binds a fresh name to the last result. -/
theorem Step.scope_run (lib : Library) (enter : Enter) (scope : Scope) (last : Value)
    (step : Step) :
    (step.run lib enter scope last).scope = scope ∨
      ∃ name, step = .single (.fresh name) ∧ last.isAbsent = false ∧
        (step.run lib enter scope last).scope = scope.set name last := by
  cases step with
  | compound => exact Or.inl rfl
  | single m =>
    cases m with
    | fresh name =>
      cases habsent : last.isAbsent with
      | true => exact Or.inl (by simp [Step.run, Meaning.run, habsent])
      | false =>
        exact Or.inr ⟨name, rfl, rfl, by simp [Step.run, Meaning.run, habsent]⟩
    | _ => exact Or.inl rfl

/-- What a token can do to the scope: it binds itself, if it is no compound step but an identifier
that means nothing, and there is a last result to bind. -/
theorem Step.scope_run_resolve (lib : Library) (enter : Enter) (scope : Scope) (last : Value)
    {token : String} (htoken : Text.trimmed token = token) :
    ((Step.resolve lib scope token).run lib enter scope last).scope = scope ∨
      scope.get? token = none ∧ Chain.alternatives token = [token] ∧
        Lexeme.isIdentifier token.toList = true ∧ last.isAbsent = false ∧
        ((Step.resolve lib scope token).run lib enter scope last).scope =
          scope.set token last := by
  rcases Step.scope_run lib enter scope last (Step.resolve lib scope token) with
    h | ⟨name, hstep, habsent, hscope⟩
  · exact Or.inl h
  · unfold Step.resolve at hstep
    dsimp only at hstep
    split_ifs at hstep with hlength
    have halternatives := Chain.alternatives_eq_singleton (Nat.le_of_not_lt hlength)
    rw [htoken, Step.single.injEq] at hstep
    rw [htoken] at halternatives
    obtain ⟨rfl, hget, -, -, hid⟩ := Meaning.of_resolve_eq_fresh hstep
    exact Or.inr ⟨hget, halternatives, hid, habsent, hscope⟩

/-! ### The trace of a run -/

/-- The property holds for the empty trace and is kept when traces are joined. -/
structure Trace.Closed (P : Trace → Prop) : Prop where
  nil : P []
  append : ∀ {t u : Trace}, P t → P u → P (t ++ u)

variable {P : Trace → Prop}

/-- The trace of a step is what entering a voice or calling a primitive leaves, or a note that a
token is unknown, or nothing. -/
lemma Meaning.trace_run {scope : Scope} {last : Value} {m : Meaning} (hnil : P [])
    (hvoice : ∀ name parameters chain, m = .voice name parameters chain →
      P (enter name scope last).2)
    (hprimitive : ∀ name, m = .primitive name → P (lib.call name scope last).2)
    (hunresolved : ∀ token, m = .fresh token ∨ m = .unresolved token →
      P [.warned (.unresolved token)]) :
    P (m.run lib enter scope last).trace := by
  cases m with
  | voice name parameters chain => exact hvoice name parameters chain rfl
  | primitive name => exact hprimitive name rfl
  | fresh name =>
    rw [Meaning.run]
    split
    · exact hunresolved name (Or.inl rfl)
    · exact hnil
  | unresolved token => exact hunresolved token (Or.inr rfl)
  | bound | constant | literal | empty => exact hnil

/-- An alternative leaves the trace that it leaves as a step by itself, perhaps with nothing to
bind. -/
lemma Meaning.trace_attempt (lib : Library) (enter : Enter) (scope : Scope) (last : Value)
    (m : Meaning) : ∃ before, (m.attempt lib enter scope last).2 =
      (m.run lib enter scope before).trace := by
  cases m with
  | fresh name => exact ⟨.absent, rfl⟩
  | _ => exact ⟨last, rfl⟩

lemma Meaning.trace_route (hP : Trace.Closed P) {scope : Scope} {last : Value}
    {alternatives : List Meaning}
    (h : ∀ m ∈ alternatives, ∀ before, P (m.run lib enter scope before).trace)
    (passed : List Value) : P (route lib enter scope last passed alternatives).2 := by
  induction alternatives generalizing passed with
  | nil => exact hP.nil
  | cons m rest ih =>
    have hfirst : P (m.attempt lib enter scope last).2 := by
      obtain ⟨before, hbefore⟩ := Meaning.trace_attempt lib enter scope last m
      rw [hbefore]
      exact h m (by simp) before
    rw [route]
    dsimp only
    split
    · exact hP.append hfirst (ih (fun n hn => h n (List.mem_cons_of_mem _ hn)) _)
    · exact hfirst

lemma Step.trace_run (hP : Trace.Closed P) {scope : Scope} {step : Step}
    (h : ∀ m ∈ step.meanings, ∀ before, P (m.run lib enter scope before).trace) (last : Value) :
    P (step.run lib enter scope last).trace := by
  cases step with
  | single m => exact h m (by simp [Step.meanings]) last
  | compound ms => exact Meaning.trace_route hP h []

/-- A property holds for the trace of a run if it holds for what each alternative of each token
leaves. -/
theorem Library.trace_runSteps (hP : Trace.Closed P) {tokens : List String}
    (hstep : ∀ token ∈ tokens, ∀ scope, P [.step token scope])
    (hrun : ∀ token ∈ tokens, ∀ name ∈ Chain.alternatives token, ∀ scope last,
      P ((Meaning.resolve lib scope name).run lib enter scope last).trace)
    (scope : Scope) (last : Value) : P (lib.runSteps enter tokens scope last).trace := by
  induction tokens generalizing scope last with
  | nil => exact hP.nil
  | cons token rest ih =>
    rw [runSteps]
    refine hP.append (t := [.step token scope] ++ _) (hP.append (hstep token (by simp) scope) ?_) ?_
    · refine Step.trace_run hP (fun m hm before => ?_) last
      rw [Step.meanings_resolve] at hm
      obtain ⟨name, hname, rfl⟩ := List.mem_map.mp hm
      exact hrun token (by simp) name hname scope before
    · exact ih (fun t ht => hstep t (List.mem_cons_of_mem _ ht))
        (fun t ht => hrun t (List.mem_cons_of_mem _ ht)) _ _

end ChainScript
