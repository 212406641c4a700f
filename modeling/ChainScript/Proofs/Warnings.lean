import ChainScript.Proofs.Entering
import ChainScript.Proofs.Numerals

/-!
# What an execution warns of

There are three reasons for a warning: a token means nothing, a primitive fails, or a voice is called
while it is running. Each warning names what it is about. The other kinds of failures come from
loading or from within primitives, and no execution reports them as its own.
-/

namespace ChainScript

/-! ### Literals have values -/

/-- A token that is a literal by its kind can be read. -/
lemma Lexeme.isSome_literal? {t : List Char}
    (h : category t = .quoted ∨ category t = .number ∨ category t = .boolean) :
    (literal? t).isSome = true := by
  rcases h with h | h | h <;> simp only [literal?, h]
  · rfl
  · have hnumeral := isNumeral_of_category h
    rw [isNumeral, Bool.and_eq_true] at hnumeral
    rw [Option.isSome_map]
    exact hnumeral.2
  · rfl

namespace Meaning

variable {lib : Library} {scope : Scope} {token name : String}

lemma ofLexeme_of_literal (h : Lexeme.category token.toList = .quoted ∨
      Lexeme.category token.toList = .number ∨ Lexeme.category token.toList = .boolean) :
    ∃ value, ofLexeme token = literal value := by
  obtain ⟨value, hvalue⟩ := Option.isSome_iff_exists.mp (Lexeme.isSome_literal? h)
  refine ⟨value, ?_⟩
  rcases h with h | h | h <;> simp only [ofLexeme, h, hvalue]

/-- A token that means nothing is an identifier or no word of any kind. -/
lemma of_ofLexeme_eq_unknown (h : ofLexeme token = fresh name ∨ ofLexeme token = unresolved name) :
    name = token ∧ (Lexeme.category token.toList = .identifier ∨
      Lexeme.category token.toList = .other) := by
  cases hcategory : Lexeme.category token.toList with
  | quoted | number | boolean =>
    obtain ⟨value, hliteral⟩ : ∃ value, ofLexeme token = literal value :=
      ofLexeme_of_literal (by simp [hcategory])
    simp [hliteral] at h
  | identifier =>
    simp only [ofLexeme, hcategory] at h
    rcases h with h | h <;> cases h
    exact ⟨rfl, Or.inl rfl⟩
  | other =>
    simp only [ofLexeme, hcategory] at h
    rcases h with h | h <;> cases h
    exact ⟨rfl, Or.inr rfl⟩
  | empty =>
    simp only [ofLexeme, hcategory] at h
    rcases h with h | h <;> cases h

/-- A token that means nothing is no name of anything. -/
lemma of_resolve_eq_unknown
    (h : resolve lib scope token = fresh name ∨ resolve lib scope token = unresolved name) :
    name = token ∧ lib.store.voice? token = none ∧ lib.registry.contains token = false ∧
      (Lexeme.category token.toList = .identifier ∨ Lexeme.category token.toList = .other) := by
  rcases resolve_cases lib scope token with
    ⟨_, -, hr⟩ | ⟨-, ⟨v, -, hr⟩ | ⟨hv, ⟨-, hr⟩ | ⟨hp, hr⟩⟩⟩ <;> rw [hr] at h
  · rcases h with h | h <;> cases h
  · rcases ofVoice_cases v with ⟨_, -, hof⟩ | ⟨_, -, hof⟩ <;> rw [hof] at h <;>
      rcases h with h | h <;> cases h
  · rcases h with h | h <;> cases h
  · obtain ⟨rfl, hcategory⟩ := of_ofLexeme_eq_unknown h
    exact ⟨rfl, hv, hp, hcategory⟩

lemma isSome_primitive?_of_resolve (h : resolve lib scope token = primitive name) :
    (lib.registry.primitive? name).isSome = true := by
  obtain ⟨rfl, -, -, hp⟩ := of_resolve_eq_primitive h
  rwa [Registry.primitive?, Option.isSome_map]

end Meaning

/-! ### Reasons -/

/-- There is a reason to warn of the failure, if the names in `N` come up. An unknown token is one
of these names, not a literal, and no name of anything; a primitive that failed is not hidden by a
voice, and failed as reported in some scope; and only chain voices of the store are called while they
are running. -/
inductive Failure.Justified (lib : Library) (N : String → Prop) : Failure → Prop
  | unresolved {token : String} (hN : N token) (hne : token ≠ "")
      (hv : lib.store.voice? token = none) (hp : lib.registry.primitive? token = none)
      (hcategory : Lexeme.category token.toList = .identifier ∨
        Lexeme.category token.toList = .other) : Justified lib N (.unresolved token)
  | primitive {name reason : String} {p : Primitive} {scope : Scope}
      (hv : lib.store.voice? name = none) (hp : lib.registry.primitive? name = some p)
      (hfailed : (p.call lib.files scope).1.result = .error reason) :
      Justified lib N (.primitive name reason)
  | cycle {voice : String} (hvoice : voice ∈ lib.store.chainNames) : Justified lib N (.cycle voice)

/-- All warnings of the trace are justified. -/
def Trace.Justified (lib : Library) (N : String → Prop) (t : Trace) : Prop :=
  ∀ failure ∈ Trace.warnings t, failure.Justified lib N

namespace Trace.Justified

variable {lib : Library} {N : String → Prop}

lemma of_warnings_eq_nil {t : Trace} (h : Trace.warnings t = []) : Justified lib N t := by
  intro failure hfailure
  rw [h] at hfailure
  cases hfailure

lemma closed (lib : Library) (N : String → Prop) : Trace.Closed (Justified lib N) where
  nil := of_warnings_eq_nil rfl
  append ht hu failure hfailure := by
    rw [warnings_append] at hfailure
    exact (List.mem_append.mp hfailure).elim (ht failure) (hu failure)

lemma warned {failure : Failure} (h : failure.Justified lib N) :
    Justified lib N [.warned failure] := by
  intro other hother
  rwa [List.mem_singleton.mp hother]

end Trace.Justified

/-! ### Executions -/

namespace Library

variable {lib : Library} {N : String → Prop} {running : List String}

lemma justified_call {name : String} (hv : lib.store.voice? name = none)
    (hp : (lib.registry.primitive? name).isSome = true) (caller : Scope) (last : Value) :
    Trace.Justified lib N (lib.call name caller last).2 := by
  obtain ⟨p, hp⟩ := Option.isSome_iff_exists.mp hp
  rw [call_eq hp]
  split
  · exact .of_warnings_eq_nil rfl
  · next reason hfailed => exact .warned (.primitive hv hp hfailed)

/-- A chain warns with reason if all that it mentions may come up and the voices that it calls warn
with reason. -/
lemma justified_runChain {enter : Enter} {chain : String}
    (hN : ∀ name, Chain.Mentions chain name → N name)
    (henter : ∀ name caller last, (∃ v text, lib.store.voice? name = some v ∧ v.body = .chain text) →
      Trace.Justified lib N (enter name caller last).2) (scope : Scope) (seed : Value) :
    Trace.Justified lib N (lib.runChain enter chain scope seed).trace := by
  refine trace_runSteps (Trace.Justified.closed lib N) (fun _ _ _ => .of_warnings_eq_nil rfl) ?_ _ _
  intro token htoken name hname scope last
  apply Meaning.trace_run (.of_warnings_eq_nil rfl)
  · intro other parameters text hresolve
    obtain ⟨rfl, -, v, hv, hbody, -⟩ := Meaning.of_resolve_eq_voice hresolve
    exact henter other scope last ⟨v, text, hv, hbody⟩
  · intro other hresolve
    have hp := Meaning.isSome_primitive?_of_resolve hresolve
    obtain ⟨rfl, -, hv, -⟩ := Meaning.of_resolve_eq_primitive hresolve
    exact justified_call hv hp scope last
  · intro other hresolve
    obtain ⟨rfl, hv, hp, hcategory⟩ := Meaning.of_resolve_eq_unknown hresolve
    refine .warned (.unresolved (hN other ⟨token, htoken, hname⟩) ?_ hv ?_ hcategory)
    · rintro rfl
      rcases hcategory with h | h <;> cases h
    · rwa [← Option.not_isSome_iff_eq_none, Registry.primitive?, Option.isSome_map, Bool.not_eq_true]

/-- Chain voices warn with reason wherever they are called, if all that the store mentions may come
up. -/
theorem justified_enter (hN : ∀ name, lib.store.Mentions name → N name) (running : List String)
    {name text : String} {v : Voice} (hv : lib.store.voice? name = some v)
    (hbody : v.body = .chain text) (caller : Scope) (last : Value) :
    Trace.Justified lib N (lib.enter running name caller last).2 := by
  induction running using running_induction lib generalizing name text v caller last with
  | h running ih =>
    have hname := mem_chainNames hv hbody
    rw [enter_eq_enterWith, enterWith_of_chain hv hbody, executeVoiceWith]
    split_ifs with hrunning
    · exact .warned (.cycle hname)
    · have hinner : Trace.Justified lib N (lib.runChain (lib.enter (name :: running)) text
          (voiceScope caller v.parameters last) last).trace := by
        refine justified_runChain
          (fun other hother => hN other (Store.mentions_of_voice? hv hbody hother)) ?_ _ _
        rintro other caller last ⟨w, inner, hw, hinner⟩
        exact ih name hname hrunning hw hinner caller last
      intro failure hfailure
      refine hinner failure ?_
      simpa using hfailure

/-- Each warning of an execution is justified: it is about a token that the chain or a chain voice
mentions, a primitive that is not hidden by a voice, or a chain voice. Nothing is missing, unreadable
or invalid to the execution itself, because a token means a primitive only if that is registered, and
what is a literal by its kind can be read. -/
theorem warnings_justified (lib : Library) (running : List String) (chain : String) (scope : Scope)
    (seed : Value) :
    (∀ failure ∈ (lib.execute running chain scope seed).warnings,
        failure.Justified lib fun name => Chain.Mentions chain name ∨ lib.store.Mentions name) ∧
      (∀ name reason, .missing name ∉ (lib.execute running chain scope seed).warnings ∧
        .unreadable name reason ∉ (lib.execute running chain scope seed).warnings ∧
        .invalid name reason ∉ (lib.execute running chain scope seed).warnings) ∧
      (∀ scope token name, Meaning.resolve lib scope token = .primitive name →
        (lib.registry.primitive? name).isSome = true) ∧
      ∀ token, Lexeme.category token.toList = .quoted ∨ Lexeme.category token.toList = .number ∨
          Lexeme.category token.toList = .boolean →
        ∃ value, Meaning.ofLexeme token = .literal value := by
  have hjustified : ∀ failure ∈ (lib.execute running chain scope seed).warnings,
      failure.Justified lib fun name => Chain.Mentions chain name ∨ lib.store.Mentions name := by
    refine justified_runChain (fun _ => Or.inl) ?_ scope seed
    rintro name caller last ⟨v, text, hv, hbody⟩
    exact justified_enter (fun _ => Or.inr) running hv hbody caller last
  refine ⟨hjustified, fun name reason => ⟨fun h => ?_, fun h => ?_, fun h => ?_⟩,
    fun _ _ _ => Meaning.isSome_primitive?_of_resolve, fun _ => Meaning.ofLexeme_of_literal⟩
  · cases hjustified _ h
  · cases hjustified _ h
  · cases hjustified _ h

end Library

end ChainScript
