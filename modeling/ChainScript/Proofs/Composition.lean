import ChainScript.Proofs.Calling
import ChainScript.Proofs.CallStack
import ChainScript.Proofs.Resplitting

/-!
# Chains one after the other

A chain that is cut between two of its steps runs like its two parts one after the other. The second
part goes on in the scope that the first one leaves, with the result of the first one before its
first step. That its run begins by binding `last` makes no difference, as the first part has bound
`last` to this result already.
-/

namespace ChainScript

/-! ### Binding twice -/

namespace Catalogue

variable {α : Type} {key : α → String} {a b : α}

lemma place_place (h : key a = key b) (entries : List α) :
    place key b (place key a entries) = place key b entries := by
  induction entries with
  | nil => simp [place, h]
  | cons e rest ih =>
    rw [place, place, h]
    split_ifs with hless hsame
    · rw [place, if_neg (h ▸ String.lt_irrefl _), if_pos h.symm]
    · rw [place, if_neg (h ▸ String.lt_irrefl _), if_pos h.symm]
    · rw [place, if_neg hless, if_neg hsame, ih]

/-- Of two entries with the same key that are added after each other only the second one counts. -/
lemma insert_insert (c : Catalogue key) (h : key a = key b) :
    (c.insert a).insert b = c.insert b :=
  ext (place_place h c.entries)

end Catalogue

@[simp]
lemma Scope.set_set (s : Scope) (name : String) (value value' : Value) :
    (s.set name value).set name value' = s.set name value' := by
  simp only [set, Catalogue.insert_insert]

namespace Library

variable {lib : Library} {enter : Enter}

/-- After at least one step `last` has been bound to the result in the scope itself. -/
lemma set_last_runSteps {tokens : List String} (hne : tokens ≠ []) (scope : Scope) (last : Value) :
    let r := lib.runSteps enter tokens scope last
    r.scope.set "last" r.value = r.scope := by
  induction tokens generalizing scope last with
  | nil => exact absurd rfl hne
  | cons token rest ih =>
    rw [runSteps]
    cases rest with
    | nil => simp [runSteps]
    | cons next rest => exact ih (List.cons_ne_nil next rest) _ _

/-- A chain text that is written with steps takes these steps. -/
lemma execute_written (lib : Library) {tokens : List String} (hne : tokens ≠ [])
    (h : ∀ t ∈ tokens, Text.Trimmed t.toList ∧ Separator.Clean t.toList) (running : List String)
    (scope : Scope) (seed : Value) :
    lib.execute running (Chain.writeSteps tokens) scope seed =
      lib.runSteps (lib.enter running) tokens (scope.set "last" seed) seed := by
  have hsteps : Chain.steps (Chain.writeSteps tokens) = tokens := by
    rw [Chain.writeSteps, Chain.steps_ofList_joinSteps, Chain.map_ofList_map_toList]
    · simpa using hne
    · intro t ht
      obtain ⟨token, htoken, rfl⟩ := List.mem_map.mp ht
      exact (h token htoken).symm
  rw [execute, runChain, hsteps]

/-- A chain runs like its first steps and then its other steps, each written as a chain by itself,
where the second chain runs in the scope that the first one leaves, with its result as the seed.
The voices that are running then are those that were running before. Steps are trimmed texts in
which arrows stand only between a quote that starts the text and the next quote of its kind. -/
theorem execute_append (lib : Library) (running : List String) {before after : List String}
    (hbefore : before ≠ []) (hafter : after ≠ [])
    (h : ∀ t ∈ before ++ after, Text.Trimmed t.toList ∧ Separator.Clean t.toList) (scope : Scope)
    (seed : Value) :
    let first := lib.execute running (Chain.writeSteps before) scope seed
    let second := lib.execute running (Chain.writeSteps after) first.scope first.value
    let whole := lib.execute running (Chain.writeSteps (before ++ after)) scope seed
    Trace.running? running first.trace = some running ∧ whole.value = second.value ∧
      whole.warnings = first.warnings ++ second.warnings ∧ whole.scope = second.scope ∧
      whole.trace = first.trace ++ second.trace := by
  intro first second whole
  have hfirst : first =
      lib.runSteps (lib.enter running) before (scope.set "last" seed) seed :=
    execute_written lib hbefore (fun t ht => h t (List.mem_append_left _ ht)) running scope seed
  have hsecond : second = lib.runSteps (lib.enter running) after first.scope first.value := by
    -- the first run has bound `last` to its result, so binding it again changes nothing
    have hlast : first.scope.set "last" first.value = first.scope := by
      rw [hfirst]
      exact set_last_runSteps hbefore _ _
    have hwritten := execute_written lib hafter
      (fun t ht => h t (List.mem_append_right _ ht)) running first.scope first.value
    rwa [hlast] at hwritten
  have hwhole : whole = { second with trace := first.trace ++ second.trace } := by
    have hne : before ++ after ≠ [] := List.append_ne_nil_of_left_ne_nil hbefore after
    have hwritten := execute_written lib hne h running scope seed
    rw [runSteps_append, ← hfirst] at hwritten
    rw [hsecond]
    exact hwritten
  have hstack : Trace.running? running first.trace = some running :=
    (orderly_execute lib running (Chain.writeSteps before) scope seed).restored
  rw [hwhole]
  exact ⟨hstack, rfl, Trace.warnings_append first.trace second.trace, rfl, rfl⟩

end Library

namespace Refrain

/-- A voice that refers to itself. -/
def library : Library where
  store := Store.empty.insertVoice ⟨"refrain", ["verse"], .chain "refrain + verse -> word"⟩
  registry := .empty
  files := {}

/-- The steps of two chains: an arrow between quotes, a name that takes the result before it, the
voice, and the name once more. -/
def verse : List String := ["'a -> b' + word", "word"]

def chorus : List String := ["refrain", "it's", "word + refrain"]

lemma clean : ∀ t ∈ verse ++ chorus, Text.Trimmed t.toList ∧ Separator.Clean t.toList := by
  have htrimmed : ∀ t ∈ verse ++ chorus, Text.trim t.toList = t.toList := by decide +kernel
  have hbare : ∀ t ∈ verse.tail ++ chorus, t.toList.head?.any Lexeme.isQuote = false ∧
      ¬ Separator.arrow.text <:+: t.toList := by decide +kernel
  have hquotation : ∀ q inside rest, Lexeme.isQuote q = true → q ∉ inside →
      ¬ Separator.arrow.text <:+: rest → Separator.Clean (q :: inside ++ q :: rest) :=
    fun q inside rest hq hinside hrest => Or.inr ⟨q, inside, rest, hq, hinside, rfl, hrest⟩
  intro t ht
  refine ⟨Text.trim_eq_self_iff.mp (htrimmed t ht), ?_⟩
  rw [verse, List.cons_append, List.mem_cons] at ht
  rcases ht with rfl | ht
  · exact hquotation '\'' "a -> b".toList " + word".toList (by decide) (by decide)
      (by decide +kernel)
  · obtain ⟨hquote, harrow⟩ := hbare t ht
    refine Or.inl ⟨fun c hc => ?_, harrow⟩
    rwa [Option.mem_def.mp hc] at hquote

theorem execute_append_refrain :
    (∀ t ∈ verse ++ chorus, Text.Trimmed t.toList ∧ Separator.Clean t.toList) ∧
      let first := library.execute ["guest"] (Chain.writeSteps verse) .empty .absent
      let second := library.execute ["guest"] (Chain.writeSteps chorus) first.scope first.value
      let whole := library.execute ["guest"] (Chain.writeSteps (verse ++ chorus)) .empty .absent
      Trace.running? ["guest"] first.trace = some ["guest"] ∧ whole.value = second.value ∧
        whole.warnings = first.warnings ++ second.warnings ∧ whole.scope = second.scope ∧
        whole.trace = first.trace ++ second.trace :=
  ⟨clean, Library.execute_append library ["guest"] (by decide) (by decide) clean .empty .absent⟩

end Refrain

end ChainScript
