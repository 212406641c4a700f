import ChainScript.Proofs.Simulation
import Mathlib.Data.Set.Insert

/-!
# Names that are out of reach

A bound name hides the voices and primitives of that name, and a voice hides the primitive of its
name, at every depth of an execution. A name that no chain within reach mentions is not looked up at
all. What such names stand for makes no difference.
-/

namespace ChainScript

/-- The name is an alternative of a step of some chain voice whose own name is not in `K`. -/
def Store.MentionsOutside (s : Store) (K : Set String) (name : String) : Prop :=
  ∃ v ∈ s.voices.entries, v.name ∉ K ∧ ∃ text ∈ v.chain?, Chain.Mentions text name

lemma Store.mentionsOutside_of_voice? {s : Store} {K : Set String} {name other text : String}
    {v : Voice} (hv : s.voice? name = some v) (hname : name ∉ K) (hbody : v.body = .chain text)
    (h : Chain.Mentions text other) : s.MentionsOutside K other := by
  refine ⟨v, Catalogue.mem_of_find? hv, ?_, text, Voice.chain?_eq_some hbody, h⟩
  rwa [Store.name_of_voice? hv]

/-- Apart from the names in `K` the libraries have the same voices, and the same primitives where
these are not hidden by voices. Nothing is said about definitions. -/
structure Library.AgreeOutside (K : Set String) (lib lib' : Library) : Prop where
  files : lib.files = lib'.files
  voice? : ∀ name, name ∉ K → lib.store.voice? name = lib'.store.voice? name
  primitive? : ∀ name, name ∉ K → lib.store.voice? name = none →
    lib.registry.primitive? name = lib'.registry.primitive? name

/-- Each name in `K` is bound in the scope, or neither the chain nor a chain voice outside `K`
mentions it. -/
def Library.OutOfReach (lib : Library) (chain : String) (scope : Scope) (K : Set String) : Prop :=
  ∀ name ∈ K, scope.contains name = true ∨
    ¬ Chain.Mentions chain name ∧ ¬ lib.store.MentionsOutside K name

/-- The scopes are the same and bind each name in `K` that may come up. -/
def Scope.Shielded (K : Set String) (N : String → Prop) (s t : Scope) : Prop :=
  s = t ∧ ∀ name ∈ K, N name → s.get? name ≠ none

namespace Scope.Shielded

variable {K : Set String} {N : String → Prop} {s t : Scope}

lemma not_mem (h : Shielded K N s t) {name : String} (hN : N name) (hnone : s.get? name = none) :
    name ∉ K :=
  fun hmem => h.2 name hmem hN hnone

/-- What is bound stays bound when a name is bound to another value. -/
lemma set (h : Shielded K N s t) (name : String) (value : Value) :
    Shielded K N (s.set name value) (t.set name value) := by
  refine ⟨by rw [h.1], fun other hmem hN => ?_⟩
  rw [get?_set]
  split_ifs
  · exact Option.some_ne_none value
  · exact h.2 other hmem hN

lemma child (h : Shielded K N s t) : Shielded K N s.child t.child := by
  refine ⟨by rw [h.1], fun other hmem hN => ?_⟩
  rw [get?_child]
  exact h.2 other hmem hN

end Scope.Shielded

/-- Shielded executions with libraries that agree outside `K` go alike, if all that is mentioned
outside `K` may come up. -/
lemma Library.AgreeOutside.simulation {K : Set String} {lib lib' : Library}
    (h : lib.AgreeOutside K lib') {N : String → Prop}
    (hN : ∀ name, lib.store.MentionsOutside K name → N name) :
    Simulation lib lib' (Scope.Shielded K N) N where
  get? hR _ := by rw [hR.1]
  set hR name value := hR.set name value
  child hR := hR.child
  voice? hR hN hnone := h.voice? _ (hR.not_mem hN hnone)
  primitive? hR hN hnone hv := h.primitive? _ (hR.not_mem hN hnone) hv
  call hR _ last := by rw [hR.1, h.files]
  names hR hname hnone hv hbody other hother :=
    hN other (Store.mentionsOutside_of_voice? hv (hR.not_mem hname hnone) hbody hother)

namespace Library

variable {lib lib' : Library} {K : Set String} {chain : String} {scope : Scope}

/-- Names that are out of reach may stand for different voices and primitives, or for none: the
execution gives the same value, the same warnings and the same scope. As voices hide primitives,
the primitives with the names of voices may differ too, and so may all definitions. -/
theorem execute_of_agreeOutside (hlib : lib.AgreeOutside K lib')
    (hK : lib.OutOfReach chain scope K) (running : List String) (seed : Value) :
    (lib.execute running chain scope seed).value = (lib'.execute running chain scope seed).value ∧
      (lib.execute running chain scope seed).warnings =
        (lib'.execute running chain scope seed).warnings ∧
      (lib.execute running chain scope seed).scope =
        (lib'.execute running chain scope seed).scope := by
  -- The names that may come up are those that are mentioned within reach.
  let N (name : String) : Prop := Chain.Mentions chain name ∨ lib.store.MentionsOutside K name
  have hshielded : Scope.Shielded K N scope scope := by
    refine ⟨rfl, fun name hmem hname hnone => ?_⟩
    rcases hK name hmem with hbound | ⟨hchain, hstore⟩
    · rw [Scope.contains, hnone] at hbound
      cases hbound
    · exact hname.elim hchain hstore
  have hsim : Simulation lib lib' (Scope.Shielded K N) N := hlib.simulation fun _ => Or.inr
  have hrunning : ∀ name, N name → (name ∈ running ↔ name ∈ running) := fun _ _ => Iff.rfl
  have halike := hsim.execute_alike hrunning (fun _ => Or.inl) (hshielded.set "last" seed)
  exact ⟨halike.value, halike.warnings, halike.scope.1⟩

end Library

namespace Masked

/-- The primitive that gives the same text whenever it is called. -/
def constantly (text : String) : Primitive := .ofScope fun _ => .ok (.str text)

/-- A voice that mentions a name of its scope and a primitive. -/
def speech : Voice := ⟨"speech", ["text"], .chain "tone + text -> loud -> done"⟩

/-- The library with just the voice and a primitive that it calls. -/
def bare : Library where
  store := Store.empty.insertVoice speech
  registry := Registry.register .empty "loud" (constantly "HEY")
  files := {}

/-- Voices and primitives for the names that are out of reach, a primitive that the voice hides, and
a definition. -/
def crowded : Library where
  store := ((bare.store.insertVoice ⟨"tone", [], .chain "speech -> far"⟩).insertVoice
    ⟨"far", [], .chain "tone -> far"⟩).insertDefinition ⟨"point", ["x", "y"]⟩
  registry := ((bare.registry.register "tone" (constantly "hum")).register "far"
    (constantly "echo")).register "speech" (constantly "...")
  files := {}

/-- The scope binds `tone` to an absent value, in a scope around it. -/
def scope : Scope := (Scope.empty.set "tone" .absent).child.set "text" (.str "hey")

lemma agreeOutside : bare.AgreeOutside {"tone", "far"} crowded where
  files := rfl
  voice? name hname := by
    simp only [Set.mem_insert_iff, Set.mem_singleton_iff, not_or] at hname
    have hvoices : crowded.store.voice? name =
        ((bare.store.insertVoice ⟨"tone", [], .chain "speech -> far"⟩).insertVoice
          ⟨"far", [], .chain "tone -> far"⟩).voice? name := rfl
    rw [hvoices, Store.voice?_insertVoice, Store.voice?_insertVoice, if_neg (Ne.symm hname.2),
      if_neg (Ne.symm hname.1)]
  primitive? name hname hv := by
    simp only [Set.mem_insert_iff, Set.mem_singleton_iff, not_or] at hname
    have hspeech : "speech" ≠ name := by
      rintro rfl
      cases hv
    rw [crowded, Registry.primitive?_register, Registry.primitive?_register,
      Registry.primitive?_register, if_neg hspeech, if_neg (Ne.symm hname.2),
      if_neg (Ne.symm hname.1)]

lemma outOfReach : bare.OutOfReach "speech -> tone" scope {"tone", "far"} := by
  intro name hname
  rcases hname with rfl | rfl
  · exact Or.inl rfl
  · refine Or.inr ⟨by decide +kernel, ?_⟩
    rintro ⟨v, hv, -, hmentions⟩
    have hstore : ¬ bare.store.Mentions "far" := by decide +kernel
    exact hstore ⟨v, hv, hmentions⟩

theorem execute_of_agreeOutside_masked :
    bare.AgreeOutside {"tone", "far"} crowded ∧
      bare.OutOfReach "speech -> tone" scope {"tone", "far"} ∧
      (bare.execute ["guest"] "speech -> tone" scope (.str "hey")).value =
        (crowded.execute ["guest"] "speech -> tone" scope (.str "hey")).value ∧
      (bare.execute ["guest"] "speech -> tone" scope (.str "hey")).warnings =
        (crowded.execute ["guest"] "speech -> tone" scope (.str "hey")).warnings ∧
      (bare.execute ["guest"] "speech -> tone" scope (.str "hey")).scope =
        (crowded.execute ["guest"] "speech -> tone" scope (.str "hey")).scope :=
  ⟨agreeOutside, outOfReach,
    Library.execute_of_agreeOutside agreeOutside outOfReach ["guest"] (.str "hey")⟩

end Masked

end ChainScript
