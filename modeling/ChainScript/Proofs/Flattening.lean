import ChainScript.Proofs.Expansion

/-!
# Expanding first

The voices and definitions that loading a text leaves are found in two passes that know nothing of
each other. The first goes through the files and gives a flat list, in which the lines of a file
stand in the place of the include that leads to it first. The second inserts what is in this list,
from the first entry to the last, and needs no files. So of the entries with one name the last in
the list counts, wherever it comes from.
-/

namespace ChainScript

/-- What is inserted into a store. -/
abbrev Entry := Voice ⊕ Definition

/-! ### Inserting a flat list -/

/-- Of entries that are added one after the other, the last one with the key is found, and otherwise
what was there before. -/
lemma Catalogue.find?_foldl_insert_findRev? {α : Type} {key : α → String} (entries : List α)
    (c : Catalogue key) (k : String) :
    (entries.foldl insert c).find? k = (entries.findRev? (key · = k)).or (c.find? k) := by
  induction entries generalizing c with
  | nil => rfl
  | cons a rest ih =>
    rw [List.foldl_cons, ih, find?_insert, List.findRev?]
    cases rest.findRev? (key · = k) with
    | some b => rfl
    | none => by_cases hk : key a = k <;> simp [hk]

namespace Store

/-- Adds an entry, instead of the one of its kind with the same name if there is one. -/
def insert (s : Store) : Entry → Store
  | .inl v => s.insertVoice v
  | .inr d => s.insertDefinition d

/-- Voices and definitions are inserted apart from each other. -/
lemma foldl_insert_eq (entries : List Entry) (s : Store) :
    entries.foldl insert s =
      { s with
        voices := (entries.filterMap Sum.getLeft?).foldl Catalogue.insert s.voices
        definitions := (entries.filterMap Sum.getRight?).foldl Catalogue.insert s.definitions } := by
  induction entries generalizing s with
  | nil => rfl
  | cons e rest ih =>
    rw [List.foldl_cons, ih]
    cases e <;> rfl

lemma voice?_foldl_insert (entries : List Entry) (s : Store) (name : String) :
    (entries.foldl insert s).voice? name =
      ((entries.filterMap Sum.getLeft?).findRev? (·.name = name)).or (s.voice? name) := by
  rw [foldl_insert_eq]
  exact Catalogue.find?_foldl_insert_findRev? _ s.voices name

lemma definition?_foldl_insert (entries : List Entry) (s : Store) (name : String) :
    (entries.foldl insert s).definition? name =
      ((entries.filterMap Sum.getRight?).findRev? (·.name = name)).or (s.definition? name) := by
  rw [foldl_insert_eq]
  exact Catalogue.find?_foldl_insert_findRev? _ s.definitions name

end Store

/-! ### The flat list -/

namespace FileTree

/-- The lines that are left in a frame come to these entries, if the first list of files has been
loaded or expanded before, and the last list is that afterwards. An include is replaced by what the
lines of its file come to, if that file can be read and was not loaded or expanded before, and by
nothing otherwise. -/
inductive Flattens (t : FileTree) :
    List Location → Frame → List Entry → List Location → Prop
  | nil {loaded : List Location} {base : String} : Flattens t loaded { base, rest := [] } [] loaded
  | silent {loaded after : List Location} {base : String} {line : List Char}
      {rest : List (List Char)} {entries : List Entry} (hline : Declaration.readLine? line = none)
      (hrest : Flattens t loaded { base, rest } entries after) :
      Flattens t loaded { base, rest := line :: rest } entries after
  | voice {loaded after : List Location} {base : String} {line : List Char}
      {rest : List (List Char)} {entries : List Entry} {v : Voice}
      (hline : Declaration.readLine? line = some (.voice v))
      (hrest : Flattens t loaded { base, rest } entries after) :
      Flattens t loaded { base, rest := line :: rest } (.inl v :: entries) after
  | definition {loaded after : List Location} {base : String} {line : List Char}
      {rest : List (List Char)} {entries : List Entry} {d : Definition}
      (hline : Declaration.readLine? line = some (.definition d))
      (hrest : Flattens t loaded { base, rest } entries after) :
      Flattens t loaded { base, rest := line :: rest } (.inr d :: entries) after
  | skipped {loaded after : List Location} {base path : String} {line : List Char}
      {rest : List (List Char)} {entries : List Entry}
      (hline : Declaration.readLine? line = some (.inclusion path))
      (hskip : ∀ location, t.destination? (Path.join base path) = some location →
        location ∈ loaded)
      (hrest : Flattens t loaded { base, rest } entries after) :
      Flattens t loaded { base, rest := line :: rest } entries after
  | replaced {loaded between after : List Location} {base path text : String} {line : List Char}
      {rest : List (List Char)} {inside entries : List Entry} {location : Location}
      (hline : Declaration.readLine? line = some (.inclusion path))
      (hlocation : t.destination? (Path.join base path) = some location)
      (hread : t.readAt location = .ok text) (hunknown : location ∉ loaded)
      (hinside : Flattens t (location :: loaded) (.ofFile location text) inside between)
      (hrest : Flattens t between { base, rest } entries after) :
      Flattens t loaded { base, rest := line :: rest } (inside ++ entries) after

end FileTree

/-! ### What loading inserts -/

namespace Change

/-- What the change inserts. -/
def entry? : Change → Option Entry
  | voice v => some (.inl v)
  | definition d => some (.inr d)
  | opened _ | failed _ => none

/-- What is inserted does not depend on the files that are marked, or on failures. -/
lemma foldl_apply_eq (changes : List Change) (s : Store) :
    changes.foldl apply s =
      { (changes.filterMap entry?).foldl Store.insert s with
        loaded := loadedAfter s.loaded changes
        warnings := s.warnings ++ changes.filterMap failure? } := by
  induction changes generalizing s with
  | nil => simp [loadedAfter]
  | cons change rest ih =>
    rw [List.foldl_cons, ih, Store.foldl_insert_eq, Store.foldl_insert_eq]
    cases change with
    | voice v => rfl
    | definition d => rfl
    | opened location => rfl
    | failed path =>
      simp only [apply, Store.warn, List.append_assoc]
      rfl

end Change

namespace FileTree

variable {t : FileTree} {loaded after : List Location} {f : Frame} {entries : List Entry}
  {path text : String} {location : Location}

lemma fetch_ofLoaded_eq_fresh_iff :
    (Store.ofLoaded loaded).fetch t path = .fresh location text ↔
      t.destination? path = some location ∧ t.readAt location = .ok text ∧ location ∉ loaded := by
  constructor
  · intro h
    obtain ⟨hunknown, hread⟩ := Store.not_mem_loaded_of_fetch h
    exact ⟨Store.destination?_of_fetch_fresh h, hread, hunknown⟩
  · rintro ⟨hlocation, hread, hunknown⟩
    obtain ⟨hlocate, -⟩ := destination?_eq_some_iff.mp hlocation
    have hunmarked : location ∉ (Store.ofLoaded loaded).loaded := hunknown
    rw [Store.fetch, hlocate]
    simp [hunmarked, hread]

lemma mem_loaded_of_fetch_ne_fresh
    (h : ∀ location text, (Store.ofLoaded loaded).fetch t path ≠ .fresh location text)
    (hlocation : t.destination? path = some location) : location ∈ loaded := by
  by_contra hunknown
  obtain ⟨-, text, hread⟩ := destination?_eq_some_iff.mp hlocation
  exact h location text (fetch_ofLoaded_eq_fresh_iff.mpr ⟨hlocation, hread, hunknown⟩)

/-- The lines that are left in a frame come to a flat list. -/
lemma flattens_expand (t : FileTree) (loaded : List Location) (f : Frame) :
    t.Flattens loaded f ((t.expand loaded f).filterMap Change.entry?)
      (Change.loadedAfter loaded (t.expand loaded f)) := by
  fun_induction expand t loaded f with
  | case1 loaded base => exact .nil
  | case2 loaded base line rest hline ih => exact .silent hline ih
  | case3 loaded base line rest v hline ih => exact .voice hline ih
  | case4 loaded base line rest d hline ih => exact .definition hline ih
  | case5 loaded base line rest path hline target fault hfetch ih =>
    exact .skipped hline (fun _ => mem_loaded_of_fetch_ne_fresh (by simp [target, hfetch])) ih
  | case6 loaded base line rest path hline target hfetch ih =>
    exact .skipped hline (fun _ => mem_loaded_of_fetch_ne_fresh (by simp [target, hfetch])) ih
  | case7 loaded base line rest path hline target location text hfetch inside ihinside ih =>
    obtain ⟨hlocation, hread, hunknown⟩ := fetch_ofLoaded_eq_fresh_iff.mp hfetch
    rw [List.filterMap_append, Change.loadedAfter_append]
    exact .replaced hline hlocation hread hunknown ihinside ih

/-- The lines that are left in a frame come to no other flat list. -/
lemma Flattens.eq_expand (h : t.Flattens loaded f entries after) :
    entries = (t.expand loaded f).filterMap Change.entry? ∧
      after = Change.loadedAfter loaded (t.expand loaded f) := by
  induction h with
  | nil =>
    rw [expand_nil]
    exact ⟨rfl, rfl⟩
  | silent hline _ ih => rwa [expand_of_silent hline]
  | voice hline _ ih =>
    obtain ⟨rfl, rfl⟩ := ih
    rw [expand_of_voice hline]
    exact ⟨rfl, rfl⟩
  | definition hline _ ih =>
    obtain ⟨rfl, rfl⟩ := ih
    rw [expand_of_definition hline]
    exact ⟨rfl, rfl⟩
  | @skipped loaded after base path line rest entries hline hskip _ ih =>
    cases hfetch : (Store.ofLoaded loaded).fetch t (Path.join base path) with
    | failed fault =>
      rw [expand_of_failed hline hfetch]
      exact ih
    | known => rwa [expand_of_known hline hfetch]
    | fresh location text =>
      obtain ⟨hlocation, -, hunknown⟩ := fetch_ofLoaded_eq_fresh_iff.mp hfetch
      exact absurd (hskip location hlocation) hunknown
  | replaced hline hlocation hread hunknown _ _ ihinside ih =>
    obtain ⟨rfl, rfl⟩ := ihinside
    obtain ⟨rfl, rfl⟩ := ih
    have hfetch := fetch_ofLoaded_eq_fresh_iff.mpr ⟨hlocation, hread, hunknown⟩
    rw [expand_of_fresh hline hfetch, List.filterMap_append, Change.loadedAfter_append]
    exact ⟨rfl, rfl⟩

theorem flattens_iff :
    t.Flattens loaded f entries after ↔
      entries = (t.expand loaded f).filterMap Change.entry? ∧
        after = Change.loadedAfter loaded (t.expand loaded f) := by
  refine ⟨Flattens.eq_expand, ?_⟩
  rintro ⟨rfl, rfl⟩
  exact flattens_expand t loaded f

end FileTree

namespace Store

/-- Loading a text leaves the voices and definitions that are left by first expanding it to a flat
list, without regard to what is declared, and then inserting this list from the first entry to the
last. So the last entry of a name in the list is found, or what was there before if there is none,
and what is found under a name has this name. -/
theorem loadText_eq_foldl_insert (s : Store) (files : FileTree) (base text : String) :
    ∃ entries after,
      (∀ others marked, files.Flattens s.loaded (.ofText base text) others marked ↔
        others = entries ∧ marked = after) ∧
      (s.loadText files base text).loaded = after ∧
      (s.loadText files base text).voices = (entries.foldl insert s).voices ∧
      (s.loadText files base text).definitions = (entries.foldl insert s).definitions ∧
      ∀ name,
        (s.loadText files base text).voice? name =
          ((entries.filterMap Sum.getLeft?).findRev? (·.name = name)).or (s.voice? name) ∧
        (s.loadText files base text).definition? name =
          ((entries.filterMap Sum.getRight?).findRev? (·.name = name)).or (s.definition? name) ∧
        (∀ v ∈ (s.loadText files base text).voice? name, v.name = name) ∧
        ∀ d ∈ (s.loadText files base text).definition? name, d.name = name := by
  have hload := Change.foldl_apply_eq (files.expand s.loaded (.ofText base text)) s
  rw [← loadText_eq_foldl] at hload
  refine ⟨_, _, fun others marked => FileTree.flattens_iff, ?_, ?_, ?_, fun name => ?_⟩
  · rw [hload]
  · rw [hload]
  · rw [hload]
  · refine ⟨?_, ?_, fun v => Catalogue.key_of_find?, fun d => Catalogue.key_of_find?⟩
    · rw [← voice?_foldl_insert, hload]
      rfl
    · rw [← definition?_foldl_insert, hload]
      rfl

end Store

end ChainScript
