import ChainScript.Proofs.Loading
import Mathlib.Data.List.Sort

/-!
# What loading comes to

Loading marks exactly the files that can be reached through includes, each once, and holds what
these declare. It does not matter in which order files are loaded.
-/

namespace ChainScript

/-! ### Catalogues with the same keys -/

namespace Catalogue

variable {α : Type} {key : α → String}

lemma mem_keys_iff {c : Catalogue key} {k : String} : k ∈ c.keys ↔ (c.find? k).isSome = true :=
  contains_iff.symm

lemma mem_keys_insert {c : Catalogue key} {a : α} {k : String} :
    k ∈ (c.insert a).keys ↔ k ∈ c.keys ∨ key a = k := by
  rw [mem_keys_iff, mem_keys_iff, find?_insert]
  split_ifs with h <;> simp [h]

/-- As keys are in order, they are determined by which there are. -/
lemma keys_eq {c d : Catalogue key} (h : ∀ k, k ∈ c.keys ↔ k ∈ d.keys) : c.keys = d.keys :=
  List.Pairwise.eq_of_mem_iff (List.pairwise_map.mpr c.sorted) (List.pairwise_map.mpr d.sorted) h

end Catalogue

/-! ### Declarations and what they add -/

namespace Declaration

/-- The name of the declared voice. -/
@[simp]
def voiceName? : Declaration → Option String
  | voice v => some v.name
  | definition _ | inclusion _ => none

/-- The name of the declared definition. -/
@[simp]
def definitionName? : Declaration → Option String
  | definition d => some d.name
  | voice _ | inclusion _ => none

end Declaration

namespace FileTree

/-- The failure that an include leads to, if it leads to no file that can be read. -/
@[simp]
def failure? (t : FileTree) : Declaration → Option Failure
  | .inclusion path => if (t.destination? path).isSome then none else some (.missing path)
  | .voice _ | .definition _ => none

/-- The failures of the includes in the file at a location, one for each line. -/
def failures (t : FileTree) (location : Location) : List Failure :=
  (t.declarations location).filterMap t.failure?

end FileTree

namespace Store

/-- No file is marked twice, and those that are marked can be read. -/
structure Tidy (files : FileTree) (s : Store) : Prop where
  nodup : s.loaded.Nodup
  readable : ∀ location ∈ s.loaded, ∃ text, files.readAt location = .ok text

variable {files : FileTree} {s t : Store}

/-- What comes of an include if the files that are marked can be read. -/
lemma fetch_cases (hs : s.Tidy files) (path : String) :
    (files.destination? path = none ∧ ∃ fault, s.fetch files path = .failed fault) ∨
      ∃ location, files.destination? path = some location ∧
        (location ∈ s.loaded ∧ s.fetch files path = .known ∨
          location ∉ s.loaded ∧ ∃ text, s.fetch files path = .fresh location text) := by
  rw [fetch, FileTree.destination?]
  cases files.locate path with
  | error fault => exact Or.inl ⟨rfl, fault, rfl⟩
  | ok location =>
    by_cases hloaded : location ∈ s.loaded
    · obtain ⟨text, hread⟩ := hs.readable location hloaded
      exact Or.inr ⟨location, by simp [hread], Or.inl ⟨hloaded, by simp [hloaded]⟩⟩
    · cases hread : files.readAt location with
      | error fault => exact Or.inl ⟨by simp [hread], fault, by simp [hloaded, hread]⟩
      | ok text =>
        exact Or.inr ⟨location, by simp [hread], Or.inr ⟨hloaded, text, by simp [hloaded, hread]⟩⟩

namespace Tidy

lemma empty (files : FileTree) : Tidy files .empty where
  nodup := .nil
  readable _ h := by cases h

lemma markLoaded (hs : s.Tidy files) {location : Location} {text : String}
    (hunknown : location ∉ s.loaded) (hread : files.readAt location = .ok text) :
    (s.markLoaded location).Tidy files where
  nodup := List.nodup_cons.mpr ⟨hunknown, hs.nodup⟩
  readable := List.forall_mem_cons.mpr ⟨⟨text, hread⟩, hs.readable⟩

lemma take (hs : s.Tidy files) (d : Declaration) : (s.take files d).Tidy files := by
  refine take_cases (fun v => ?_) (fun d => ?_) (fun path => ?_) hs
    (fun location text => hs.markLoaded) d
  all_goals exact ⟨hs.nodup, hs.readable⟩

end Tidy

/-- Beside what is in `s`, the store `t` has just the voices and definitions that are declared, the
files that the includes among the declarations lead to, and the failures of the other includes. -/
structure Adds (files : FileTree) (declared : List Declaration) (s t : Store) : Prop where
  voices : ∀ name, name ∈ t.voiceNames ↔
    name ∈ s.voiceNames ∨ ∃ d ∈ declared, d.voiceName? = some name
  definitions : ∀ name, name ∈ t.definitions.keys ↔
    name ∈ s.definitions.keys ∨ ∃ d ∈ declared, d.definitionName? = some name
  loaded : ∀ location, location ∈ t.loaded ↔
    location ∈ s.loaded ∨ ∃ d ∈ declared, files.target? d = some location
  warnings : t.warnings = s.warnings ++ declared.filterMap files.failure?

namespace Adds

variable {declared declared' : List Declaration} {u : Store}

lemma nil (files : FileTree) (s : Store) : Adds files [] s s := by
  constructor <;> simp

lemma append (hst : Adds files declared s t) (htu : Adds files declared' t u) :
    Adds files (declared ++ declared') s u where
  voices name := by
    rw [htu.voices, hst.voices, or_assoc]
    simp only [List.mem_append, or_and_right, exists_or]
  definitions name := by
    rw [htu.definitions, hst.definitions, or_assoc]
    simp only [List.mem_append, or_and_right, exists_or]
  loaded location := by
    rw [htu.loaded, hst.loaded, or_assoc]
    simp only [List.mem_append, or_and_right, exists_or]
  warnings := by
    rw [htu.warnings, hst.warnings, List.filterMap_append, List.append_assoc]

lemma insertVoice (files : FileTree) (s : Store) (v : Voice) :
    Adds files [.voice v] s (s.insertVoice v) where
  voices name := by
    rw [voiceNames, Store.insertVoice, Catalogue.mem_keys_insert]
    simp [voiceNames]
  definitions _ := by simp
  loaded _ := by simp
  warnings := by simp

lemma insertDefinition (files : FileTree) (s : Store) (d : Definition) :
    Adds files [.definition d] s (s.insertDefinition d) where
  voices _ := by simp
  definitions name := by
    rw [Store.insertDefinition, Catalogue.mem_keys_insert]
    simp
  loaded _ := by simp
  warnings := by simp

/-- An include adds the file that it leads to, or else a failure. -/
lemma inclusion (hs : s.Tidy files) (path : String) :
    Adds files [.inclusion path] s (s.take files (.inclusion path)) := by
  rcases fetch_cases hs path with
    ⟨hnone, fault, hfetch⟩ | ⟨location, hsome, ⟨hloaded, hfetch⟩ | ⟨hunknown, text, hfetch⟩⟩
  · rw [take_of_failed hfetch]
    constructor <;> simp [hnone]
  · rw [take_of_known hfetch]
    constructor <;> simp [hsome, hloaded]
  · rw [take_of_fresh hfetch]
    refine ⟨by simp, by simp, fun there => ?_, by simp [hsome]⟩
    rw [loaded_markLoaded, List.mem_cons, or_comm, eq_comm (a := there)]
    simp [hsome]

lemma take (hs : s.Tidy files) (d : Declaration) : Adds files [d] s (s.take files d) := by
  cases d with
  | voice v => exact .insertVoice files s v
  | definition d => exact .insertDefinition files s d
  | inclusion path => exact .inclusion hs path

lemma foldl_take (hs : s.Tidy files) (declared : List Declaration) :
    Adds files declared s (declared.foldl (Store.take files) s) := by
  induction declared generalizing s with
  | nil => exact .nil files s
  | cons d rest ih => exact (Adds.take hs d).append (ih (hs.take d))

end Adds

/-! ### Loading several files -/

/-- Loads the files at the paths one after the other. Those that cannot be loaded leave the store as
it is. The answer has the paths that could be loaded, and the store in the end. -/
def loadEach (files : FileTree) : List String → Store → List String × Store
  | [], s => ([], s)
  | path :: rest, s =>
    match s.load files path with
    | .error _ => loadEach files rest s
    | .ok next =>
      let (loadable, final) := loadEach files rest next
      (path :: loadable, final)

/-- The store holds just what loading the files at the paths comes to: the files that can be reached
from there, each once, and what they declare. -/
structure Holds (files : FileTree) (paths : List String) (s : Store) : Prop where
  once : s.loaded.Nodup
  loaded : ∀ location, location ∈ s.loaded ↔
    ∃ path ∈ paths, ∃ root, files.destination? path = some root ∧ files.Reaches root location
  voices : ∀ name, name ∈ s.voiceNames ↔
    ∃ location ∈ s.loaded, ∃ d ∈ files.declarations location, d.voiceName? = some name
  definitions : ∀ name, name ∈ s.definitions.keys ↔
    ∃ location ∈ s.loaded, ∃ d ∈ files.declarations location, d.definitionName? = some name
  warnings : s.warnings.Perm (s.loaded.flatMap files.failures)

lemma load_of_known {path : String} {location : Location}
    (hlocate : files.locate path = .ok location) (hloaded : location ∈ s.loaded) :
    s.load files path = .ok s := by
  have hfetch : s.fetch files path = .known := by simp [fetch, hlocate, hloaded]
  rw [load, hfetch]

/-- A file can be loaded if the path leads to a file that can be read, whatever has been loaded
before. -/
lemma load_cases (hs : s.Tidy files) (path : String) :
    (files.destination? path = none ∧ ∃ failure, s.load files path = .error failure) ∨
      (files.destination? path).isSome = true ∧ ∃ t, s.load files path = .ok t := by
  rcases fetch_cases hs path with
    ⟨hnone, fault, hfetch⟩ | ⟨location, hsome, ⟨-, hfetch⟩ | ⟨-, text, hfetch⟩⟩
  · exact Or.inl ⟨hnone, _, by rw [load, hfetch]⟩
  · exact Or.inr ⟨by rw [hsome, Option.isSome_some], _, by rw [load, hfetch]⟩
  · exact Or.inr ⟨by rw [hsome, Option.isSome_some], _, by rw [load, hfetch]⟩

lemma Loads.tidy {todo taken : List Declaration} {fresh : List Location}
    (h : Loads files todo s taken fresh t) (hs : s.Tidy files) : t.Tidy files :=
  h.keeps (fun _ d hs => hs.take d) hs

/-- Loading several files is including those that can be loaded. -/
lemma loads_loadEach (files : FileTree) (paths : List String) (s : Store) :
    ∃ taken fresh, Loads files ((loadEach files paths s).1.map .inclusion) s taken fresh
      (loadEach files paths s).2 := by
  induction paths generalizing s with
  | nil => exact ⟨[], [], .nil files s⟩
  | cons path rest ih =>
    rw [loadEach]
    cases hload : s.load files path with
    | error failure => exact ih s
    | ok next =>
      obtain ⟨_, _, hfirst⟩ := loads_load hload
      obtain ⟨_, _, hrest⟩ := ih next
      exact ⟨_, _, hfirst.append hrest⟩

lemma loadable_eq_filter (hs : s.Tidy files) (paths : List String) :
    (loadEach files paths s).1 = paths.filter fun path => (files.destination? path).isSome := by
  induction paths generalizing s with
  | nil => rfl
  | cons path rest ih =>
    rw [loadEach, List.filter_cons]
    rcases load_cases hs path with ⟨hnone, failure, hload⟩ | ⟨hsome, next, hload⟩
    · simp only [hload, hnone, Option.isSome_none, Bool.false_eq_true, if_false]
      exact ih hs
    · obtain ⟨_, _, hfirst⟩ := loads_load hload
      simp only [hload, hsome, if_true]
      rw [ih (hfirst.tidy hs)]

namespace Loads

variable {paths : List String} {taken : List Declaration} {fresh : List Location}

/-- What has been taken is what the files declare, and the includes of the paths. -/
lemma taken_perm (h : Loads files (paths.map .inclusion) .empty taken fresh s) :
    taken.Perm (paths.map .inclusion ++ s.loaded.flatMap files.declarations) := by
  have hfresh : s.loaded = fresh := h.loaded.trans (List.append_nil _)
  rw [hfresh]
  exact h.taken

/-- As includes have no names, a name is declared by what has been taken if it is declared by one
of the files. -/
lemma exists_taken_iff (h : Loads files (paths.map .inclusion) .empty taken fresh s)
    {name? : Declaration → Option String} (hname? : ∀ path, name? (.inclusion path) = none)
    (name : String) : (∃ d ∈ taken, name? d = some name) ↔
      ∃ location ∈ s.loaded, ∃ d ∈ files.declarations location, name? d = some name := by
  constructor
  · rintro ⟨d, hd, hname⟩
    rcases List.mem_append.mp (h.taken_perm.mem_iff.mp hd) with hroot | hdeclared
    · obtain ⟨path, -, rfl⟩ := List.mem_map.mp hroot
      rw [hname?] at hname
      cases hname
    · obtain ⟨location, hlocation, hd⟩ := List.mem_flatMap.mp hdeclared
      exact ⟨location, hlocation, d, hd, hname⟩
  · rintro ⟨location, hlocation, d, hd, hname⟩
    have hdeclared := List.mem_flatMap.mpr ⟨location, hlocation, hd⟩
    exact ⟨d, h.taken_perm.mem_iff.mpr (List.mem_append_right _ hdeclared), hname⟩

theorem holds (h : Loads files (paths.map .inclusion) .empty taken fresh s)
    (hpaths : ∀ path ∈ paths, (files.destination? path).isSome = true) :
    s.Holds files paths := by
  have hadds : Adds files taken .empty s := by
    rw [h.result]
    exact .foldl_take (.empty files) taken
  have htarget : ∀ d ∈ paths.map .inclusion ++ s.loaded.flatMap files.declarations,
      ∀ location, files.target? d = some location → location ∈ s.loaded := by
    intro d hd location hlocation
    exact (hadds.loaded location).mpr (Or.inr ⟨d, h.taken_perm.mem_iff.mpr hd, hlocation⟩)
  refine ⟨(h.tidy (.empty files)).nodup, fun location => ⟨fun hlocation => ?_, ?_⟩,
    fun name => ?_, fun name => ?_, ?_⟩
  · have hfresh : s.loaded = fresh := h.loaded.trans (List.append_nil _)
    obtain ⟨d, hd, root, hroot, hreaches⟩ := h.reached location (hfresh ▸ hlocation)
    obtain ⟨path, hpath, rfl⟩ := List.mem_map.mp hd
    exact ⟨path, hpath, root, hroot, hreaches⟩
  · rintro ⟨path, hpath, root, hroot, hreaches⟩
    induction hreaches with
    | refl =>
      have hinclusion := List.mem_map_of_mem (f := Declaration.inclusion) hpath
      exact htarget _ (List.mem_append_left _ hinclusion) root hroot
    | @tail here there _ hincludes hhere =>
      obtain ⟨d, hd, hthere⟩ := hincludes
      have hdeclared := List.mem_flatMap.mpr ⟨here, hhere, hd⟩
      exact htarget d (List.mem_append_right _ hdeclared) there hthere
  · rw [hadds.voices, h.exists_taken_iff (fun _ => rfl)]
    exact or_iff_right List.not_mem_nil
  · rw [hadds.definitions, h.exists_taken_iff (fun _ => rfl)]
    exact or_iff_right List.not_mem_nil
  · have hroots : (paths.map Declaration.inclusion).filterMap files.failure? = [] := by
      rw [List.filterMap_map, List.filterMap_eq_nil_iff]
      intro path hpath
      exact if_pos (hpaths path hpath)
    have hwarnings := h.taken_perm.filterMap files.failure?
    rw [List.filterMap_append, hroots, List.nil_append, List.filterMap_flatMap] at hwarnings
    rw [hadds.warnings]
    exact hwarnings

end Loads

namespace Holds

/-- What a store holds is determined by the paths, up to the order in which files are marked and
failures are noted. -/
theorem unique {paths paths' : List String} (hs : s.Holds files paths) (ht : t.Holds files paths')
    (hpaths : ∀ path, path ∈ paths ↔ path ∈ paths') :
    s.loaded.Perm t.loaded ∧ s.voiceNames = t.voiceNames ∧
      s.definitions.keys = t.definitions.keys ∧ s.warnings.Perm t.warnings := by
  have hmem : ∀ location, location ∈ s.loaded ↔ location ∈ t.loaded := by
    intro location
    rw [hs.loaded, ht.loaded]
    simp only [hpaths]
  have hloaded : s.loaded.Perm t.loaded :=
    (List.perm_ext_iff_of_nodup hs.once ht.once).mpr hmem
  refine ⟨hloaded, ?_, ?_, ?_⟩
  · refine Catalogue.keys_eq fun name => (hs.voices name).trans (Iff.trans ?_ (ht.voices name).symm)
    simp only [hmem]
  · refine Catalogue.keys_eq fun name =>
      (hs.definitions name).trans (Iff.trans ?_ (ht.definitions name).symm)
    simp only [hmem]
  · exact hs.warnings.trans ((hloaded.flatMap_right _).trans ht.warnings.symm)

end Holds

/-- Loading files one after the other loads those that can be read, marks exactly the files that can
be reached from them, each once, and holds what these declare, with one failure for each include
that leads nowhere. A file that is marked can be loaded again by any path that leads to it, without
any change. Loading the same files in another order, or some of them repeatedly, comes to the
same. -/
theorem loadEach_exact (files : FileTree) (paths : List String) :
    let loadable := (loadEach files paths .empty).1
    let s := (loadEach files paths .empty).2
    loadable = paths.filter (fun path => (files.destination? path).isSome) ∧
      s.Holds files loadable ∧
      (∀ path location, files.locate path = .ok location → location ∈ s.loaded →
        s.load files path = .ok s) ∧
      ∀ paths', (∀ path, path ∈ paths' ↔ path ∈ paths) →
        let t := (loadEach files paths' .empty).2
        s.loaded.Perm t.loaded ∧ s.voiceNames = t.voiceNames ∧
          s.definitions.keys = t.definitions.keys ∧ s.warnings.Perm t.warnings := by
  have hfilter := loadable_eq_filter (.empty files)
  have hholds : ∀ paths, (loadEach files paths .empty).2.Holds files
      (loadEach files paths .empty).1 := by
    intro paths
    obtain ⟨_, _, hloads⟩ := loads_loadEach files paths .empty
    refine hloads.holds fun path hpath => ?_
    rw [hfilter] at hpath
    exact (List.mem_filter.mp hpath).2
  refine ⟨hfilter paths, hholds paths, fun path location => load_of_known, fun paths' hpaths => ?_⟩
  refine (hholds paths).unique (hholds paths') fun path => ?_
  rw [hfilter, hfilter, List.mem_filter, List.mem_filter, hpaths]

end Store

namespace Mutual

/-- Two files that include each other. One of them has another include that leads nowhere. -/
def files : FileTree where
  entries := [
    (["a.voices"], .file (some "include b.voices\nvoice a / true\ninclude c.voices")),
    (["b.voices"], .file (some "include ./a.voices\nvoice b / false"))]

/-- The store after loading one file, and trying to load another. -/
def store : Store := (Store.loadEach files ["/a.voices", "/c.voices"] .empty).2

lemma loadable :
    (Store.loadEach files ["/a.voices", "/c.voices"] .empty).1 = ["/a.voices"] := by
  rw [Store.loadable_eq_filter (.empty files)]
  rfl

theorem loadEach_exact_mutual :
    files.locate "/.//b.voices" = .ok ["b.voices"] ∧ ["b.voices"] ∈ store.loaded ∧
      store.load files "/.//b.voices" = .ok store := by
  have hlocate : files.locate "/.//b.voices" = .ok ["b.voices"] := by rfl
  have hincludes : files.Includes ["a.voices"] ["b.voices"] :=
    ⟨.inclusion "/b.voices", List.mem_cons_self .., by rfl⟩
  obtain ⟨-, hholds, hagain, -⟩ := Store.loadEach_exact files ["/a.voices", "/c.voices"]
  rw [loadable] at hholds
  have hloaded : ["b.voices"] ∈ store.loaded := (hholds.loaded _).mpr
    ⟨"/a.voices", List.mem_singleton_self _, ["a.voices"], by rfl, .single hincludes⟩
  exact ⟨hlocate, hloaded, hagain _ _ hlocate hloaded⟩

end Mutual

end ChainScript
