import ChainScript.Proofs.Inclusions
import ChainScript.Proofs.Independence
import ChainScript.Proofs.Reporting

/-!
# Loading the definition files of the root

Loading the definition files of the root loads each of them that can be read, with what it
includes, and notes just those that cannot be read. It does so once, for a context that loads
lazily. A context that does not is set up as if its root had been loaded, and then nothing loads it.
-/

namespace ChainScript

/-! ### Stores that have loaded a file -/

namespace Store

/-- The file at the location has been loaded with all that it says: the store has its voices and
definitions, the files that it includes, and the failures of its other includes. -/
structure Contains (files : FileTree) (s : Store) (location : Location) : Prop where
  marked : location ∈ s.loaded
  voices : ∀ d ∈ files.declarations location, ∀ name, d.voiceName? = some name →
    name ∈ s.voiceNames
  definitions : ∀ d ∈ files.declarations location, ∀ name, d.definitionName? = some name →
    name ∈ s.definitions.keys
  includes : ∀ d ∈ files.declarations location, ∀ there, files.target? d = some there →
    there ∈ s.loaded
  failures : ∀ failure ∈ files.failures location, failure ∈ s.warnings

/-- Each file that is marked has been loaded with all that it says. -/
structure Complete (files : FileTree) (s : Store) : Prop where
  tidy : s.Tidy files
  contains : ∀ location ∈ s.loaded, s.Contains files location

variable {files : FileTree} {s t : Store} {declared : List Declaration} {location : Location}
  {path reason : String}

namespace Adds

/-- What a store contains it still contains when something is added. -/
lemma contains_of_contains (h : Adds files declared s t) (hs : s.Contains files location) :
    t.Contains files location where
  marked := (h.loaded location).mpr (Or.inl hs.marked)
  voices d hd name hname := (h.voices name).mpr (Or.inl (hs.voices d hd name hname))
  definitions d hd name hname :=
    (h.definitions name).mpr (Or.inl (hs.definitions d hd name hname))
  includes d hd there hthere := (h.loaded there).mpr (Or.inl (hs.includes d hd there hthere))
  failures failure hfailure := by
    rw [h.warnings]
    exact List.mem_append_left _ (hs.failures failure hfailure)

/-- A file whose declarations have been added is contained. -/
lemma contains_of_subset (h : Adds files declared s t) (hmarked : location ∈ t.loaded)
    (hdeclared : files.declarations location ⊆ declared) : t.Contains files location where
  marked := hmarked
  voices d hd name hname := (h.voices name).mpr (Or.inr ⟨d, hdeclared hd, hname⟩)
  definitions d hd name hname := (h.definitions name).mpr (Or.inr ⟨d, hdeclared hd, hname⟩)
  includes d hd there hthere := (h.loaded there).mpr (Or.inr ⟨d, hdeclared hd, hthere⟩)
  failures failure hfailure := by
    obtain ⟨d, hd, hfailed⟩ := List.mem_filterMap.mp hfailure
    rw [h.warnings]
    exact List.mem_append_right _ (List.mem_filterMap.mpr ⟨d, hdeclared hd, hfailed⟩)

/-- A failure to read a file is no failure of an include. -/
lemma unreadable_mem_iff (h : Adds files declared s t) :
    .unreadable path reason ∈ t.warnings ↔ .unreadable path reason ∈ s.warnings := by
  have hdeclared : .unreadable path reason ∉ declared.filterMap files.failure? := by
    intro hmem
    obtain ⟨d, -, hd⟩ := List.mem_filterMap.mp hmem
    cases d with
    | voice v => cases hd
    | definition d => cases hd
    | inclusion other =>
      rw [FileTree.failure?] at hd
      split_ifs at hd
      cases hd
  rw [h.warnings, List.mem_append]
  exact or_iff_left hdeclared

end Adds

namespace Loads

variable {todo taken : List Declaration} {fresh : List Location}

lemma adds (h : Loads files todo s taken fresh t) (hs : s.Tidy files) : Adds files taken s t := by
  rw [h.result]
  exact .foldl_take hs taken

lemma complete (h : Loads files todo s taken fresh t) (hs : s.Complete files) :
    t.Complete files where
  tidy := h.tidy hs.tidy
  contains location hlocation := by
    have hadds := h.adds hs.tidy
    rcases List.mem_append.mp (h.loaded ▸ hlocation) with hfresh | hold
    · refine hadds.contains_of_subset hlocation fun d hd => h.taken.mem_iff.mpr ?_
      exact List.mem_append_right _ (List.mem_flatMap.mpr ⟨location, hfresh, hd⟩)
    · exact hadds.contains_of_contains (hs.contains location hold)

end Loads

lemma Complete.empty (files : FileTree) : Complete files .empty where
  tidy := .empty files
  contains _ h := by cases h

/-- If the files that are marked can be read, a file cannot be loaded for the one reason that it
cannot be read. -/
lemma Tidy.fetch_eq_failed_iff (hs : s.Tidy files) {fault : FileFault} :
    s.fetch files path = .failed fault ↔
      (files.locate path).bind files.readAt = .error fault := by
  rw [fetch]
  cases files.locate path with
  | error other => simp [Except.bind]
  | ok location =>
    dsimp only [Except.bind]
    split_ifs with hloaded
    · obtain ⟨text, hread⟩ := hs.readable location hloaded
      simp [hread]
    · cases files.readAt location <;> simp

end Store

/-! ### Definition files, one after the other -/

namespace FileTree

variable {files : FileTree} {path : String}

/-- A path to a file is short enough to be opened. -/
lemma read_of_isFile (h : files.isFile path = true) :
    files.read path = (files.locate path).bind files.readAt := by
  rw [isFile, openPath] at h
  rw [read, openPath]
  split_ifs at h ⊢
  rfl

end FileTree

namespace Context

variable {files : FileTree} {s : Store} {path reason : String}

/-- A definition file is loaded or noted. -/
lemma loadDefault_cases (hs : s.Tidy files) (path : String) :
    (∃ location taken fresh, files.destination? path = some location ∧
        location ∈ (loadDefault files s path).loaded ∧
        Store.Loads files [.inclusion path] s taken fresh (loadDefault files s path)) ∨
      ∃ fault, (files.locate path).bind files.readAt = .error fault ∧
        loadDefault files s path = s.warn (.unreadable path fault.message) := by
  rw [loadDefault]
  cases hload : s.load files path with
  | error failure =>
    obtain ⟨fault, hfetch, rfl, -⟩ := Store.of_load_eq_error hload
    exact Or.inr ⟨fault, hs.fetch_eq_failed_iff.mp hfetch, rfl⟩
  | ok t =>
    rcases Store.load_cases hs path with ⟨-, failure, herror⟩ | ⟨hsome, -⟩
    · rw [hload] at herror
      cases herror
    · obtain ⟨location, hlocation⟩ := Option.isSome_iff_exists.mp hsome
      obtain ⟨taken, fresh, hloads⟩ := Store.loads_load hload
      have htaken : .inclusion path ∈ taken :=
        hloads.taken.mem_iff.mpr (List.mem_append_left _ (List.mem_singleton_self _))
      exact Or.inl ⟨location, taken, fresh, hlocation,
        ((hloads.adds hs).loaded location).mpr (Or.inr ⟨_, htaken, hlocation⟩), hloads⟩

lemma complete_loadDefault (hs : s.Complete files) (path : String) :
    (loadDefault files s path).Complete files := by
  rcases loadDefault_cases hs.tidy path with ⟨_, _, _, -, -, hloads⟩ | ⟨fault, -, hnoted⟩
  · exact hloads.complete hs
  · rw [hnoted]
    refine ⟨⟨hs.tidy.nodup, hs.tidy.readable⟩, fun location hlocation => ?_⟩
    obtain ⟨hmarked, hvoices, hdefinitions, hincludes, hfailures⟩ := hs.contains location hlocation
    exact ⟨hmarked, hvoices, hdefinitions, hincludes,
      fun failure hfailure => List.mem_append_left _ (hfailures failure hfailure)⟩

lemma complete_foldl_loadDefault (hs : s.Complete files) (paths : List String) :
    (paths.foldl (loadDefault files) s).Complete files :=
  List.foldlRecOn paths (loadDefault files) hs fun _ hs path _ => complete_loadDefault hs path

lemma loaded_subset_foldl (paths : List String) (s : Store) :
    s.loaded ⊆ (paths.foldl (loadDefault files) s).loaded := by
  induction paths generalizing s with
  | nil => exact List.Subset.refl _
  | cons path rest ih =>
    refine List.Subset.trans ?_ (ih (loadDefault files s path))
    rw [loaded_loadDefault]
    exact Change.subset_loadedAfter _ _

/-- Each of the files that can be read has been loaded in the end. -/
lemma mem_loaded_foldl (hs : s.Complete files) {paths : List String} (hpath : path ∈ paths)
    {location : Location} (hlocation : files.destination? path = some location) :
    location ∈ (paths.foldl (loadDefault files) s).loaded := by
  induction paths generalizing s with
  | nil => cases hpath
  | cons first rest ih =>
    rcases List.mem_cons.mp hpath with rfl | hrest
    · -- the files after it leave marked what is marked
      apply loaded_subset_foldl rest
      rcases loadDefault_cases hs.tidy path with
        ⟨there, _, _, hthere, hloaded, -⟩ | ⟨fault, hfault, -⟩
      · cases hlocation.symm.trans hthere
        exact hloaded
      · obtain ⟨hlocate, text, hread⟩ := FileTree.destination?_eq_some_iff.mp hlocation
        rw [hlocate, Except.bind, hread] at hfault
        cases hfault
    · exact ih (complete_loadDefault hs first) hrest

lemma unreadable_mem_loadDefault_iff (hs : s.Tidy files) (first : String) :
    .unreadable path reason ∈ (loadDefault files s first).warnings ↔
      .unreadable path reason ∈ s.warnings ∨ path = first ∧ ∃ fault,
        (files.locate path).bind files.readAt = .error fault ∧ reason = fault.message := by
  rcases loadDefault_cases hs first with
    ⟨location, _, _, hlocation, -, hloads⟩ | ⟨fault, hfault, hnoted⟩
  · rw [(hloads.adds hs).unreadable_mem_iff, iff_self_or]
    rintro ⟨rfl, fault, hfault, -⟩
    obtain ⟨hlocate, text, hread⟩ := FileTree.destination?_eq_some_iff.mp hlocation
    rw [hlocate, Except.bind, hread] at hfault
    cases hfault
  · rw [hnoted, Store.warnings_warn, List.mem_append, List.mem_singleton]
    refine or_congr_right ⟨fun heq => ?_, ?_⟩
    · cases heq
      exact ⟨rfl, fault, hfault, rfl⟩
    · rintro ⟨rfl, other, hother, rfl⟩
      cases hfault.symm.trans hother
      rfl

/-- Exactly those of the files that cannot be read are noted. -/
lemma unreadable_mem_foldl_iff (hs : s.Complete files) (paths : List String) :
    .unreadable path reason ∈ (paths.foldl (loadDefault files) s).warnings ↔
      .unreadable path reason ∈ s.warnings ∨ path ∈ paths ∧ ∃ fault,
        (files.locate path).bind files.readAt = .error fault ∧ reason = fault.message := by
  induction paths generalizing s with
  | nil => simp
  | cons first rest ih =>
    rw [List.foldl_cons, ih (complete_loadDefault hs first),
      unreadable_mem_loadDefault_iff hs.tidy, or_assoc, ← or_and_right, List.mem_cons]

end Context

/-! ### The definition files of the root -/

namespace Config

/-- The path leads to a definition file directly under the root. -/
def Finds (c : Config) (files : FileTree) (path : String) : Prop :=
  ∃ names, files.list c.root = .ok names ∧ path ∈ names.map (Path.join c.root) ∧
    c.isDefinitionFile files path = true

variable {c : Config} {files : FileTree} {path : String}

lemma mem_definitionFiles_iff {paths : List String} (h : c.definitionFiles files = .ok paths) :
    path ∈ paths ↔ c.Finds files path := by
  rw [definitionFiles] at h
  rw [Finds]
  cases hlist : files.list c.root with
  | error fault =>
    rw [hlist] at h
    cases h
  | ok names =>
    rw [hlist] at h
    cases h
    simp only [List.mem_filter, List.mem_map, List.mem_mergeSort, Except.ok.injEq,
      exists_eq_left']

lemma definitionFiles_eq_error_iff {fault : FileFault} :
    c.definitionFiles files = .error fault ↔ files.list c.root = .error fault := by
  rw [definitionFiles]
  cases files.list c.root with
  | error other => rfl
  | ok names => exact iff_of_false (by rintro ⟨⟩) (by rintro ⟨⟩)

lemma Finds.read_eq (h : c.Finds files path) :
    files.read path = (files.locate path).bind files.readAt := by
  obtain ⟨names, -, -, hdefinition⟩ := h
  exact FileTree.read_of_isFile ((Bool.and_eq_true ..).mp hdefinition).1

end Config

namespace Context

/-- The context has been set up and then perhaps been given files, texts and primitives, but nothing
has been executed and the definition files of the root have not been asked for. -/
inductive Prepared (files : FileTree) : Context → Prop
  | ofConfig (config : Config) : Prepared files (.ofConfig config)
  | load {c c' : Context} {path : String} (hc : Prepared files c)
      (hload : c.load files path = .ok c') : Prepared files c'
  | loadText {c : Context} (text : String) (hc : Prepared files c) :
      Prepared files (c.loadText files text)
  | register {c : Context} (name : String) (p : Primitive) (hc : Prepared files c) :
      Prepared files (c.register name p)

/-- The context has what there is under the root. -/
structure CoversRoot (c : Context) (files : FileTree) : Prop where
  /-- Each definition file that can be read has been loaded. -/
  readable : ∀ path text, c.config.Finds files path → files.read path = .ok text →
    ∃ location, files.locate path = .ok location ∧ c.store.Contains files location
  /-- Just the other definition files are noted, and the root if it cannot be listed. -/
  unreadable : ∀ path reason, .unreadable path reason ∈ c.store.warnings ↔
    ∃ fault, reason = fault.message ∧
      (c.config.Finds files path ∧ files.read path = .error fault ∨
        path = c.config.root ∧ files.list path = .error fault)
  /-- If the root cannot be listed, this is noted once. -/
  once : ∀ fault, files.list c.config.root = .error fault →
    c.store.warnings.count (.unreadable c.config.root fault.message) = 1

variable {files : FileTree} {c : Context}

/-- If the root can be listed, its definition files are loaded or noted. -/
lemma coversRoot_of_listed {paths : List String} (hcomplete : c.store.Complete files)
    (hnone : ∀ path reason, .unreadable path reason ∉ c.store.warnings)
    (hpaths : c.config.definitionFiles files = .ok paths) :
    CoversRoot { c with store := paths.foldl (loadDefault files) c.store } files := by
  have hlist : ∀ fault, files.list c.config.root ≠ .error fault := fun fault hfault => by
    cases hpaths.symm.trans (Config.definitionFiles_eq_error_iff.mpr hfault)
  refine ⟨fun path text hfinds hread => ?_, fun path reason => ?_,
    fun fault hfault => absurd hfault (hlist fault)⟩
  · rw [hfinds.read_eq] at hread
    cases hlocate : files.locate path with
    | error fault =>
      rw [hlocate] at hread
      cases hread
    | ok location =>
      rw [hlocate] at hread
      have hlocation : files.destination? path = some location :=
        FileTree.destination?_eq_some_iff.mpr ⟨hlocate, text, hread⟩
      have hmarked := mem_loaded_foldl hcomplete
        ((Config.mem_definitionFiles_iff hpaths).mpr hfinds) hlocation
      exact ⟨location, rfl,
        (complete_foldl_loadDefault hcomplete paths).contains location hmarked⟩
  · rw [unreadable_mem_foldl_iff hcomplete paths, or_iff_right (hnone path reason),
      Config.mem_definitionFiles_iff hpaths]
    constructor
    · rintro ⟨hfinds, fault, hfault, hreason⟩
      exact ⟨fault, hreason, Or.inl ⟨hfinds, hfinds.read_eq.trans hfault⟩⟩
    · rintro ⟨fault, hreason, ⟨hfinds, hfault⟩ | ⟨rfl, hfault⟩⟩
      · exact ⟨hfinds, fault, hfinds.read_eq.symm.trans hfault, hreason⟩
      · exact absurd hfault (hlist fault)

/-- If the root cannot be listed, there is nothing to load. -/
lemma coversRoot_of_unlisted {fault : FileFault}
    (hnone : ∀ path reason, .unreadable path reason ∉ c.store.warnings)
    (hlist : files.list c.config.root = .error fault) :
    CoversRoot { c with store := c.store.warn (.unreadable c.config.root fault.message) }
      files := by
  have hfinds : ∀ path, ¬ c.config.Finds files path := by
    rintro path ⟨names, hnames, -⟩
    cases hlist.symm.trans hnames
  refine ⟨fun path _ hpath => absurd hpath (hfinds path), fun path reason => ?_,
    fun other hother => ?_⟩
  · rw [Store.warnings_warn, List.mem_append, List.mem_singleton, or_iff_right (hnone path reason)]
    constructor
    · intro heq
      cases heq
      exact ⟨fault, rfl, Or.inr ⟨rfl, hlist⟩⟩
    · rintro ⟨other, rfl, ⟨hpath, -⟩ | ⟨rfl, hother⟩⟩
      · exact absurd hpath (hfinds path)
      · cases hlist.symm.trans hother
        rfl
  · cases hlist.symm.trans hother
    rw [Store.warnings_warn, List.count_append, List.count_eq_zero.mpr (hnone _ _),
      List.count_singleton_self]

namespace Prepared

lemma defaultsLoaded (hc : c.Prepared files) : c.defaultsLoaded = !c.config.lazyLoad := by
  induction hc with
  | ofConfig config => rfl
  | load _ hload ih =>
    obtain ⟨store, -, rfl⟩ := of_load_eq_ok hload
    exact ih
  | loadText text _ ih => exact ih
  | register name p _ ih => exact ih

/-- What has been loaded so far has been loaded completely, and no file was noted that cannot be
read. -/
lemma complete_store (hc : c.Prepared files) : c.store.Complete files ∧
    ∀ path reason, .unreadable path reason ∉ c.store.warnings := by
  have hloads : ∀ {s t : Store} {todo taken fresh},
      s.Complete files ∧ (∀ path reason, .unreadable path reason ∉ s.warnings) →
        Store.Loads files todo s taken fresh t →
          t.Complete files ∧ ∀ path reason, .unreadable path reason ∉ t.warnings := by
    rintro s t todo taken fresh ⟨hcomplete, hnone⟩ h
    refine ⟨h.complete hcomplete, fun path reason => ?_⟩
    rw [(h.adds hcomplete.tidy).unreadable_mem_iff]
    exact hnone path reason
  induction hc with
  | ofConfig config => exact ⟨.empty files, fun _ _ => List.not_mem_nil⟩
  | load _ hload ih =>
    obtain ⟨store, hstore, rfl⟩ := of_load_eq_ok hload
    obtain ⟨_, _, h⟩ := Store.loads_load hstore
    exact hloads ih h
  | @loadText c text _ ih =>
    obtain ⟨_, _, h⟩ := Store.loads_loadFrames files [.ofText c.config.root text] c.store
    exact hloads ih h
  | register name p _ ih => exact ih

/-- If the root is loaded, nothing under it is missed. -/
lemma coversRoot (hc : c.Prepared files) (hlazy : c.config.lazyLoad = true) :
    (c.loadDefaults files).CoversRoot files := by
  obtain ⟨hcomplete, hnone⟩ := hc.complete_store
  have hpending : ¬ c.defaultsLoaded = true := by
    rw [hc.defaultsLoaded, hlazy]
    decide
  rw [loadDefaults, if_neg hpending, loadRoot]
  cases hpaths : c.config.definitionFiles files with
  | ok paths =>
    exact coversRoot_of_listed (c := { c with defaultsLoaded := true }) hcomplete hnone hpaths
  | error fault =>
    exact coversRoot_of_unlisted (c := { c with defaultsLoaded := true }) hnone
      (Config.definitionFiles_eq_error_iff.mp hpaths)

end Prepared

/-- A context that loads lazily has what there is under the root once it has been told to load it.
For a context that does not load lazily this has no effect at all. Either way, it has no effect a
second time. -/
theorem loadDefaults_covers_root (hc : c.Prepared files) :
    (c.config.lazyLoad = true → (c.loadDefaults files).CoversRoot files) ∧
      (c.config.lazyLoad = false → ∀ later, c.loadDefaults later = c) ∧
      ∀ later, (c.loadDefaults files).loadDefaults later = c.loadDefaults files := by
  refine ⟨hc.coversRoot, fun heager later => ?_,
    loadDefaults_of_loaded (defaultsLoaded_loadDefaults c files)⟩
  have hloaded : c.defaultsLoaded = true := by rw [hc.defaultsLoaded, heager, Bool.not_false]
  exact loadDefaults_of_loaded hloaded later

end Context

namespace Shelf

/-- A file that includes one outside the root, and one that is no text. -/
def files : FileTree where
  entries := [
    (["shelf"], .directory),
    (["shelf", "a.voices"], .file (some "include ../b.voices\nvoice a / true")),
    (["shelf", "c.voices"], .file none),
    (["b.voices"], .file (some "voice b / false"))]

/-- The root is the directory. -/
def config (lazyLoad : Bool) : Config :=
  { root := "/shelf", lazyLoad }

lemma finds (lazyLoad : Bool) {name : String} (hname : name = "a.voices" ∨ name = "c.voices") :
    (config lazyLoad).Finds files (Path.join "/shelf" name) := by
  have hlist : files.list "/shelf" = .ok ["a.voices", "c.voices"] := by rfl
  refine ⟨["a.voices", "c.voices"], hlist, List.mem_map_of_mem ?_, ?_⟩
  · simpa using hname
  · rcases hname with rfl | rfl <;> rfl

/-- A context that loads lazily and has loaded the other file before. -/
def context : Context :=
  (Context.ofConfig (config true)).loadText files "include ../b.voices"

theorem loadDefaults_covers_root_shelf :
    context.Prepared files ∧ (context.loadDefaults files).CoversRoot files ∧
      .unreadable "/shelf/c.voices" FileFault.notText.message ∈
        (context.loadDefaults files).store.warnings := by
  have hprepared : context.Prepared files := .loadText _ (.ofConfig _)
  have hcovers := (Context.loadDefaults_covers_root hprepared).1 rfl
  have hread : files.read "/shelf/c.voices" = .error .notText := by rfl
  exact ⟨hprepared, hcovers, (hcovers.unreadable _ _).mpr
    ⟨.notText, rfl, Or.inl ⟨finds true (Or.inr rfl), hread⟩⟩⟩

/-- If the context does not load lazily, then even the first time it is told to load its root it
misses a file that can be read. -/
theorem not_coversRoot_shelf :
    (Context.ofConfig (config false)).Prepared files ∧
      (config false).Finds files "/shelf/a.voices" ∧
      files.read "/shelf/a.voices" = .ok "include ../b.voices\nvoice a / true" ∧
      ((Context.ofConfig (config false)).loadDefaults files).store.loaded = [] ∧
      ¬ ((Context.ofConfig (config false)).loadDefaults files).CoversRoot files := by
  have hfinds := finds false (Or.inl rfl)
  have hread : files.read "/shelf/a.voices" = .ok "include ../b.voices\nvoice a / true" := by rfl
  refine ⟨.ofConfig _, hfinds, hread, rfl, fun hcovers => ?_⟩
  obtain ⟨location, -, hcontains⟩ := hcovers.readable _ _ hfinds hread
  exact List.not_mem_nil hcontains.marked

end Shelf

end ChainScript
