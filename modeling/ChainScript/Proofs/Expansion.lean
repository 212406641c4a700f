import ChainScript.Proofs.Loading

/-!
# Includes in place

A text with includes stands for a longer one without: the lines of a file that is included take the
place of the line that includes it, unless the file has been loaded before. What loading does to the
store is what the lines of this longer text do, from the first to the last.
-/

namespace ChainScript

/-- What a line of a text comes to when the text is loaded. -/
inductive Change where
  | voice (v : Voice)
  | definition (d : Definition)
  /-- A file that was not loaded before is read from here on. -/
  | opened (location : Location)
  /-- An include leads to no file that can be read. -/
  | failed (path : String)

namespace Change

/-- The store after the change. -/
def apply (s : Store) : Change → Store
  | voice v => s.insertVoice v
  | definition d => s.insertDefinition d
  | opened location => s.markLoaded location
  | failed path => s.warn (.missing path)

/-- The failure that is noted. -/
def failure? : Change → Option Failure
  | failed path => some (.missing path)
  | voice _ | definition _ | opened _ => none

/-- The file that is marked. -/
def location? : Change → Option Location
  | opened location => some location
  | voice _ | definition _ | failed _ => none

/-- The files that are marked after changes, the last one first. -/
def loadedAfter (loaded : List Location) (changes : List Change) : List Location :=
  changes.foldl (fun loaded change => change.location?.toList ++ loaded) loaded

lemma subset_loadedAfter (loaded : List Location) (changes : List Change) :
    loaded ⊆ loadedAfter loaded changes := by
  induction changes generalizing loaded with
  | nil => exact List.Subset.refl _
  | cons change rest ih => exact List.Subset.trans (List.subset_append_right _ _) (ih _)

lemma loadedAfter_append (loaded : List Location) (changes more : List Change) :
    loadedAfter loaded (changes ++ more) = loadedAfter (loadedAfter loaded changes) more :=
  List.foldl_append

lemma loaded_foldl_apply (changes : List Change) (s : Store) :
    (changes.foldl apply s).loaded = loadedAfter s.loaded changes := by
  induction changes generalizing s with
  | nil => rfl
  | cons change rest ih =>
    rw [List.foldl_cons, ih]
    cases change <;> rfl

lemma warnings_foldl_apply (changes : List Change) (s : Store) :
    (changes.foldl apply s).warnings = s.warnings ++ changes.filterMap failure? := by
  induction changes generalizing s with
  | nil => simp
  | cons change rest ih =>
    rw [List.foldl_cons, ih]
    cases change with
    | voice v => rfl
    | definition d => rfl
    | opened location => rfl
    | failed path => exact List.append_assoc ..

end Change

/-! ### Expansion -/

namespace Store

/-- The store in which just these files are marked. -/
def ofLoaded (loaded : List Location) : Store :=
  { empty with loaded }

/-- Whether a file is to be read depends only on which files are marked. -/
lemma fetch_ofLoaded (s : Store) (files : FileTree) (path : String) :
    (ofLoaded s.loaded).fetch files path = s.fetch files path := rfl

lemma pending_mono {loaded loaded' : List Location} (h : loaded ⊆ loaded') (files : FileTree) :
    (ofLoaded loaded').pending files ≤ (ofLoaded loaded).pending files := by
  refine List.countP_mono_left fun location _ hpending => ?_
  simp only [decide_eq_true_eq] at hpending ⊢
  exact fun hmem => hpending (h hmem)

/-- Fewer files are left to read after a file has been opened. -/
lemma pending_ofLoaded_lt {files : FileTree} {loaded loaded' : List Location} {path text : String}
    {location : Location} (hfetch : (ofLoaded loaded).fetch files path = .fresh location text)
    (h : location :: loaded ⊆ loaded') :
    (ofLoaded loaded').pending files < (ofLoaded loaded).pending files := by
  obtain ⟨hunknown, hread⟩ := not_mem_loaded_of_fetch hfetch
  have hentry := FileTree.mem_locations_of_readAt hread
  exact Nat.lt_of_le_of_lt (pending_mono h files) (pending_markLoaded_lt hentry hunknown)

end Store

namespace FileTree

/-- What the lines that are left in a frame come to, one after the other, if the given files have
been loaded before. The lines of a file come in the place of the first include that leads to it. -/
def expand (t : FileTree) (loaded : List Location) (f : Frame) : List Change :=
  match f with
  | { rest := [], .. } => []
  | { base, rest := line :: rest } =>
    match Declaration.readLine? line with
    | none => t.expand loaded { base, rest }
    | some (.voice v) => .voice v :: t.expand loaded { base, rest }
    | some (.definition d) => .definition d :: t.expand loaded { base, rest }
    | some (.inclusion path) =>
      let target := Path.join base path
      match _h : (Store.ofLoaded loaded).fetch t target with
      | .failed _ => .failed target :: t.expand loaded { base, rest }
      | .known => t.expand loaded { base, rest }
      | .fresh location text =>
        let inside := .opened location :: t.expand (location :: loaded) (.ofFile location text)
        inside ++ t.expand (Change.loadedAfter loaded inside) { base, rest }
termination_by ((Store.ofLoaded loaded).pending t, f.rest.length)
decreasing_by
  · exact Prod.Lex.right _ (Nat.lt_succ_self _)
  · exact Prod.Lex.right _ (Nat.lt_succ_self _)
  · exact Prod.Lex.right _ (Nat.lt_succ_self _)
  · exact Prod.Lex.right _ (Nat.lt_succ_self _)
  · exact Prod.Lex.right _ (Nat.lt_succ_self _)
  · exact Prod.Lex.left _ _ (Store.pending_ofLoaded_lt _h (List.Subset.refl _))
  · exact Prod.Lex.left _ _ (Store.pending_ofLoaded_lt _h (Change.subset_loadedAfter _ _))

/-- What loading a path comes to, if the given files have been loaded before. -/
def expandPath (t : FileTree) (loaded : List Location) (path : String) : List Change :=
  match (Store.ofLoaded loaded).fetch t path with
  | .failed _ | .known => []
  | .fresh location text => .opened location :: t.expand (location :: loaded) (.ofFile location text)

section

variable {files : FileTree} {loaded : List Location} {base path : String} {line : List Char}
  {rest : List (List Char)}

lemma expand_nil : files.expand loaded { base, rest := [] } = [] := by
  rw [expand]

lemma expand_of_silent (hline : Declaration.readLine? line = none) :
    files.expand loaded { base, rest := line :: rest } = files.expand loaded { base, rest } := by
  rw [expand]
  simp only [hline]

lemma expand_of_voice {v : Voice} (hline : Declaration.readLine? line = some (.voice v)) :
    files.expand loaded { base, rest := line :: rest } =
      .voice v :: files.expand loaded { base, rest } := by
  rw [expand]
  simp only [hline]

lemma expand_of_definition {d : Definition}
    (hline : Declaration.readLine? line = some (.definition d)) :
    files.expand loaded { base, rest := line :: rest } =
      .definition d :: files.expand loaded { base, rest } := by
  rw [expand]
  simp only [hline]

lemma expand_of_failed {fault : FileFault}
    (hline : Declaration.readLine? line = some (.inclusion path))
    (hfetch : (Store.ofLoaded loaded).fetch files (Path.join base path) = .failed fault) :
    files.expand loaded { base, rest := line :: rest } =
      .failed (Path.join base path) :: files.expand loaded { base, rest } := by
  rw [expand]
  simp only [hline]
  split <;> simp_all

/-- An include that does not fail is replaced by what loading its path comes to. -/
lemma expand_of_inclusion (hline : Declaration.readLine? line = some (.inclusion path))
    (hfetch : ∀ fault, (Store.ofLoaded loaded).fetch files (Path.join base path) ≠ .failed fault) :
    files.expand loaded { base, rest := line :: rest } =
      files.expandPath loaded (Path.join base path) ++
        files.expand (Change.loadedAfter loaded (files.expandPath loaded (Path.join base path)))
          { base, rest } := by
  rw [expand, expandPath]
  simp only [hline]
  split
  · next fault h => exact absurd h (hfetch fault)
  · next h =>
    simp only [h]
    rfl
  · next location text h => simp only [h]

lemma expandPath_of_known (hfetch : (Store.ofLoaded loaded).fetch files path = .known) :
    files.expandPath loaded path = [] := by
  rw [expandPath, hfetch]

lemma expandPath_of_fresh {location : Location} {text : String}
    (hfetch : (Store.ofLoaded loaded).fetch files path = .fresh location text) :
    files.expandPath loaded path =
      .opened location :: files.expand (location :: loaded) (.ofFile location text) := by
  rw [expandPath, hfetch]

lemma expand_of_known (hline : Declaration.readLine? line = some (.inclusion path))
    (hfetch : (Store.ofLoaded loaded).fetch files (Path.join base path) = .known) :
    files.expand loaded { base, rest := line :: rest } = files.expand loaded { base, rest } := by
  rw [expand_of_inclusion hline (by simp [hfetch]), expandPath_of_known hfetch]
  rfl

lemma expand_of_fresh {location : Location} {text : String}
    (hline : Declaration.readLine? line = some (.inclusion path))
    (hfetch : (Store.ofLoaded loaded).fetch files (Path.join base path) = .fresh location text) :
    files.expand loaded { base, rest := line :: rest } =
      .opened location :: files.expand (location :: loaded) (.ofFile location text) ++
        files.expand (Change.loadedAfter (location :: loaded)
          (files.expand (location :: loaded) (.ofFile location text))) { base, rest } := by
  rw [expand_of_inclusion hline (by simp [hfetch]), expandPath_of_fresh hfetch]
  rfl

/-- What the first line comes to is followed by what the other lines come to then. -/
lemma expand_cons (line : List Char) (rest : List (List Char)) :
    files.expand loaded { base, rest := line :: rest } =
      files.expand loaded { base, rest := [line] } ++
        files.expand (Change.loadedAfter loaded (files.expand loaded { base, rest := [line] }))
          { base, rest } := by
  cases hline : Declaration.readLine? line with
  | none =>
    rw [expand_of_silent hline, expand_of_silent hline, expand_nil]
    rfl
  | some d =>
    cases d with
    | voice v =>
      rw [expand_of_voice hline, expand_of_voice hline, expand_nil]
      rfl
    | definition d =>
      rw [expand_of_definition hline, expand_of_definition hline, expand_nil]
      rfl
    | inclusion path =>
      cases hfetch : (Store.ofLoaded loaded).fetch files (Path.join base path) with
      | failed fault =>
        rw [expand_of_failed hline hfetch, expand_of_failed hline hfetch, expand_nil]
        rfl
      | known =>
        rw [expand_of_known hline hfetch, expand_of_known hline hfetch, expand_nil]
        rfl
      | fresh location text =>
        rw [expand_of_fresh hline hfetch, expand_of_fresh hline hfetch, expand_nil,
          List.append_nil]
        rfl

lemma expand_append (before after : List (List Char)) :
    files.expand loaded { base, rest := before ++ after } =
      files.expand loaded { base, rest := before } ++
        files.expand (Change.loadedAfter loaded (files.expand loaded { base, rest := before }))
          { base, rest := after } := by
  induction before generalizing loaded with
  | nil =>
    rw [expand_nil]
    rfl
  | cons line before ih =>
    rw [List.cons_append, expand_cons, ih, ← List.append_assoc, expand_cons line before,
      Change.loadedAfter_append]

end

end FileTree

/-! ### Loading is applying the changes -/

namespace Store

/-- The store after the lines that are left in a frame. -/
def loadFrame (files : FileTree) (s : Store) (f : Frame) : Store :=
  (files.expand s.loaded f).foldl Change.apply s

/-- Loading what is left in the frames is applying the changes that their lines come to. -/
theorem loadFrames_eq_foldl (files : FileTree) (frames : List Frame) (s : Store) :
    loadFrames files frames s = frames.foldl (loadFrame files) s := by
  fun_induction loadFrames files frames s with
  | case1 s => rfl
  | case2 s base frames ih => rw [ih, List.foldl_cons, loadFrame, FileTree.expand_nil, List.foldl_nil]
  | case3 s base line rest frames hline ih =>
    rw [ih, List.foldl_cons, List.foldl_cons, loadFrame, loadFrame, FileTree.expand_of_silent hline]
  | case4 s base line rest frames v hline ih =>
    rw [ih, List.foldl_cons, List.foldl_cons, loadFrame, loadFrame, FileTree.expand_of_voice hline]
    rfl
  | case5 s base line rest frames d hline ih =>
    rw [ih, List.foldl_cons, List.foldl_cons, loadFrame, loadFrame,
      FileTree.expand_of_definition hline]
    rfl
  | case6 s base line rest frames path hline target fault hfetch ih =>
    rw [ih, List.foldl_cons, List.foldl_cons, loadFrame, loadFrame,
      FileTree.expand_of_failed hline hfetch]
    rfl
  | case7 s base line rest frames path hline target hfetch ih =>
    rw [ih, List.foldl_cons, List.foldl_cons, loadFrame, loadFrame,
      FileTree.expand_of_known hline hfetch]
  | case8 s base line rest frames path hline target location text hfetch ih =>
    rw [ih, List.foldl_cons, List.foldl_cons, List.foldl_cons, loadFrame, loadFrame, loadFrame,
      FileTree.expand_of_fresh hline hfetch, List.foldl_append, Change.loaded_foldl_apply]
    rfl

theorem loadText_eq_foldl (s : Store) (files : FileTree) (base text : String) :
    s.loadText files base text =
      (files.expand s.loaded (.ofText base text)).foldl Change.apply s := by
  rw [loadText, loadFrames_eq_foldl]
  rfl

/-- If a file can be loaded, then that is applying the changes that its path comes to. -/
theorem load_eq_foldl {s t : Store} {files : FileTree} {path : String}
    (h : s.load files path = .ok t) : t = (files.expandPath s.loaded path).foldl Change.apply s := by
  rw [FileTree.expandPath, fetch_ofLoaded]
  rw [load] at h
  cases hfetch : s.fetch files path with
  | failed fault =>
    rw [hfetch] at h
    cases h
  | known =>
    rw [hfetch] at h
    cases h
    rfl
  | fresh location text =>
    rw [hfetch] at h
    cases h
    rw [loadFrames_eq_foldl]
    rfl

end Store

end ChainScript
