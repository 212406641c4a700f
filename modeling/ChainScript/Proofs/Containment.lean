import ChainScript.Proofs.Deletion
import ChainScript.Proofs.Flattening
import ChainScript.Proofs.Moments

/-!
# Failures while loading

A request to load fails only for its own file, and then nothing has happened. An include that fails
is noted under the path that it stands for, and that is all that comes of it: whatever is loaded
after it is loaded as if the line with the include were not there.
-/

namespace ChainScript

/-! ### Requests that fail -/

namespace LoadRequest

variable {files : FileTree} {s t : Store} {path : String} {reads : List Location}

lemma start_of_unloadable (h : files.Unloadable s.loaded path) :
    (load path).start files s = ([], ⟨[], s⟩) := by
  obtain ⟨fault, hfetch⟩ := Store.fetch_eq_failed_iff.mpr h
  rw [start, hfetch]

/-- Nothing is done for a file that cannot be loaded. -/
lemma returns_iff_of_unloadable (h : files.Unloadable s.loaded path) :
    (load path).Returns files s reads t ↔ reads = [] ∧ t = s := by
  rw [Returns, start_of_unloadable h]
  constructor
  · rintro ⟨more, hrun, rfl⟩
    cases hrun with
    | refl => exact ⟨rfl, rfl⟩
    | step hstep _ => cases hstep
  · rintro ⟨rfl, rfl⟩
    exact ⟨[], .refl _, rfl⟩

/-- While lines of a file are left to be taken, the file that was asked for has been loaded. -/
lemma exists_load_of_run {f : Frame} {frames : List Frame}
    (h : Moment.Run files ((load path).start files s).2 reads ⟨f :: frames, t⟩) :
    ∃ u, s.load files path = .ok u := by
  cases hload : s.load files path with
  | ok u => exact ⟨u, rfl⟩
  | error failure =>
    rw [start_of_unloadable (Store.load_eq_error_iff.mp ⟨failure, hload⟩)] at h
    cases h with
    | step hstep _ => cases hstep

end LoadRequest

/-! ### One load failure more -/

namespace Store

/-- The second store is the first one with one load failure more, which came after those that are
listed. -/
def GainsFailure (s : Store) (earlier : List Failure) (failure : Failure) (t : Store) : Prop :=
  ∃ later, s.warnings = earlier ++ later ∧
    t = { s with warnings := earlier ++ failure :: later }

end Store

namespace Change

/-- Which load failures have been noted makes a difference only to those that are noted in the end.
-/
lemma foldl_apply_warnings (changes : List Change) (s : Store) (warnings : List Failure) :
    changes.foldl apply { s with warnings } =
      { changes.foldl apply s with warnings := warnings ++ changes.filterMap failure? } := by
  rw [foldl_apply_eq, foldl_apply_eq, Store.foldl_insert_eq, Store.foldl_insert_eq]

/-- A load failure that is noted first makes no difference to the changes after it. -/
lemma gainsFailure_foldl_apply (changes : List Change) (s : Store) (failure : Failure) :
    (changes.foldl apply s).GainsFailure s.warnings failure
      (changes.foldl apply (s.warn failure)) := by
  refine ⟨changes.filterMap failure?, warnings_foldl_apply changes s, ?_⟩
  rw [Store.warn, foldl_apply_warnings, List.append_assoc]
  rfl

lemma gainsFailure_of_failed (earlier later : List Change) (path : String) (s : Store) :
    ((earlier ++ later).foldl apply s).GainsFailure (earlier.foldl apply s).warnings
      (.missing path) ((earlier ++ .failed path :: later).foldl apply s) := by
  rw [List.foldl_append, List.foldl_append, List.foldl_cons]
  exact gainsFailure_foldl_apply later _ _

end Change

namespace Store

/-- What is left in frames comes to changes that depend only on the files that are marked. -/
lemma exists_changes (files : FileTree) (frames : List Frame) (loaded : List Location) :
    ∃ changes : List Change, ∀ s : Store, s.loaded = loaded →
      loadFrames files frames s = changes.foldl Change.apply s := by
  induction frames generalizing loaded with
  | nil => exact ⟨[], fun s _ => loadFrames_eq_foldl files [] s⟩
  | cons f frames ih =>
    obtain ⟨changes, hchanges⟩ := ih (Change.loadedAfter loaded (files.expand loaded f))
    refine ⟨files.expand loaded f ++ changes, ?_⟩
    rintro s rfl
    rw [List.foldl_append, ← hchanges _ (Change.loaded_foldl_apply _ s), loadFrames_eq_foldl,
      loadFrames_eq_foldl, List.foldl_cons, loadFrame]

lemma gainsFailure_loadFrames (files : FileTree) (frames : List Frame) (s : Store)
    (failure : Failure) :
    (loadFrames files frames s).GainsFailure s.warnings failure
      (loadFrames files frames (s.warn failure)) := by
  obtain ⟨changes, hchanges⟩ := exists_changes files frames s.loaded
  rw [hchanges s rfl, hchanges (s.warn failure) rfl]
  exact Change.gainsFailure_foldl_apply changes s failure

end Store

/-! ### Includes that fail, at the moment -/

namespace Moment

variable {files : FileTree} {base path : String} {line : List Char} {rest : List (List Char)}
  {frames : List Frame} {s : Store}

/-- After a line with an include that fails there is only one moment that can come. -/
lemma step_iff_of_unloadable {reads : List Location} {n : Moment}
    (hline : Declaration.readLine? line = some (.inclusion path))
    (h : files.Unloadable s.loaded (Path.join base path)) :
    Step files ⟨{ base, rest := line :: rest } :: frames, s⟩ reads n ↔
      reads = [] ∧ n = ⟨{ base, rest } :: frames, s.warn (.missing (Path.join base path))⟩ := by
  obtain ⟨fault, hfetch⟩ := Store.fetch_eq_failed_iff.mpr h
  constructor
  · intro hstep
    cases hstep <;> simp_all
  · rintro ⟨rfl, rfl⟩
    exact .failed hline hfetch

/-- In the end there is what would be there without the line with the include that fails, and one
load failure more. -/
lemma gainsFailure_result (hline : Declaration.readLine? line = some (.inclusion path))
    (h : files.Unloadable s.loaded (Path.join base path)) :
    (result ⟨{ base, rest } :: frames, s⟩ files).GainsFailure s.warnings
      (.missing (Path.join base path))
      (result ⟨{ base, rest := line :: rest } :: frames, s⟩ files) := by
  rw [((step_iff_of_unloadable hline h).mpr ⟨rfl, rfl⟩).result_eq]
  exact Store.gainsFailure_loadFrames files _ s _

end Moment

/-! ### Requests -/

namespace LoadRequest

/-- What a request comes to, if the given files have been loaded before. -/
def changes (files : FileTree) (loaded : List Location) : LoadRequest → List Change
  | load path => files.expandPath loaded path
  | loadText base text => files.expand loaded (.ofText base text)

lemma result_eq_foldl (files : FileTree) (s : Store) (r : LoadRequest) :
    r.result files s = (r.changes files s.loaded).foldl Change.apply s := by
  cases r with
  | loadText base text => exact Store.loadText_eq_foldl s files base text
  | load path =>
    rw [result, changes]
    cases hload : s.load files path with
    | ok t => exact Store.load_eq_foldl hload
    | error failure =>
      obtain ⟨fault, hfetch⟩ := Store.fetch_eq_failed_iff.mpr
        (Store.load_eq_error_iff.mp ⟨failure, hload⟩)
      rw [FileTree.expandPath, Store.fetch_ofLoaded, hfetch]
      rfl

variable {files files' : FileTree} {location : Location} {target : String} {s : Store}

lemma omits_changes (h : files.LosesInclude files' location target) {loaded : List Location}
    (hfail : files.Unloadable loaded target) (r : LoadRequest) :
    Change.Omits location target loaded (r.changes files loaded) (r.changes files' loaded) := by
  cases r with
  | loadText base text => exact h.omits_expand _ hfail
  | load path =>
    rw [changes, changes]
    cases hfetch : (Store.ofLoaded loaded).fetch files path with
    | fresh there text =>
      have hlater := hfail.cons (Store.not_mem_loaded_of_fetch hfetch).2
      exact h.omits_expandPath_of_fresh hfail hfetch (h.omits_expand _ hlater)
    | failed fault | known =>
      rw [FileTree.expandPath, FileTree.expandPath, h.fetch_eq (by simp [hfetch]), hfetch]
      exact .refl id

/-- A file that loses the line with an include that fails makes a difference only if it is read, and
then there is one load failure less. -/
lemma result_of_losesInclude (h : files.LosesInclude files' location target)
    (hfail : files.Unloadable s.loaded target) (r : LoadRequest) :
    if location ∉ s.loaded ∧ location ∈ (r.result files s).loaded then
      ∃ earlier, (r.result files' s).GainsFailure earlier (.missing target) (r.result files s)
    else r.result files' s = r.result files s := by
  have homits := omits_changes h hfail r
  rw [result_eq_foldl, result_eq_foldl, Change.loaded_foldl_apply]
  rw [Change.Omits] at homits
  split_ifs at homits ⊢ with hnew
  · obtain ⟨earlier, later, hwith, hwithout⟩ := homits
    rw [hwith, hwithout]
    exact ⟨_, Change.gainsFailure_of_failed earlier later target s⟩
  · rw [homits]

/-- Load failures are contained, whatever the files and the store.

A file cannot be loaded exactly if its path leads nowhere, or to something that was not loaded and
cannot be read as text, and then nothing is read and the store is what it was. An include that fails
at some moment, in whatever depth, makes no file fail that is being loaded. It comes to a load
failure with the path that it stands for and to nothing else, and what there is in the end is what
there would be without its line, and this failure after those that were there at the moment. The
same holds if the line is deleted beforehand in the text, or in a file that is read then. If the
file with the line is not read, the line makes no difference. -/
theorem failures_contained (s : Store) (files : FileTree) :
    (∀ path, ((∃ failure, s.load files path = .error failure) ↔
        files.Unloadable s.loaded path) ∧
      (files.Unloadable s.loaded path → ∀ reads t,
        (load path).Returns files s reads t ↔ reads = [] ∧ t = s)) ∧
    (∀ (r : LoadRequest) reads base line rest frames t path,
      Moment.Run files (r.start files s).2 reads ⟨{ base, rest := line :: rest } :: frames, t⟩ →
      Declaration.readLine? line = some (.inclusion path) →
      files.Unloadable t.loaded (Path.join base path) →
        (∀ root, r = load root → ∃ u, s.load files root = .ok u) ∧
        (∀ more n, Moment.Step files ⟨{ base, rest := line :: rest } :: frames, t⟩ more n ↔
          more = [] ∧
            n = ⟨{ base, rest } :: frames, t.warn (.missing (Path.join base path))⟩) ∧
        (Moment.result ⟨{ base, rest } :: frames, t⟩ files).GainsFailure t.warnings
          (.missing (Path.join base path)) (r.result files s)) ∧
    (∀ base text text' target,
      (Frame.ofText base text).LosesInclude (.ofText base text') target →
      files.Unloadable s.loaded target →
        ∃ earlier, (s.loadText files base text').GainsFailure earlier (.missing target)
          (s.loadText files base text)) ∧
    ∀ (r : LoadRequest) files' location target,
      files.LosesInclude files' location target → files.Unloadable s.loaded target →
        if location ∉ s.loaded ∧ location ∈ (r.result files s).loaded then
          ∃ earlier, (r.result files' s).GainsFailure earlier (.missing target)
            (r.result files s)
        else r.result files' s = r.result files s := by
  refine ⟨fun path => ⟨Store.load_eq_error_iff, fun h reads t => returns_iff_of_unloadable h⟩,
    ?_, ?_, fun r files' location target h hfail => result_of_losesInclude h hfail r⟩
  · intro r reads base line rest frames t path hrun hline hfail
    refine ⟨?_, fun more n => Moment.step_iff_of_unloadable hline hfail, ?_⟩
    · rintro root rfl
      exact exists_load_of_run hrun
    · rw [← result_start, hrun.result_eq]
      exact Moment.gainsFailure_result hline hfail
  · intro base text text' target h hfail
    obtain ⟨earlier, later, hwith, hwithout⟩ := FileTree.expand_of_losesInclude h hfail
    rw [Store.loadText_eq_foldl, Store.loadText_eq_foldl, hwith, hwithout]
    exact ⟨_, Change.gainsFailure_of_failed earlier later target s⟩

end LoadRequest

namespace Broken

/-- Two files one in the other. The inner one has an include of a file that is no text. -/
def files : FileTree where
  entries := [
    (["a.voices"], .file (some "include b.voices\nvoice a / true")),
    (["b.voices"], .file (some "include c.voices\nvoice b / false")),
    (["c.voices"], .file none)]

/-- The files after the line with the include has been deleted. -/
def shorter : FileTree :=
  files.put ["b.voices"] (.file (some "voice b / false"))

/-- The moment at which the inner file has just been opened. -/
def opened : Moment where
  frames := [
    { base := "/", rest := ["include c.voices".toList, "voice b / false".toList] },
    { base := "/", rest := ["voice a / true".toList] }]
  store := (Store.empty.markLoaded ["a.voices"]).markLoaded ["b.voices"]

lemma unloadable : files.Unloadable [] "/c.voices" :=
  Or.inr ⟨["c.voices"], .notText, by rfl, List.not_mem_nil, by rfl⟩

lemma losesInclude : files.LosesInclude shorter ["b.voices"] "/c.voices" := by
  refine FileTree.losesInclude_put (by rfl) ?_
  exact ⟨"/", [], "include c.voices".toList, ["voice b / false".toList], "c.voices",
    by rfl, by rfl, by rfl, by rfl⟩

lemma run_opened :
    Moment.Run files ((LoadRequest.load "/a.voices").start files .empty).2 [["b.voices"]]
      opened := by
  have hline : Declaration.readLine? "include b.voices".toList = some (.inclusion "b.voices") := by
    rfl
  exact .step (.opened hline (by rfl)) (.refl _)

lemma loaded_result :
    ["b.voices"] ∈ ((LoadRequest.load "/a.voices").result files .empty).loaded := by
  obtain ⟨reads, hrun⟩ := Moment.exists_run files opened
  rw [← LoadRequest.result_start, run_opened.result_eq, hrun.loaded_eq]
  exact List.mem_append_right _ (List.mem_cons_self ..)

/-- The inner include makes no file fail, and without its line there is the same but for one
failure. -/
theorem failures_contained_broken :
    (∃ failure, Store.empty.load files "/c.voices" = .error failure) ∧
      (∃ u, Store.empty.load files "/a.voices" = .ok u) ∧
      (Moment.result ⟨opened.frames.modifyHead fun f => { f with rest := f.rest.tail },
        opened.store⟩ files).GainsFailure [] (.missing "/c.voices")
        ((LoadRequest.load "/a.voices").result files .empty) ∧
      ∃ earlier, ((LoadRequest.load "/a.voices").result shorter .empty).GainsFailure earlier
        (.missing "/c.voices") ((LoadRequest.load "/a.voices").result files .empty) := by
  obtain ⟨hrequest, hmoment, -, hdeleted⟩ := LoadRequest.failures_contained .empty files
  obtain ⟨hload, -, hgains⟩ := hmoment (.load "/a.voices") _ _ _ _ _ _ "c.voices" run_opened
    (by rfl) (unloadable.cons (by rfl) |>.cons (by rfl))
  refine ⟨(hrequest _).1.mpr unloadable, hload _ rfl, hgains, ?_⟩
  have h := hdeleted (.load "/a.voices") shorter _ _ losesInclude unloadable
  rwa [if_pos ⟨List.not_mem_nil, loaded_result⟩] at h

end Broken

end ChainScript
