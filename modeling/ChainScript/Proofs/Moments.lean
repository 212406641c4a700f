import ChainScript.Proofs.Loading
import Mathlib.Data.Finset.Card
import Mathlib.Data.List.Nodup
import Mathlib.Data.Prod.Lex
import Mathlib.Tactic.SplitIfs

/-!
# The moments of loading

While something is being loaded, the frames on the stack are the texts that are being read, each of
which was included from the one below it. Taking a line, or coming to the end of a text, leads from
one moment to the next. A file that is read is marked before its first line is taken, and no marked
file is read again. So the stack is never higher than there are files left to read, and loading
comes to an end whatever the files include.
-/

namespace ChainScript

/-! ### Files that are left to read -/

namespace FileTree

/-- The locations of the files that can be read. -/
def readable (t : FileTree) : Finset Location :=
  (t.locations.filter fun location => (t.readAt location).isOk).toFinset

lemma mem_readable {files : FileTree} {location : Location} {text : String}
    (h : files.readAt location = .ok text) : location ∈ files.readable := by
  rw [readable, List.mem_toFinset, List.mem_filter, h]
  exact ⟨mem_locations_of_readAt h, rfl⟩

end FileTree

namespace Store

/-- The files that can be read and are not marked. -/
def unread (s : Store) (files : FileTree) : Finset Location :=
  files.readable.filter (· ∉ s.loaded)

variable {s t : Store} {files : FileTree} {location : Location}

lemma not_mem_loaded_of_mem_unread (h : location ∈ s.unread files) : location ∉ s.loaded :=
  (Finset.mem_filter.mp h).2

lemma mem_unread_of_fetch {path text : String} (h : s.fetch files path = .fresh location text) :
    location ∈ s.unread files := by
  obtain ⟨hunknown, hread⟩ := not_mem_loaded_of_fetch h
  exact Finset.mem_filter.mpr ⟨FileTree.mem_readable hread, hunknown⟩

lemma unread_congr (h : t.loaded = s.loaded) : t.unread files = s.unread files := by
  rw [unread, unread, h]

lemma unread_of_marked (h : t.loaded = location :: s.loaded) :
    t.unread files = (s.unread files).erase location := by
  ext there
  simp only [unread, h, Finset.mem_filter, Finset.mem_erase, List.mem_cons, not_or]
  tauto

end Store

/-! ### From one moment to the next -/

/-- A moment while something is being loaded: what is left of the texts that are being read, that of
the innermost first, and the store. -/
structure Moment where
  frames : List Frame
  store : Store

namespace Moment

/-- One moment comes after the other, and the listed files are read in between. -/
inductive Step (files : FileTree) : Moment → List Location → Moment → Prop
  /-- A text has come to its end. -/
  | finished {base : String} {frames : List Frame} {s : Store} :
      Step files ⟨{ base, rest := [] } :: frames, s⟩ [] ⟨frames, s⟩
  /-- A line declares nothing. -/
  | silent {base : String} {line : List Char} {rest : List (List Char)} {frames : List Frame}
      {s : Store} (hline : Declaration.readLine? line = none) :
      Step files ⟨{ base, rest := line :: rest } :: frames, s⟩ [] ⟨{ base, rest } :: frames, s⟩
  | voice {base : String} {line : List Char} {rest : List (List Char)} {frames : List Frame}
      {s : Store} {v : Voice} (hline : Declaration.readLine? line = some (.voice v)) :
      Step files ⟨{ base, rest := line :: rest } :: frames, s⟩ []
        ⟨{ base, rest } :: frames, s.insertVoice v⟩
  | definition {base : String} {line : List Char} {rest : List (List Char)} {frames : List Frame}
      {s : Store} {d : Definition} (hline : Declaration.readLine? line = some (.definition d)) :
      Step files ⟨{ base, rest := line :: rest } :: frames, s⟩ []
        ⟨{ base, rest } :: frames, s.insertDefinition d⟩
  /-- An include leads to no file that can be read. -/
  | failed {base path : String} {line : List Char} {rest : List (List Char)} {frames : List Frame}
      {s : Store} {fault : FileFault} (hline : Declaration.readLine? line = some (.inclusion path))
      (hfetch : s.fetch files (Path.join base path) = .failed fault) :
      Step files ⟨{ base, rest := line :: rest } :: frames, s⟩ []
        ⟨{ base, rest } :: frames, s.warn (.missing (Path.join base path))⟩
  /-- An include leads to a file that is marked. -/
  | known {base path : String} {line : List Char} {rest : List (List Char)} {frames : List Frame}
      {s : Store} (hline : Declaration.readLine? line = some (.inclusion path))
      (hfetch : s.fetch files (Path.join base path) = .known) :
      Step files ⟨{ base, rest := line :: rest } :: frames, s⟩ [] ⟨{ base, rest } :: frames, s⟩
  /-- An include leads to a file that is read now. -/
  | opened {base path text : String} {location : Location} {line : List Char}
      {rest : List (List Char)} {frames : List Frame} {s : Store}
      (hline : Declaration.readLine? line = some (.inclusion path))
      (hfetch : s.fetch files (Path.join base path) = .fresh location text) :
      Step files ⟨{ base, rest := line :: rest } :: frames, s⟩ [location]
        ⟨.ofFile location text :: { base, rest } :: frames, s.markLoaded location⟩

/-- The store in the end. -/
def result (m : Moment) (files : FileTree) : Store :=
  Store.loadFrames files m.frames m.store

variable {files : FileTree} {m n o : Moment} {reads more : List Location}

/-- What a step does to the stack and to the marks. Either no file is read, the marks are the same
and there is less left in the frames, or a file that was left to read is marked and its frame is put
on the stack. -/
lemma Step.reads_cases (h : Step files m reads n) :
    (reads = [] ∧ n.store.loaded = m.store.loaded ∧ n.frames.length ≤ m.frames.length ∧
      Store.work n.frames < Store.work m.frames) ∨
    ∃ location ∈ m.store.unread files, reads = [location] ∧
      n.store.loaded = location :: m.store.loaded ∧
      n.frames.length = m.frames.length + 1 := by
  cases h with
  | opened hline hfetch =>
    exact Or.inr ⟨_, Store.mem_unread_of_fetch hfetch, rfl, rfl, rfl⟩
  | _ => exact Or.inl ⟨rfl, rfl, by simp, by simp [Store.work]⟩

/-- The end is the same, seen from any moment on the way. -/
lemma Step.result_eq (h : Step files m reads n) : m.result files = n.result files := by
  rw [result, result]
  cases h with
  | finished => rw [Store.loadFrames]
  | silent hline | voice hline | definition hline => simp only [Store.loadFrames, hline]
  | failed hline hfetch | known hline hfetch | opened hline hfetch =>
    rw [Store.loadFrames]
    simp only [hline]
    split <;> simp_all

/-- While there are frames on the stack there is a next moment. -/
lemma exists_step (files : FileTree) (h : m.frames ≠ []) : ∃ reads n, Step files m reads n := by
  obtain ⟨frames, s⟩ := m
  obtain ⟨⟨base, rest⟩, frames, rfl⟩ := List.exists_cons_of_ne_nil h
  cases rest with
  | nil => exact ⟨_, _, .finished⟩
  | cons line rest =>
    cases hline : Declaration.readLine? line with
    | none => exact ⟨_, _, .silent hline⟩
    | some d =>
      cases d with
      | voice v => exact ⟨_, _, .voice hline⟩
      | definition d => exact ⟨_, _, .definition hline⟩
      | inclusion path =>
        cases hfetch : s.fetch files (Path.join base path) with
        | failed fault => exact ⟨_, _, .failed hline hfetch⟩
        | known => exact ⟨_, _, .known hline hfetch⟩
        | fresh location text => exact ⟨_, _, .opened hline hfetch⟩

/-- There are not infinitely many moments, one after the other: the files that are left to read
become fewer, or there is less left in the frames. -/
theorem wellFounded_step (files : FileTree) :
    WellFounded fun n m => ∃ reads, Step files m reads n := by
  let measure : Moment → Nat ×ₗ Nat :=
    fun m => toLex ((m.store.unread files).card, Store.work m.frames)
  refine Subrelation.wf (r := InvImage (· < ·) measure) ?_ (InvImage.wf measure wellFounded_lt)
  rintro n m ⟨reads, h⟩
  rw [InvImage, Prod.Lex.toLex_lt_toLex]
  rcases h.reads_cases with ⟨-, hloaded, -, hwork⟩ | ⟨location, hunread, -, hloaded, -⟩
  · exact Or.inr ⟨by rw [Store.unread_congr hloaded], hwork⟩
  · refine Or.inl ?_
    rw [Store.unread_of_marked hloaded]
    exact Finset.card_erase_lt_of_mem hunread

/-- The stack grows only as the files that are left to read become fewer. -/
lemma Step.height_le (h : Step files m reads n) :
    n.frames.length + (n.store.unread files).card ≤
      m.frames.length + (m.store.unread files).card := by
  rcases h.reads_cases with ⟨-, hloaded, hframes, -⟩ | ⟨location, hunread, -, hloaded, hframes⟩
  · rw [Store.unread_congr hloaded]
    omega
  · have hcard := Finset.card_erase_add_one hunread
    rw [Store.unread_of_marked hloaded]
    omega

/-! ### From the first moment to a later one -/

/-- Moments one after the other, and the files that are read in between. -/
inductive Run (files : FileTree) : Moment → List Location → Moment → Prop
  | refl (m : Moment) : Run files m [] m
  | step {m n o : Moment} {reads more : List Location} (h : Step files m reads n)
      (hrun : Run files n more o) : Run files m (reads ++ more) o

namespace Run

lemma result_eq (h : Run files m reads n) : m.result files = n.result files := by
  induction h with
  | refl m => rfl
  | step h _ ih => exact h.result_eq.trans ih

lemma height_le (h : Run files m reads n) :
    n.frames.length + (n.store.unread files).card ≤
      m.frames.length + (m.store.unread files).card := by
  induction h with
  | refl m => exact Nat.le_refl _
  | step h _ ih => exact ih.trans h.height_le

/-- The files that are read are marked, and no others. -/
lemma loaded_eq (h : Run files m reads n) : n.store.loaded = reads.reverse ++ m.store.loaded := by
  induction h with
  | refl m => rfl
  | step h _ ih =>
    rcases h.reads_cases with ⟨rfl, hloaded, -⟩ | ⟨location, -, rfl, hloaded, -⟩
    · rw [ih, hloaded, List.nil_append]
    · rw [ih, hloaded]
      simp

/-- Each file is read once at most, and only if it was left to read. -/
lemma reads_nodup (h : Run files m reads n) :
    reads.Nodup ∧ ∀ location ∈ reads, location ∈ m.store.unread files := by
  induction h with
  | refl m => exact ⟨.nil, by simp⟩
  | step h _ ih =>
    rcases h.reads_cases with ⟨rfl, hloaded, -⟩ | ⟨location, hunread, rfl, hloaded, -⟩
    · rwa [Store.unread_congr hloaded] at ih
    · rw [Store.unread_of_marked hloaded] at ih
      obtain ⟨hnodup, hmem⟩ := ih
      have hnew : location ∉ _ := fun hlocation => Finset.notMem_erase _ _ (hmem location hlocation)
      exact ⟨List.nodup_cons.mpr ⟨hnew, hnodup⟩,
        List.forall_mem_cons.mpr ⟨hunread, fun there hthere =>
          Finset.mem_of_mem_erase (hmem there hthere)⟩⟩

end Run

/-- From each moment one comes to the end. -/
theorem exists_run (files : FileTree) (m : Moment) :
    ∃ reads, Run files m reads ⟨[], m.result files⟩ := by
  induction m using (wellFounded_step files).induction with
  | h m ih =>
    by_cases hframes : m.frames = []
    · obtain ⟨frames, s⟩ := m
      cases hframes
      rw [result, Store.loadFrames]
      exact ⟨[], .refl _⟩
    · obtain ⟨reads, n, hstep⟩ := exists_step files hframes
      obtain ⟨more, hrun⟩ := ih n ⟨reads, hstep⟩
      rw [← hstep.result_eq] at hrun
      exact ⟨reads ++ more, .step hstep hrun⟩

end Moment

/-! ### Requests -/

/-- A wish to load something: the file at a path, or a text that did not come from a file. -/
inductive LoadRequest where
  | load (path : String)
  | loadText (base text : String)

namespace LoadRequest

/-- The store after the request. A file that cannot be loaded leaves it as it is. -/
def result (files : FileTree) (s : Store) : LoadRequest → Store
  | load path =>
    match s.load files path with
    | .ok t => t
    | .error _ => s
  | loadText base text => s.loadText files base text

/-- The first moment of what the request comes to, and the file that is read before it. Nothing is
done for a file that cannot be read or is marked. -/
def start (files : FileTree) (s : Store) : LoadRequest → List Location × Moment
  | load path =>
    match s.fetch files path with
    | .failed _ | .known => ([], ⟨[], s⟩)
    | .fresh location text => ([location], ⟨[.ofFile location text], s.markLoaded location⟩)
  | loadText base text => ([], ⟨[.ofText base text], s⟩)

/-- The request comes to an end with a store, after the listed files have been read. -/
def Returns (files : FileTree) (s : Store) (r : LoadRequest) (reads : List Location) (t : Store) :
    Prop :=
  ∃ more, Moment.Run files (r.start files s).2 more ⟨[], t⟩ ∧ reads = (r.start files s).1 ++ more

/-- How deep the loading of a file is that is included at the moment. A text that did not come from
a file is in the first frame, and all other frames are of files that are being loaded. -/
def depth (m : Moment) : LoadRequest → Nat
  | load _ => m.frames.length + 1
  | loadText _ _ => m.frames.length

/-- Requests one after the other come to an end, each with the files as they are then. -/
inductive ReturnAll : List (FileTree × LoadRequest) → Store → List Location → Store → Prop
  | nil (s : Store) : ReturnAll [] s [] s
  | cons {files : FileTree} {r : LoadRequest} {later : List (FileTree × LoadRequest)}
      {s t u : Store} {reads more : List Location} (h : r.Returns files s reads t)
      (hlater : ReturnAll later t more u) : ReturnAll ((files, r) :: later) s (reads ++ more) u

/-- The store after requests, one after the other. -/
def resultAll (requests : List (FileTree × LoadRequest)) (s : Store) : Store :=
  requests.foldl (fun s (files, r) => r.result files s) s

variable {files : FileTree} {s t : Store} {reads : List Location}

lemma result_start (files : FileTree) (s : Store) (r : LoadRequest) :
    (r.start files s).2.result files = r.result files s := by
  cases r with
  | loadText base text => rfl
  | load path =>
    rw [start, result, Store.load]
    cases s.fetch files path with
    | failed fault => simp only [Moment.result, Store.loadFrames]
    | known => simp only [Moment.result, Store.loadFrames]
    | fresh location text => rfl

/-- What is read before the first moment was left to read, and is marked then. -/
lemma start_cases (files : FileTree) (s : Store) (r : LoadRequest) :
    ((r.start files s).1 = [] ∧ (r.start files s).2.store = s) ∨
      ∃ location ∈ s.unread files, (r.start files s).1 = [location] ∧
        (r.start files s).2.store.loaded = location :: s.loaded := by
  cases r with
  | loadText base text => exact Or.inl ⟨rfl, rfl⟩
  | load path =>
    rw [start]
    cases hfetch : s.fetch files path with
    | failed fault => exact Or.inl ⟨rfl, rfl⟩
    | known => exact Or.inl ⟨rfl, rfl⟩
    | fresh location text => exact Or.inr ⟨location, Store.mem_unread_of_fetch hfetch, rfl, rfl⟩

/-- A file that is included is loaded no deeper at first than there are files left to read. -/
lemma depth_start_le (files : FileTree) (s : Store) (r : LoadRequest) :
    r.depth (r.start files s).2 + ((r.start files s).2.store.unread files).card ≤
      (s.unread files).card + 1 := by
  cases r with
  | loadText base text => exact Nat.le_of_eq (Nat.add_comm _ _)
  | load path =>
    rw [start]
    cases hfetch : s.fetch files path with
    | failed fault => exact Nat.le_of_eq (Nat.add_comm _ _)
    | known => exact Nat.le_of_eq (Nat.add_comm _ _)
    | fresh location text =>
      have hcard := Finset.card_erase_add_one (Store.mem_unread_of_fetch hfetch)
      have hunread : (s.markLoaded location).unread files = (s.unread files).erase location :=
        Store.unread_of_marked rfl
      simp only [depth, hunread, List.length_singleton]
      omega

lemma depth_le {m : Moment} {r : LoadRequest}
    (h : Moment.Run files (r.start files s).2 reads m) :
    r.depth m ≤ (s.unread files).card + 1 := by
  have hheight := h.height_le
  have hstart := depth_start_le files s r
  cases r <;> simp only [depth] at hstart ⊢ <;> omega

lemma exists_returns (files : FileTree) (s : Store) (r : LoadRequest) :
    ∃ reads, r.Returns files s reads (r.result files s) := by
  obtain ⟨more, hrun⟩ := Moment.exists_run files (r.start files s).2
  rw [result_start] at hrun
  exact ⟨_, more, hrun, rfl⟩

namespace Returns

variable {r : LoadRequest}

lemma eq_result (h : r.Returns files s reads t) : t = r.result files s := by
  obtain ⟨more, hrun, -⟩ := h
  rw [← result_start, hrun.result_eq, Moment.result, Store.loadFrames]

/-- The files that are read are marked, and no others. -/
lemma loaded_eq (h : r.Returns files s reads t) : t.loaded = reads.reverse ++ s.loaded := by
  obtain ⟨more, hrun, rfl⟩ := h
  have hloaded := hrun.loaded_eq
  rcases start_cases files s r with ⟨hreads, hstore⟩ | ⟨location, -, hreads, hmarked⟩
  · rw [hstore] at hloaded
    rw [hreads, hloaded, List.nil_append]
  · rw [hmarked] at hloaded
    rw [hreads, hloaded]
    simp

/-- Each file is read once at most, and only if it was not marked. -/
lemma reads_nodup (h : r.Returns files s reads t) :
    reads.Nodup ∧ ∀ location ∈ reads, location ∉ s.loaded := by
  obtain ⟨more, hrun, rfl⟩ := h
  obtain ⟨hnodup, hmem⟩ := hrun.reads_nodup
  have hunmarked : ∀ location ∈ more, location ∉ (r.start files s).2.store.loaded :=
    fun location hlocation => Store.not_mem_loaded_of_mem_unread (hmem location hlocation)
  rcases start_cases files s r with ⟨hreads, hstore⟩ | ⟨location, hunread, hreads, hmarked⟩
  · rw [hstore] at hunmarked
    rw [hreads, List.nil_append]
    exact ⟨hnodup, hunmarked⟩
  · rw [hmarked] at hunmarked
    rw [hreads, List.singleton_append, List.nodup_cons, List.forall_mem_cons]
    refine ⟨⟨fun hlocation => ?_, hnodup⟩, Store.not_mem_loaded_of_mem_unread hunread, ?_⟩
    · exact hunmarked location hlocation (List.mem_cons_self ..)
    · exact fun there hthere hloaded =>
        hunmarked there hthere (List.mem_cons_of_mem _ hloaded)

end Returns

namespace ReturnAll

variable {requests : List (FileTree × LoadRequest)}

lemma eq_resultAll (h : ReturnAll requests s reads t) : t = resultAll requests s := by
  induction h with
  | nil s => rfl
  | cons h _ ih => rw [ih, h.eq_result, resultAll, resultAll, List.foldl_cons]

/-- No file is read twice while a store is in use. -/
lemma reads_nodup (h : ReturnAll requests s reads t) :
    reads.Nodup ∧ ∀ location ∈ reads, location ∉ s.loaded := by
  induction h with
  | nil s => exact ⟨.nil, by simp⟩
  | cons h _ ih =>
    obtain ⟨hnodup, hunmarked⟩ := h.reads_nodup
    obtain ⟨hlater, hmem⟩ := ih
    rw [h.loaded_eq] at hmem
    refine ⟨List.nodup_append.mpr ⟨hnodup, hlater, ?_⟩, ?_⟩
    · rintro location hfirst there hthere rfl
      exact hmem location hthere (List.mem_append_left _ (List.mem_reverse.mpr hfirst))
    · intro location hlocation
      rcases List.mem_append.mp hlocation with hfirst | hthere
      · exact hunmarked location hfirst
      · exact fun hloaded => hmem location hthere (List.mem_append_right _ hloaded)

end ReturnAll

lemma exists_returnAll (requests : List (FileTree × LoadRequest)) (s : Store) :
    ∃ reads, ReturnAll requests s reads (resultAll requests s) := by
  induction requests generalizing s with
  | nil => exact ⟨[], .nil s⟩
  | cons first later ih =>
    obtain ⟨files, r⟩ := first
    obtain ⟨reads, hfirst⟩ := exists_returns files s r
    obtain ⟨more, hlater⟩ := ih (r.result files s)
    exact ⟨reads ++ more, .cons hfirst hlater⟩

/-- Whatever files include, and whatever is in the store, requests to load come to an end. No file
is read twice by all of them together, and none that was marked before. In each of them there is a
next moment until there is the result, there are not infinitely many, and at no moment is the
loading of files nested deeper than there are files left to read and one more. -/
theorem loading_ends (requests : List (FileTree × LoadRequest)) (s : Store) :
    (∃ reads, ReturnAll requests s reads (resultAll requests s)) ∧
    (∀ reads t, ReturnAll requests s reads t →
      t = resultAll requests s ∧ reads.Nodup ∧ ∀ location ∈ reads, location ∉ s.loaded) ∧
    ∀ (files : FileTree) (r : LoadRequest),
      WellFounded (fun n m => ∃ reads, Moment.Step files m reads n) ∧
      ∀ reads m, Moment.Run files (r.start files s).2 reads m →
        (if m.frames = [] then m.store = r.result files s
          else ∃ more n, Moment.Step files m more n) ∧
        r.depth m ≤ (s.unread files).card + 1 := by
  refine ⟨exists_returnAll requests s, fun reads t h => ⟨h.eq_resultAll, h.reads_nodup⟩,
    fun files r => ⟨Moment.wellFounded_step files, fun reads m h => ⟨?_, depth_le h⟩⟩⟩
  split_ifs with hframes
  · obtain ⟨frames, t⟩ := m
    cases hframes
    have hreturns : r.Returns files s _ t := ⟨reads, h, rfl⟩
    exact hreturns.eq_result
  · exact Moment.exists_step files hframes

end LoadRequest

end ChainScript
