import ChainScript.Context
import ChainScript.Proofs.Expansion
import Mathlib.Tactic.SplitIfs

/-!
# Load failures are reported once

A failure that is recorded while something is loaded stays in the store until the next execution,
which puts all that are there before its own warnings. So no failure is lost, none is reported
twice, and they are reported in the order in which they were recorded, whatever is loaded and
executed in between.
-/

namespace ChainScript

/-! ### The failures that are recorded -/

namespace FileTree

/-- The failures that are recorded while the file at a path is loaded as one of the definition files
of the root, if the given files have been loaded before. -/
def recordedAt (t : FileTree) (loaded : List Location) (path : String) : List Failure :=
  match (Store.ofLoaded loaded).fetch t path with
  | .failed fault => [.unreadable path fault.message]
  | .known | .fresh _ _ => (t.expandPath loaded path).filterMap Change.failure?

/-- The failures that are recorded while the files at the paths are loaded one after the other. -/
def recordedFrom (t : FileTree) (loaded : List Location) : List String → List Failure
  | [] => []
  | path :: rest =>
    t.recordedAt loaded path ++
      t.recordedFrom (Change.loadedAfter loaded (t.expandPath loaded path)) rest

end FileTree

namespace Store

variable {s t : Store} {files : FileTree} {path : String}

lemma warnings_loadText (s : Store) (files : FileTree) (base text : String) :
    (s.loadText files base text).warnings =
      s.warnings ++ (files.expand s.loaded (.ofText base text)).filterMap Change.failure? := by
  rw [loadText_eq_foldl, Change.warnings_foldl_apply]

lemma warnings_load (h : s.load files path = .ok t) :
    t.warnings = s.warnings ++ (files.expandPath s.loaded path).filterMap Change.failure? := by
  rw [load_eq_foldl h, Change.warnings_foldl_apply]

lemma loaded_load (h : s.load files path = .ok t) :
    t.loaded = Change.loadedAfter s.loaded (files.expandPath s.loaded path) := by
  rw [load_eq_foldl h, Change.loaded_foldl_apply]

/-- A file cannot be loaded only if it cannot be read, and then nothing is loaded. -/
lemma of_load_eq_error {failure : Failure} (h : s.load files path = .error failure) :
    ∃ fault, s.fetch files path = .failed fault ∧ failure = .unreadable path fault.message ∧
      files.expandPath s.loaded path = [] := by
  rw [load] at h
  cases hfetch : s.fetch files path with
  | failed fault =>
    rw [hfetch] at h
    cases h
    exact ⟨fault, rfl, rfl, by rw [FileTree.expandPath, fetch_ofLoaded, hfetch]⟩
  | known =>
    rw [hfetch] at h
    cases h
  | fresh location text =>
    rw [hfetch] at h
    cases h

end Store

namespace Context

section

variable (files : FileTree) (s : Store)

lemma warnings_loadDefault (path : String) :
    (loadDefault files s path).warnings = s.warnings ++ files.recordedAt s.loaded path := by
  rw [loadDefault, FileTree.recordedAt, Store.fetch_ofLoaded]
  cases hload : s.load files path with
  | ok t =>
    rw [Store.warnings_load hload]
    cases hfetch : s.fetch files path with
    | failed fault =>
      rw [Store.load, hfetch] at hload
      cases hload
    | known => rfl
    | fresh location text => rfl
  | error failure =>
    obtain ⟨fault, hfetch, rfl, -⟩ := Store.of_load_eq_error hload
    rw [hfetch]
    rfl

lemma loaded_loadDefault (path : String) :
    (loadDefault files s path).loaded =
      Change.loadedAfter s.loaded (files.expandPath s.loaded path) := by
  rw [loadDefault]
  cases hload : s.load files path with
  | ok t => exact Store.loaded_load hload
  | error failure =>
    obtain ⟨fault, -, -, hnone⟩ := Store.of_load_eq_error hload
    rw [hnone]
    rfl

lemma warnings_foldl_loadDefault (paths : List String) :
    (paths.foldl (loadDefault files) s).warnings =
      s.warnings ++ files.recordedFrom s.loaded paths := by
  induction paths generalizing s with
  | nil => exact (List.append_nil _).symm
  | cons path rest ih =>
    rw [List.foldl_cons, ih, warnings_loadDefault, loaded_loadDefault, List.append_assoc]
    rfl

end

/-- The failures that are recorded while the definition files of the root are loaded, if that has
not been done before. -/
def recordedByDefaults (c : Context) (files : FileTree) : List Failure :=
  if c.defaultsLoaded then []
  else match c.config.definitionFiles files with
    | .ok paths => files.recordedFrom c.store.loaded paths
    | .error fault => [.unreadable c.config.root fault.message]

lemma warnings_loadDefaults (c : Context) (files : FileTree) :
    (c.loadDefaults files).store.warnings = c.store.warnings ++ c.recordedByDefaults files := by
  rw [loadDefaults, recordedByDefaults]
  split_ifs
  · exact (List.append_nil _).symm
  · dsimp only
    rw [loadRoot]
    cases c.config.definitionFiles files with
    | ok paths => exact warnings_foldl_loadDefault files c.store paths
    | error fault => rfl

end Context

/-! ### Operations -/

/-- What can be done with a context. -/
inductive Operation where
  | load (path : String)
  | loadText (text : String)
  | loadDefaults
  | voice (name : String) (inputs : Bindings)
  | chain (text : String) (inputs : Bindings)

/-- The three parts of the warnings of an execution. -/
structure Report where
  /-- The load failures. -/
  loads : List Failure
  /-- That there is no voice with the name that was asked for. -/
  missing? : Option Failure
  /-- What went wrong in the evaluation. -/
  evaluation : List Failure

/-- The parts in their order. -/
def Report.warnings (r : Report) : List Failure :=
  r.loads ++ r.missing?.toList ++ r.evaluation

namespace Library

/-- That there is no voice with the given name. -/
def missing? (lib : Library) (name : String) : Option Failure :=
  if lib.store.voice? name = none then some (.missing name) else none

/-- The warnings of the evaluation of a voice, if it exists and is a chain. -/
def evaluationOfVoice (lib : Library) (name : String) (inputs : Bindings) : List Failure :=
  match lib.store.voice? name with
  | none => []
  | some v =>
    match v.body with
    | .literal _ => []
    | .chain text =>
      let scope := Scope.ofBindings inputs
      let seed := scope.value "input"
      (lib.executeVoice [] v.name text (scope.setAllIfUnbound v.parameters seed) seed).warnings

/-- The warnings of the evaluation of a chain. -/
def evaluationOfChain (lib : Library) (chain : String) (inputs : Bindings) : List Failure :=
  let scope := Scope.ofBindings inputs
  (lib.execute [] chain scope (scope.value "input")).warnings

lemma warnings_runVoice (lib : Library) (name : String) (inputs : Bindings) :
    (Context.runVoice lib name inputs).warnings =
      (lib.missing? name).toList ++ lib.evaluationOfVoice name inputs := by
  rw [Context.runVoice, missing?, evaluationOfVoice]
  cases hvoice : lib.store.voice? name with
  | none => rfl
  | some v =>
    dsimp only
    rw [if_neg (Option.some_ne_none v)]
    cases v.body <;> rfl

end Library

namespace Operation

/-- The execution that the operation makes, if it makes one, and the context after it. A file that
cannot be loaded leaves the context as it is. -/
def perform (c : Context) (files : FileTree) : Operation → Option Execution × Context
  | load path =>
    match c.load files path with
    | .ok next => (none, next)
    | .error _ => (none, c)
  | loadText text => (none, c.loadText files text)
  | loadDefaults => (none, c.loadDefaults files)
  | voice name inputs =>
    let (execution, next) := c.executeVoice files name inputs
    (some execution, next)
  | chain text inputs =>
    let (execution, next) := c.executeChain files text inputs
    (some execution, next)

/-- The failures that are recorded for the next execution while something is loaded. -/
def recorded (c : Context) (files : FileTree) : Operation → List Failure
  | load path => (files.expandPath c.store.loaded path).filterMap Change.failure?
  | loadText text =>
    (files.expand c.store.loaded (.ofText c.config.root text)).filterMap Change.failure?
  | loadDefaults | voice _ _ | chain _ _ => c.recordedByDefaults files

/-- What the execution reports, if the operation makes one. -/
def report? (c : Context) (files : FileTree) : Operation → Option Report
  | load _ | loadText _ | loadDefaults => none
  | voice name inputs =>
    let lib := (c.ready files).library files
    some
      { loads := c.loadWarnings files
        missing? := lib.missing? name
        evaluation := lib.evaluationOfVoice name inputs }
  | chain text inputs =>
    let lib := (c.ready files).library files
    some
      { loads := c.loadWarnings files
        missing? := none
        evaluation := lib.evaluationOfChain text inputs }

section

variable (c : Context) (files : FileTree)

/-- The warnings of an execution are what it reports. -/
lemma warnings_perform (op : Operation) :
    (op.perform c files).1.map Execution.warnings = (op.report? c files).map Report.warnings := by
  cases op with
  | load path =>
    rw [perform]
    split <;> rfl
  | loadText text => rfl
  | loadDefaults => rfl
  | voice name inputs =>
    have hwarnings := Library.warnings_runVoice ((c.ready files).library files) name inputs
    simp only [perform, report?, Context.executeVoice, Context.report, Option.map_some,
      Report.warnings, hwarnings, List.append_assoc]
  | chain text inputs =>
    simp only [perform, report?, Context.executeChain, Context.report, Option.map_some,
      Report.warnings, Option.toList_none, List.append_nil]
    rfl

/-- What was in the store and what is recorded is either reported or still in the store. -/
lemma recorded_perform (op : Operation) :
    c.store.warnings ++ op.recorded c files =
      (op.report? c files).toList.flatMap Report.loads ++
        (op.perform c files).2.store.warnings := by
  cases op with
  | load path =>
    rw [perform, Context.load, recorded]
    cases hload : c.store.load files path with
    | ok store => exact (Store.warnings_load hload).symm
    | error failure =>
      obtain ⟨fault, -, -, hnone⟩ := Store.of_load_eq_error hload
      rw [hnone]
      exact List.append_nil _
  | loadText text => exact (Store.warnings_loadText c.store files c.config.root text).symm
  | loadDefaults => exact (Context.warnings_loadDefaults c files).symm
  | voice name inputs =>
    have hloads : c.loadWarnings files = c.store.warnings ++ c.recordedByDefaults files :=
      Context.warnings_loadDefaults c files
    simp [report?, recorded, perform, Context.executeVoice, Context.ready, Store.clearWarnings,
      hloads]
  | chain text inputs =>
    have hloads : c.loadWarnings files = c.store.warnings ++ c.recordedByDefaults files :=
      Context.warnings_loadDefaults c files
    simp [report?, recorded, perform, Context.executeChain, Context.ready, Store.clearWarnings,
      hloads]

end

end Operation

/-! ### Sessions -/

/-- Operations one after the other, each with the files as they are then. -/
abbrev Session := List (FileTree × Operation)

namespace Session

/-- What comes of each of the operations, in their order. -/
def collect {α : Type} (f : Context → FileTree → Operation → List α) (c : Context) :
    Session → List α
  | [] => []
  | (files, op) :: rest => f c files op ++ collect f (op.perform c files).2 rest

/-- The context after the operations. -/
def after (c : Context) : Session → Context
  | [] => c
  | (files, op) :: rest => after (op.perform c files).2 rest

/-- The executions that are made. -/
def executions : Context → Session → List Execution :=
  collect fun c files op => (op.perform c files).1.toList

/-- What the executions report. -/
def reports : Context → Session → List Report :=
  collect fun c files op => (op.report? c files).toList

/-- The failures that are recorded. -/
def recorded : Context → Session → List Failure :=
  collect fun c files op => op.recorded c files

lemma warnings_executions (c : Context) (session : Session) :
    (executions c session).map Execution.warnings = (reports c session).map Report.warnings := by
  induction session generalizing c with
  | nil => rfl
  | cons first rest ih =>
    obtain ⟨files, op⟩ := first
    have hfirst : (op.perform c files).1.toList.map Execution.warnings =
        (op.report? c files).toList.map Report.warnings := by
      rw [← Option.toList_map, ← Option.toList_map, Operation.warnings_perform]
    have hrest := ih (op.perform c files).2
    rw [executions, reports] at hrest ⊢
    rw [collect, collect, List.map_append, List.map_append, hfirst, hrest]

lemma recorded_eq (c : Context) (session : Session) :
    c.store.warnings ++ recorded c session =
      (reports c session).flatMap Report.loads ++ (after c session).store.warnings := by
  induction session generalizing c with
  | nil => exact List.append_nil _
  | cons first rest ih =>
    obtain ⟨files, op⟩ := first
    have hrest := ih (op.perform c files).2
    rw [recorded, reports] at hrest ⊢
    rw [collect, collect, after, List.flatMap_append, List.append_assoc, ← hrest,
      ← List.append_assoc, Operation.recorded_perform, List.append_assoc]

/-- A file that cannot be loaded adds nothing to what is recorded. -/
lemma recorded_of_error {c : Context} {files : FileTree} {path : String} {failure : Failure}
    (h : c.load files path = .error failure) (rest : Session) :
    recorded c ((files, .load path) :: rest) = recorded c rest := by
  have hload : c.store.load files path = .error failure := by
    rw [Context.load] at h
    cases hstore : c.store.load files path with
    | ok store =>
      rw [hstore] at h
      cases h
    | error other =>
      rw [hstore] at h
      cases h
      rfl
  obtain ⟨fault, -, -, hnone⟩ := Store.of_load_eq_error hload
  rw [recorded, collect, Operation.perform, h, Operation.recorded, hnone]
  rfl

/-- The warnings of each execution are load failures, then perhaps that the voice does not exist,
then the warnings of the evaluation. The load failures of all executions and those that are still in
the store at the end are what was in the store at first and what was recorded since, in that order.
The failure of a file that was to be loaded by itself is not among them. -/
theorem load_failures_reported_once (c : Context) (session : Session) :
    (executions c session).map Execution.warnings = (reports c session).map Report.warnings ∧
      c.store.warnings ++ recorded c session =
        (reports c session).flatMap Report.loads ++ (after c session).store.warnings ∧
      ∀ files path failure, c.load files path = .error failure →
        recorded c ((files, .load path) :: session) = recorded c session :=
  ⟨warnings_executions c session, recorded_eq c session, fun _ _ _ h => recorded_of_error h session⟩

end Session

end ChainScript
