import ChainScript.Context
import Mathlib.Tactic.Lemma
import Mathlib.Tactic.SplitIfs

/-!
# Executions are independent of each other

The first execution loads the definition files of the root and takes the load failures out of the
store. The context that it leaves is one that no execution changes, and what is executed in it is
executed as it would have been in the first place. Only the load failures are not reported again.
-/

namespace ChainScript

/-! ### A context that is ready -/

namespace Context

lemma defaultsLoaded_loadDefaults (c : Context) (files : FileTree) :
    (c.loadDefaults files).defaultsLoaded = true := by
  rw [loadDefaults]
  split_ifs with h
  · exact h
  · rfl

lemma loadDefaults_of_loaded {c : Context} (h : c.defaultsLoaded = true) (files : FileTree) :
    c.loadDefaults files = c :=
  if_pos h

lemma loadDefaults_ready (c : Context) (files : FileTree) :
    (c.ready files).loadDefaults files = c.ready files := by
  have hloaded : (c.ready files).defaultsLoaded = true := defaultsLoaded_loadDefaults c files
  exact loadDefaults_of_loaded hloaded files

/-- Nothing is left to do in a context that is ready. -/
lemma ready_ready (c : Context) (files : FileTree) :
    (c.ready files).ready files = c.ready files := by
  rw [ready, loadDefaults_ready]
  rfl

/-- No load failures are left in a context that is ready. -/
lemma loadWarnings_ready (c : Context) (files : FileTree) :
    (c.ready files).loadWarnings files = [] := by
  rw [loadWarnings, loadDefaults_ready]
  rfl

end Context

/-! ### Queries -/

/-- A call that executes something. -/
inductive Query where
  /-- Only the value of the voice is wanted. -/
  | value (name : String) (inputs : Bindings)
  | voice (name : String) (inputs : Bindings)
  | chain (text : String) (inputs : Bindings)

/-- What is returned for a query. -/
structure Answer where
  value : Value
  /-- The warnings, if they are wanted too. -/
  warnings? : Option (List Failure)

namespace Answer

/-- The value and the warnings of an execution. -/
def ofExecution (e : Execution) : Answer :=
  { value := e.value, warnings? := some e.warnings }

/-- Only the value of an execution. -/
def valueOf (e : Execution) : Answer :=
  { value := e.value, warnings? := none }

/-- The answer with load failures reported before its own warnings. -/
def report (failures : List Failure) (a : Answer) : Answer :=
  { a with warnings? := a.warnings?.map (failures ++ ·) }

@[simp]
lemma report_nil (a : Answer) : a.report [] = a := by
  simp [report]

end Answer

namespace Query

/-- The answer to a query that is put to the context, and the context after it. -/
def ask (c : Context) (files : FileTree) : Query → Answer × Context
  | value name inputs =>
    let (e, next) := c.executeVoice files name inputs
    (.valueOf e, next)
  | voice name inputs =>
    let (e, next) := c.executeVoice files name inputs
    (.ofExecution e, next)
  | chain text inputs =>
    let (e, next) := c.executeChain files text inputs
    (.ofExecution e, next)

/-- The context after queries, one after the other. -/
def askAll (c : Context) (files : FileTree) (queries : List Query) : Context :=
  queries.foldl (fun c q => (q.ask c files).2) c

/-- The answer to a query from a library alone, which knows of no load failures. -/
def own (lib : Library) : Query → Answer
  | value name inputs => .valueOf (Context.runVoice lib name inputs)
  | voice name inputs => .ofExecution (Context.runVoice lib name inputs)
  | chain text inputs => .ofExecution (Context.runChain lib text inputs)

section

variable (c : Context) (files : FileTree)

/-- The load failures come before what the library answers after loading. -/
lemma ask_eq (q : Query) :
    q.ask c files =
      ((q.own ((c.ready files).library files)).report (c.loadWarnings files), c.ready files) := by
  cases q <;> rfl

/-- It makes no difference what the first query is. -/
lemma askAll_cons (first : Query) (rest : List Query) :
    askAll c files (first :: rest) = c.ready files := by
  rw [askAll, List.foldl_cons, ask_eq]
  induction rest with
  | nil => rfl
  | cons q rest ih => rw [List.foldl_cons, ask_eq, Context.ready_ready, ih]

lemma ready_askAll (queries : List Query) :
    (askAll c files queries).ready files = c.ready files := by
  cases queries with
  | nil => rfl
  | cons first rest => rw [askAll_cons, Context.ready_ready]

lemma loadWarnings_askAll (queries : List Query) :
    (askAll c files queries).loadWarnings files =
      if queries = [] then c.loadWarnings files else [] := by
  cases queries with
  | nil => rfl
  | cons first rest => rw [askAll_cons, Context.loadWarnings_ready, if_neg (List.cons_ne_nil _ _)]

end

/-- What the queries before it leave of the answer to a query, and what it leaves of the context. -/
structure Independent (c : Context) (files : FileTree) (earlier : List Query) (q : Query) :
    Prop where
  /-- The value is the one that the query alone gives. -/
  value : (q.ask (askAll c files earlier) files).1.value = (q.ask c files).1.value
  /-- The warnings are those of the query alone, but only the first query reports load failures. -/
  warnings : ∃ own? : Option (List Failure),
    (q.ask c files).1.warnings? = own?.map (c.loadWarnings files ++ ·) ∧
      (q.ask (askAll c files earlier) files).1.warnings? =
        if earlier = [] then (q.ask c files).1.warnings? else own?
  /-- After the first query the context does not change again. -/
  settled : earlier ≠ [] →
    (q.ask (askAll c files earlier) files).2 = askAll c files earlier
  /-- No load failures are left in the store. -/
  reported : (q.ask (askAll c files earlier) files).2.store.warnings = []

/-- Queries do not influence each other, whatever they are and in whatever order they come. -/
theorem independent (c : Context) (files : FileTree) (earlier : List Query) (q : Query) :
    Independent c files earlier q where
  value := by
    rw [ask_eq, ask_eq, ready_askAll]
    rfl
  warnings := by
    refine ⟨(q.own ((c.ready files).library files)).warnings?, ?_, ?_⟩
    · rw [ask_eq]
      rfl
    · rw [ask_eq, ask_eq, ready_askAll, loadWarnings_askAll]
      split_ifs
      · rfl
      · rw [Answer.report_nil]
  settled := by
    intro hearlier
    obtain ⟨first, rest, rfl⟩ := List.exists_cons_of_ne_nil hearlier
    rw [ask_eq, askAll_cons, Context.ready_ready]
  reported := by
    rw [ask_eq]
    rfl

end Query

end ChainScript
