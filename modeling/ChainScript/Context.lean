import ChainScript.Builtin
import ChainScript.Config
import ChainScript.Evaluate
import ChainScript.Store.Load

/-!
# Contexts

A context owns the store and the primitives that voices are executed with. The definition files of
its root are loaded once, at the latest when something is executed. Load failures are kept in the
store until the next execution reports them.
-/

namespace ChainScript

/-- The store and the primitives that voices are executed with. -/
structure Context where
  config : Config
  store : Store
  registry : Registry
  /-- Nothing is left to load from the root. -/
  defaultsLoaded : Bool

/-- The result of an execution, and all warnings since the one before it. -/
structure Execution where
  value : Value
  warnings : List Failure

namespace Context

/-- The context that a configuration describes. -/
def ofConfig (config : Config) : Context :=
  { config
    store := .empty
    registry := Builtin.registry config.root config.search
    defaultsLoaded := !config.lazyLoad }

/-- What chains are resolved against in this context. -/
def library (c : Context) (files : FileTree) : Library :=
  { store := c.store, registry := c.registry, files }

/-! ### Loading -/

/-- Loads a definition file and what it includes. -/
def load (c : Context) (files : FileTree) (path : String) : Except Failure Context :=
  (c.store.load files path).map fun store => { c with store }

theorem of_load_eq_ok {c next : Context} {files : FileTree} {path : String}
    (h : c.load files path = .ok next) :
    ∃ store, c.store.load files path = .ok store ∧ next = { c with store } := by
  rw [load] at h
  cases loaded : c.store.load files path with
  | error failure =>
    rw [loaded] at h
    cases h
  | ok store =>
    rw [loaded] at h
    cases h
    exact ⟨store, rfl, rfl⟩

/-- Loads a text. Its includes start from the root. -/
def loadText (c : Context) (files : FileTree) (text : String) : Context :=
  { c with store := c.store.loadText files c.config.root text }

/-- Adds a primitive, instead of the one with the same name if there is one. -/
def register (c : Context) (name : String) (p : Primitive) : Context :=
  { c with registry := c.registry.register name p }

/-- Loads one of the definition files, and notes if it cannot be read. -/
def loadDefault (files : FileTree) (s : Store) (path : String) : Store :=
  match s.load files path with
  | .ok s => s
  | .error failure => s.warn failure

/-- Loads the definition files of the root, and notes if the root cannot be read. -/
def loadRoot (config : Config) (files : FileTree) (s : Store) : Store :=
  match config.definitionFiles files with
  | .ok paths => paths.foldl (loadDefault files) s
  | .error fault => s.warn (.unreadable config.root fault.message)

/-- Loads the definition files of the root, unless that has been done before. -/
def loadDefaults (c : Context) (files : FileTree) : Context :=
  if c.defaultsLoaded then c
  else { c with store := loadRoot c.config files c.store, defaultsLoaded := true }

/-- The context as an execution leaves it: with the definition files of the root loaded, and
without the load failures that the execution reports. -/
def ready (c : Context) (files : FileTree) : Context :=
  let c := c.loadDefaults files
  { c with store := c.store.clearWarnings }

/-- The load failures that the next execution reports. -/
def loadWarnings (c : Context) (files : FileTree) : List Failure :=
  (c.loadDefaults files).store.warnings

/-! ### Executing -/

/-- Runs a voice with the given inputs. The value of `input` precedes the first step, and it is the
value of each parameter that is not among the inputs. -/
def runVoice (lib : Library) (name : String) (inputs : Bindings) : Execution :=
  match lib.store.voice? name with
  | none => { value := .absent, warnings := [.missing name] }
  | some v =>
    match v.body with
    | .literal value => { value, warnings := [] }
    | .chain text =>
      let scope := Scope.ofBindings inputs
      let seed := scope.value "input"
      let r := lib.executeVoice [] v.name text (scope.setAllIfUnbound v.parameters seed) seed
      { value := r.value, warnings := r.warnings }

/-- Runs a chain text with the given inputs. The value of `input` precedes the first step. -/
def runChain (lib : Library) (chain : String) (inputs : Bindings) : Execution :=
  let scope := Scope.ofBindings inputs
  let r := lib.execute [] chain scope (scope.value "input")
  { value := r.value, warnings := r.warnings }

/-- The execution with load failures reported before its own warnings. -/
def report (failures : List Failure) (e : Execution) : Execution :=
  { e with warnings := failures ++ e.warnings }

/-- Executes the voice with the given name. A voice that does not exist gives an absent value. -/
def executeVoice (c : Context) (files : FileTree) (name : String) (inputs : Bindings) :
    Execution × Context :=
  let next := c.ready files
  (report (c.loadWarnings files) (runVoice (next.library files) name inputs), next)

/-- Executes a chain text that no voice has. -/
def executeChain (c : Context) (files : FileTree) (chain : String) (inputs : Bindings) :
    Execution × Context :=
  let next := c.ready files
  (report (c.loadWarnings files) (runChain (next.library files) chain inputs), next)

end Context

end ChainScript
