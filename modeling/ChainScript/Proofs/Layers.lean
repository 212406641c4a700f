import ChainScript.Proofs.Agreement

/-!
# Layers do not show

An execution cannot tell how the bindings that it starts with are spread over the layers of its
scope: one layer with all that is visible does as well.
-/

namespace ChainScript

namespace Scope

lemma lookup_cons (layer : Bindings) (layers : List Bindings) (name : String) :
    lookup (layer :: layers) name =
      ((layer.find? name).map Prod.snd).or (lookup layers name) :=
  get?_eq ⟨layer, layers⟩ name

lemma lookup_singleton (layer : Bindings) (name : String) :
    lookup [layer] name = (layer.find? name).map Prod.snd := by
  rw [lookup_cons]
  exact Option.or_none

/-- A name reads the same when the layers are put into one. -/
lemma lookup_foldr_layers (layers : List Bindings) (name : String) :
    lookup [layers.foldr (fun layer (around : Bindings) => layer.entries.foldl Catalogue.insert
      around) .empty] name = lookup layers name := by
  induction layers with
  | nil => rfl
  | cons layer layers ih =>
    rw [lookup_singleton] at ih ⊢
    rw [List.foldr_cons, Catalogue.find?_foldl_insert layer.sorted, Option.map_or, ih, lookup_cons,
      Catalogue.find?]

/-- A scope reads like the flat one that binds what is visible in it. -/
lemma agree_visible (s : Scope) : Agree s (ofBindings s.visible) :=
  fun name => (lookup_foldr_layers s.layers name).symm

end Scope

namespace Library

/-- A chain executes alike in a scope with layers and in the flat scope that binds what is visible
there: with the same value and the same warnings, and every name reads the same afterwards. The
primitives have to be extensional. -/
theorem execute_flat (lib : Library) (hprimitives : lib.registry.Extensional)
    (running : List String) (chain : String) (scope : Scope) (seed : Value) :
    let flat := Scope.ofBindings scope.visible
    let r := lib.execute running chain scope seed
    let r' := lib.execute running chain flat seed
    (∀ name, scope.get? name = flat.get? name) ∧
      r.value = r'.value ∧ r.warnings = r'.warnings ∧
      ∀ name, r.scope.get? name = r'.scope.get? name := by
  have hsim : Simulation lib lib Scope.Agree fun _ => True :=
    .ofAgree hprimitives fun _ _ => trivial
  have hrunning : ∀ name, True → (name ∈ running ↔ name ∈ running) := fun _ _ => Iff.rfl
  have hnames : ∀ name, Chain.Mentions chain name → True := fun _ _ => trivial
  have halike := hsim.execute_alike hrunning hnames (scope.agree_visible.set "last" seed)
  exact ⟨scope.agree_visible, halike.value, halike.warnings, halike.scope⟩

end Library

namespace Overlay

/-- The built-in primitives and a voice that reads what its caller binds. -/
def library : Library where
  store := Store.empty.insertVoice ⟨"mutter", ["text"], .chain "text + line -> lower -> result"⟩
  registry := Builtin.registry "." {}
  files := {}

/-- Three layers, of which each hides a name of the next one. -/
def scope : Scope :=
  ((((Scope.empty.set "line" (.str "one")).set "path" .absent).child.set "line"
    (.str "two")).child.set "path" (.bool true)).set "text" .absent

theorem execute_flat_overlay :
    library.registry.Extensional ∧
      (library.execute [] "line -> mutter -> path -> mutter" scope .absent).value =
        (library.execute [] "line -> mutter -> path -> mutter" (.ofBindings scope.visible)
          .absent).value :=
  have hprimitives := Builtin.extensional_registry "." {}
  ⟨hprimitives, (Library.execute_flat library hprimitives [] "line -> mutter -> path -> mutter"
    scope .absent).2.1⟩

end Overlay

end ChainScript
