import ChainScript.Builtin
import ChainScript.Proofs.Simulation

/-!
# Scopes that read the same

Scopes agree if every name reads the same in both, whichever layer binds it. Agreement is kept by
all that an execution does to scopes. A primitive is extensional if it cannot tell two agreeing scopes
apart, and the built-in primitives are.
-/

namespace ChainScript

namespace Scope

/-- Every name reads the same in both scopes. -/
def Agree (s t : Scope) : Prop :=
  ∀ name, s.get? name = t.get? name

/-! ### Reading after binding several names -/

lemma get?_setAll (s : Scope) (names : List String) (value : Value) (other : String) :
    (s.setAll names value).get? other =
      if other ∈ names then some value else s.get? other := by
  induction names generalizing s with
  | nil => rfl
  | cons name names ih =>
    rw [show s.setAll (name :: names) value = (s.set name value).setAll names value from rfl, ih,
      get?_set]
    by_cases hmem : other ∈ names
    · simp [hmem]
    · by_cases hname : name = other
      · simp [hname]
      · simp [hmem, hname, Ne.symm hname]

lemma get?_setAllIfUnbound (s : Scope) (names : List String) (value : Value) (other : String) :
    (s.setAllIfUnbound names value).get? other =
      if other ∈ names then some ((s.get? other).getD value) else s.get? other := by
  induction names generalizing s with
  | nil => rfl
  | cons name names ih =>
    rw [show s.setAllIfUnbound (name :: names) value =
      (s.setIfUnbound name value).setAllIfUnbound names value from rfl, ih, get?_setIfUnbound]
    by_cases hname : name = other
    · simp [hname]
    · simp [hname, Ne.symm hname]

/-! ### Agreement -/

namespace Agree

variable {s t : Scope}

lemma get? (h : Agree s t) : s.get? = t.get? := funext h

lemma set (h : Agree s t) (name : String) (value : Value) :
    Agree (s.set name value) (t.set name value) := by
  intro other
  rw [get?_set, get?_set, h other]

lemma child (h : Agree s t) : Agree s.child t.child := by
  intro other
  rw [get?_child, get?_child, h other]

/-- In agreeing scopes with the same own bindings the same names are unbound, so binding these gives
agreeing scopes with the same own bindings. -/
lemma setAllIfUnbound (h : Agree s t) (hown : s.own = t.own) (names : List String)
    (value : Value) :
    Agree (s.setAllIfUnbound names value) (t.setAllIfUnbound names value) ∧
      (s.setAllIfUnbound names value).own = (t.setAllIfUnbound names value).own := by
  induction names generalizing s t with
  | nil => exact ⟨h, hown⟩
  | cons name names ih =>
    refine ih (s := s.setIfUnbound name value) (t := t.setIfUnbound name value) ?_ ?_
    · intro other
      rw [get?_setIfUnbound, get?_setIfUnbound, h other]
    · rw [setIfUnbound, setIfUnbound, contains, contains, h name]
      split
      · exact hown
      · rw [Scope.set, Scope.set, hown]

/-- Primitives are called in agreeing scopes with the same own bindings if the callers agree. -/
lemma callScope (h : Agree s t) (last : Value) :
    Agree (callScope s last) (callScope t last) ∧
      (ChainScript.callScope s last).ownNames = (ChainScript.callScope t last).ownNames := by
  have hcall := h.child.setAllIfUnbound rfl aliases last
  exact ⟨hcall.1, congrArg Catalogue.keys hcall.2⟩

end Agree

end Scope

/-! ### Extensional primitives -/

/-- How a call of the primitive ends depends only on what the names read in its scope, and on which
of them are bound in the scope itself. -/
def Primitive.Extensional (p : Primitive) : Prop :=
  ∀ files s t, Scope.Agree s t → s.ownNames = t.ownNames → (p.call files s).1 = (p.call files t).1

/-- All registered primitives are extensional. -/
def Registry.Extensional (r : Registry) : Prop :=
  ∀ name p, r.primitive? name = some p → p.Extensional

namespace Registry

lemma extensional_empty : Registry.Extensional .empty := by
  intro name p h
  cases h

lemma Extensional.register {r : Registry} (hr : r.Extensional) {name : String} {p : Primitive}
    (hp : p.Extensional) : (r.register name p).Extensional := by
  intro other q hq
  rw [primitive?_register] at hq
  split_ifs at hq
  · cases hq
    exact hp
  · exact hr other q hq

lemma extensional_ofList {entries : List (String × Primitive)}
    (h : ∀ entry ∈ entries, entry.2.Extensional) :
    Registry.Extensional (.ofList Prod.fst entries) := by
  suffices ∀ r : Registry, r.Extensional →
      Registry.Extensional (entries.foldl Catalogue.insert r) from this .empty extensional_empty
  induction entries with
  | nil => exact fun r hr => hr
  | cons entry entries ih =>
    intro r hr
    refine ih (fun e he => h e (List.mem_cons_of_mem _ he)) (r.insert entry) ?_
    exact hr.register (h entry (List.mem_cons_self ..))

end Registry

lemma Primitive.extensional_ofScope {f : Scope → Except Failure Value}
    (hf : ∀ {s t}, s.get? = t.get? → f s = f t) : (Primitive.ofScope f).Extensional := by
  intro files s t h _
  exact congrArg Outcome.ofExcept (hf h.get?)

lemma Primitive.extensional_ofFiles {f : FileTree → Scope → Except Failure Value}
    (hf : ∀ {files s t}, s.get? = t.get? → f files s = f files t) :
    (Primitive.ofFiles f).Extensional := by
  intro files s t h _
  exact congrArg Outcome.ofExcept (hf h.get?)

namespace Builtin

variable {s t : Scope}

lemma firstOf?_congr (h : s.get? = t.get?) (names : List String) :
    s.firstOf? names = t.firstOf? names := by
  rw [Scope.firstOf?, Scope.firstOf?, h]

lemma argument_congr (h : s.get? = t.get?) (name : String) (others : List String) :
    s.argument name others = t.argument name others := by
  rw [Scope.argument, Scope.argument, firstOf?_congr h]

lemma textArgument_congr (h : s.get? = t.get?) (name : String) (others : List String) :
    s.textArgument name others = t.textArgument name others := by
  rw [Scope.textArgument, Scope.textArgument, argument_congr h]

lemma findZeros_congr (settings : Search) (h : s.get? = t.get?) :
    findZeros settings s = findZeros settings t := by
  have hbound (name : String) (default : Float) : readBound s name default =
      readBound t name default := by
    rw [readBound, readBound, h]
  rw [findZeros, findZeros, argument_congr h, hbound, hbound]

/-- The built-in primitives read their scope by name only. -/
theorem extensional_registry (root : String) (settings : Search) :
    (registry root settings).Extensional := by
  apply Registry.extensional_ofList
  intro entry hentry
  have hmapText (f : List Char → List Char) : (Primitive.ofScope (mapText f)).Extensional :=
    Primitive.extensional_ofScope fun h => by rw [mapText, mapText, textArgument_congr h]
  simp only [List.mem_cons, List.not_mem_nil, or_false] at hentry
  rcases hentry with rfl | rfl | rfl | rfl | rfl | rfl | rfl
  · exact Primitive.extensional_ofScope fun h => by rw [identity, identity, firstOf?_congr h]
  · exact hmapText _
  · exact hmapText _
  · exact hmapText _
  · exact Primitive.extensional_ofScope fun h => by rw [length, length, argument_congr h]
  · exact Primitive.extensional_ofFiles fun h => by rw [readFile, readFile, textArgument_congr h]
  · exact Primitive.extensional_ofScope fun h => findZeros_congr settings h

end Builtin

/-! ### Executions -/

/-- With extensional primitives, executions in agreeing scopes go alike, as long as no names come up
but those that `N` holds for, and it holds for all that the store mentions. -/
lemma Simulation.ofAgree {lib : Library} (hprimitives : lib.registry.Extensional)
    {N : String → Prop} (hN : ∀ name, lib.store.Mentions name → N name) :
    Simulation lib lib Scope.Agree N where
  get? hR _ := hR _
  set hR name value := hR.set name value
  child hR := hR.child
  voice? _ _ _ := rfl
  primitive? _ _ _ _ := rfl
  call hR hp last :=
    hprimitives _ _ hp _ _ _ (hR.callScope last).1 (hR.callScope last).2
  names _ _ _ hv hbody other hother := hN other (Store.mentions_of_voice? hv hbody hother)

end ChainScript
