import ChainScript.Proofs.Steps

/-!
# What a run does to its scope

A chain never changes what a name has been bound to, `last` apart, and the names that it binds are
among its own steps. Voices and primitives bind what they like, but in scopes of their own.
-/

namespace ChainScript

/-- Apart from `last`, what is bound before is bound to the same value after, and what is new is an
identifier that is one of the tokens by itself, with a value that is not absent. The scopes around
are the same. -/
structure Scope.Extends (tokens : List String) (before after : Scope) : Prop where
  kept : ∀ {name value}, name ≠ "last" → before.get? name = some value →
    after.get? name = some value
  new : ∀ {name value}, name ≠ "last" → before.get? name = none → after.get? name = some value →
    name ∈ tokens ∧ Chain.alternatives name = [name] ∧ Lexeme.isIdentifier name.toList = true ∧
      value.isAbsent = false
  outer : after.outer = before.outer

namespace Scope.Extends

variable {tokens : List String} {a b c : Scope}

lemma refl (tokens : List String) (s : Scope) : Extends tokens s s where
  kept _ h := h
  new _ hnone hsome := by rw [hnone] at hsome; cases hsome
  outer := rfl

lemma trans (hab : Extends tokens a b) (hbc : Extends tokens b c) : Extends tokens a c where
  kept hname h := hbc.kept hname (hab.kept hname h)
  new := by
    intro name value hname hnone hsome
    cases hb : b.get? name with
    | none => exact hbc.new hname hb hsome
    | some bound =>
      have hbound : some bound = some value := (hbc.kept hname hb).symm.trans hsome
      cases hbound
      exact hab.new hname hnone hb
  outer := hbc.outer.trans hab.outer

lemma mono {tokens' : List String} (htokens : tokens ⊆ tokens') (h : Extends tokens a b) :
    Extends tokens' a b where
  kept := h.kept
  new hname hnone hsome := (h.new hname hnone hsome).imp_left fun hmem => htokens hmem
  outer := h.outer

lemma set_last (tokens : List String) (s : Scope) (value : Value) :
    Extends tokens s (s.set "last" value) where
  kept hname h := by rwa [Scope.get?_set_of_ne _ _ hname.symm]
  new hname hnone hsome := by
    rw [Scope.get?_set_of_ne _ _ hname.symm, hnone] at hsome
    cases hsome
  outer := Scope.outer_set s "last" value

/-- A fresh identifier takes a value that is not absent. -/
lemma set_fresh {token : String} {value : Value} (hfresh : a.get? token = none)
    (htoken : Chain.alternatives token = [token])
    (hid : Lexeme.isIdentifier token.toList = true) (hvalue : value.isAbsent = false) :
    Extends [token] a (a.set token value) where
  kept {name bound} _ h := by
    have hne : token ≠ name := by
      rintro rfl
      rw [hfresh] at h
      cases h
    rwa [Scope.get?_set_of_ne _ _ hne]
  new {name bound} _ hnone hsome := by
    rw [Scope.get?_set] at hsome
    split_ifs at hsome with hname
    · cases hsome
      subst hname
      exact ⟨List.mem_singleton_self _, htoken, hid, hvalue⟩
    · rw [hnone] at hsome
      cases hsome
  outer := Scope.outer_set a token value

end Scope.Extends

/-- A step extends the scope by no other name than its token. -/
lemma Step.extends_run (lib : Library) (enter : Enter) (scope : Scope) (last : Value)
    {token : String} (htoken : Text.trimmed token = token) :
    Scope.Extends [token] scope
      ((Step.resolve lib scope token).run lib enter scope last).scope := by
  rcases Step.scope_run_resolve lib enter scope last htoken with
    h | ⟨hfresh, halternatives, hid, hlast, h⟩
  · rw [h]
    exact .refl _ _
  · rw [h]
    exact .set_fresh hfresh halternatives hid hlast

namespace Library

variable (lib : Library) (enter : Enter)

/-- Steps extend the scope by no other names than their tokens, however voices are entered. -/
theorem extends_runSteps {tokens : List String}
    (htokens : ∀ token ∈ tokens, Text.trimmed token = token) (scope : Scope) (last : Value) :
    Scope.Extends tokens scope (lib.runSteps enter tokens scope last).scope := by
  induction tokens generalizing scope last with
  | nil => exact .refl _ _
  | cons token rest ih =>
    rw [runSteps]
    have hstep := Step.extends_run lib enter scope last (htokens token (List.mem_cons_self ..))
    have hrest := ih (fun t ht => htokens t (List.mem_cons_of_mem _ ht))
    refine (hstep.mono ?_).trans ((Scope.Extends.set_last _ _ _).trans ((hrest _ _).mono ?_))
    · exact List.cons_subset.mpr ⟨List.mem_cons_self .., List.nil_subset _⟩
    · exact List.subset_cons_self ..

/-- The last result stays bound to `last` from step to step. -/
lemma get?_last_runSteps (tokens : List String) {scope : Scope} {last : Value}
    (hlast : scope.get? "last" = some last) :
    (lib.runSteps enter tokens scope last).scope.get? "last" =
      some (lib.runSteps enter tokens scope last).value := by
  induction tokens generalizing scope last with
  | nil => exact hlast
  | cons token rest ih =>
    rw [runSteps]
    exact ih (Scope.get?_set_self _ _ _)

/-- After a run `last` has its result, and apart from that the run has extended its scope by
identifiers that are steps of the chain. What voices and primitives did inside it is not seen. -/
theorem execute_extends (lib : Library) (running : List String) (chain : String) (scope : Scope)
    (seed : Value) :
    (lib.execute running chain scope seed).scope.get? "last" =
        some (lib.execute running chain scope seed).value ∧
      Scope.Extends (Chain.steps chain) scope (lib.execute running chain scope seed).scope := by
  constructor
  · exact get?_last_runSteps lib _ _ (Scope.get?_set_self _ _ _)
  · have hlast := Scope.Extends.set_last (Chain.steps chain) scope seed
    exact hlast.trans
      (extends_runSteps lib _ (fun token htoken => Chain.trimmed_of_mem_steps htoken) _ _)

end Library

end ChainScript
