import ChainScript.Proofs.Naming

/-!
# Voices that only lead into a cycle

Voices whose chains have nothing but the name of another voice as a step lead from one to the next.
Where they come back to one of those before, this voice is running, so it is not entered again. That
is the only warning there is, and all the voices around it give the absent value on as it is.
-/

namespace ChainScript

namespace Store

/-- The first voice has no parameters, and the only step of its chain is the name of the second. -/
def Forwards (s : Store) (name next : String) : Prop :=
  ∃ text, s.voice? name = some ⟨name, [], .chain text⟩ ∧ Chain.steps text = [next]

/-- From the voice with the given name one gets to `back` through the voices of the path, each of
which forwards to the next. -/
inductive LeadsTo (s : Store) (back : String) : String → List String → Prop where
  | arrived : LeadsTo s back back []
  | forward {name next : String} {rest : List String} (h : s.Forwards name next)
      (hrest : LeadsTo s back next rest) : LeadsTo s back name (name :: rest)

/-- The voices of the path are distinct. Each of them forwards to the next, and the last one to
`back`, which is one of them. None of their names is bound by a chain or by a call. -/
structure Lasso (s : Store) (back first : String) (path : List String) : Prop where
  leads : s.LeadsTo back first path
  distinct : path.Nodup
  returns : back ∈ path
  isIdentifier : ∀ name ∈ path, Lexeme.isIdentifier name.toList = true
  notReserved : ∀ name ∈ path, name ≠ "last" ∧ name ≠ "input"

namespace LeadsTo

variable {s : Store} {back name : String} {path : List String}

lemma mem_or_eq (h : s.LeadsTo back name path) : name ∈ path ∨ name = back := by
  cases h with
  | arrived => exact Or.inr rfl
  | forward _ _ => exact Or.inl (List.mem_cons_self ..)

lemma exists_forwards (h : s.LeadsTo back name path) : ∀ n ∈ path, ∃ next, s.Forwards n next := by
  induction h with
  | arrived => exact List.forall_mem_nil _
  | forward hforwards _ ih => exact List.forall_mem_cons.mpr ⟨⟨_, hforwards⟩, ih⟩

end LeadsTo

/-- All voices on the way are voices of the lasso, that which the way leads to included. -/
lemma Lasso.mem_of_leadsTo {s : Store} {back first name : String} {path whole : List String}
    (hlasso : s.Lasso back first whole) (h : s.LeadsTo back name path) (hsubset : path ⊆ whole) :
    name ∈ whole := by
  rcases h.mem_or_eq with hmem | rfl
  · exact hsubset hmem
  · exact hlasso.returns

end Store

/-! ### Along the path -/

namespace Library

variable {lib : Library} {back first name text : String} {path whole running : List String}
  {scope : Scope}

/-- A call of a voice without parameters binds `input` and `last` only before the first step. -/
lemma get?_voiceScope_nil (hreserved : name ≠ "last" ∧ name ≠ "input") (last : Value) :
    (voiceScope (scope.set "last" last) [] last).get? name = scope.get? name := by
  rw [voiceScope, Scope.get?_setAll, if_neg List.not_mem_nil,
    Scope.get?_set_of_ne _ _ hreserved.2.symm, Scope.get?_child,
    Scope.get?_set_of_ne _ _ hreserved.1.symm]

/-- Executing a voice that forwards to another one is executing the other one in the scope of the
call, while the first one is running. -/
lemma executeVoice_of_forwards {next chain : String} (hname : name ∉ running)
    (hforwards : lib.store.Forwards name next)
    (hv : lib.store.voice? name = some ⟨name, [], .chain text⟩)
    (hw : lib.store.voice? next = some ⟨next, [], .chain chain⟩)
    (hidentifier : Lexeme.isIdentifier next.toList = true) (hlast : next ≠ "last")
    (hunbound : scope.get? next = none) (seed : Value) :
    let r := lib.executeVoice running name text scope seed
    let inner := lib.executeVoice (name :: running) next chain
      (voiceScope (scope.set "last" seed) [] seed) seed
    Alike (r.value, r.trace) (inner.value, inner.trace) := by
  obtain ⟨text', hv', hsteps⟩ := hforwards
  obtain rfl : text = text' := by simpa [hv] using hv'
  have hnone : (scope.set "last" seed).get? next = none := by
    rw [Scope.get?_set_of_ne _ _ hlast.symm, hunbound]
  have hentered := executeVoice_of_step hname hsteps
    (Chain.isToken_of_isIdentifier hidentifier).2 hw hnone
  rwa [enter_eq_executeVoice hw rfl] at hentered

/-- From any voice on the way around a lasso, the voice that is entered again is cut, and all that
comes back of it is the absent value and one warning. -/
theorem executeVoice_alike_cycle (hlasso : lib.store.Lasso back first whole)
    (h : lib.store.LeadsTo back name path) (hsubset : path ⊆ whole) (hdistinct : path.Nodup)
    (hidle : ∀ n ∈ path, n ∉ running) (hback : back ∈ path ∨ back ∈ running)
    (hunbound : ∀ n ∈ whole, scope.get? n = none)
    (hv : lib.store.voice? name = some ⟨name, [], .chain text⟩) (seed : Value) :
    let r := lib.executeVoice running name text scope seed
    Alike (r.value, r.trace) (.absent, [.warned (.cycle back)]) := by
  induction h generalizing running scope text with
  | arrived =>
    have hrunning : back ∈ running := hback.resolve_left List.not_mem_nil
    rw [executeVoice, if_pos hrunning]
    exact .refl _
  | @forward name next rest hforwards hrest ih =>
    obtain ⟨-, hsubset⟩ := List.cons_subset.mp hsubset
    obtain ⟨hnot, hdistinct⟩ := List.nodup_cons.mp hdistinct
    obtain ⟨hname, hidle⟩ := List.forall_mem_cons.mp hidle
    have hnext : next ∈ whole := hlasso.mem_of_leadsTo hrest hsubset
    obtain ⟨_, chain, hw, -⟩ := hlasso.leads.exists_forwards next hnext
    have hentered := executeVoice_of_forwards hname hforwards hv hw
      (hlasso.isIdentifier next hnext) (hlasso.notReserved next hnext).1 (hunbound next hnext) seed
    -- this voice is running now, and it does not come again on the rest of the path
    have hidle : ∀ n ∈ rest, n ∉ name :: running := by
      intro n hn
      rw [List.mem_cons, not_or]
      exact ⟨fun heq => hnot (heq ▸ hn), hidle n hn⟩
    have hback : back ∈ rest ∨ back ∈ name :: running := by
      rw [List.mem_cons] at hback ⊢
      tauto
    have hscope : ∀ n ∈ whole,
        (voiceScope (scope.set "last" seed) [] seed).get? n = none := by
      intro n hn
      rw [get?_voiceScope_nil (hlasso.notReserved n hn), hunbound n hn]
    have hcut := ih hsubset hdistinct hidle hback hscope hw
    exact ⟨hentered.value.trans hcut.value, hentered.warnings.trans hcut.warnings⟩

end Library

/-! ### Executing the first voice -/

namespace Context

variable {back first : String} {path : List String} {inputs : Bindings}

lemma runVoice_of_lasso {lib : Library} (h : lib.store.Lasso back first path)
    (hinputs : ∀ n ∈ path, (Scope.ofBindings inputs).get? n = none) :
    runVoice lib first inputs = ⟨.absent, [.cycle back]⟩ := by
  have hfirst : first ∈ path := h.mem_of_leadsTo h.leads (List.Subset.refl path)
  obtain ⟨_, text, hv, -⟩ := h.leads.exists_forwards first hfirst
  have halike := Library.executeVoice_alike_cycle h h.leads (List.Subset.refl path) h.distinct
    (fun _ _ => List.not_mem_nil) (Or.inl h.returns) hinputs hv
    ((Scope.ofBindings inputs).value "input")
  rw [runVoice, hv]
  exact congrArg₂ Execution.mk halike.value halike.warnings

/-- Executing a voice that leads into a cycle without doing anything else gives an absent value.
Beside load failures the only warning is that of the cycle, and it names the voice that would have
been entered again, wherever the path comes back to itself. -/
theorem executeVoice_lasso (c : Context) (files : FileTree)
    (h : (c.ready files).store.Lasso back first path)
    (hinputs : ∀ n ∈ path, (Scope.ofBindings inputs).get? n = none) :
    (c.executeVoice files first inputs).1 =
      ⟨.absent, c.loadWarnings files ++ [.cycle back]⟩ := by
  have hlasso : ((c.ready files).library files).store.Lasso back first path := h
  rw [executeVoice, runVoice_of_lasso hlasso hinputs]
  rfl

end Context

namespace Lariat

/-- A voice that leads into a cycle of three, chains with and without braces, and a voice beside
the path. -/
def voices : List Voice :=
  [⟨"honda", [], .chain "{loop}"⟩, ⟨"loop", [], .chain "{ spoke }"⟩,
    ⟨"spoke", [], .chain "upper"⟩, ⟨"upper", [], .chain "loop"⟩,
    ⟨"loose", ["end"], .chain "honda -> loose"⟩]

/-- A context with these voices, a load failure, and the built-in primitives, of which one has the
name of a voice. -/
def context : Context :=
  { Context.ofConfig { lazyLoad := false } with
    store := voices.foldl Store.insertVoice (Store.empty.warn (.missing "knot")) }

/-- Inputs that bind the parameter of the voice beside the path. -/
def inputs : Bindings := .ofList Prod.fst [("end", .str "loop"), ("input", .bool true)]

lemma lasso :
    (context.ready {}).store.Lasso "loop" "honda" ["honda", "loop", "spoke", "upper"] where
  leads := by
    refine .forward ⟨_, rfl, ?_⟩ (.forward ⟨_, rfl, ?_⟩ (.forward ⟨_, rfl, ?_⟩
      (.forward ⟨_, rfl, ?_⟩ .arrived)))
    all_goals decide +kernel
  distinct := by decide
  returns := by decide
  isIdentifier := by decide
  notReserved := by decide

theorem executeVoice_lasso_lariat :
    (context.ready {}).store.Lasso "loop" "honda" ["honda", "loop", "spoke", "upper"] ∧
      (∀ n ∈ ["honda", "loop", "spoke", "upper"], (Scope.ofBindings inputs).get? n = none) ∧
      (context.executeVoice {} "honda" inputs).1 = ⟨.absent, [.missing "knot", .cycle "loop"]⟩ := by
  have hinputs : ∀ n ∈ ["honda", "loop", "spoke", "upper"],
      (Scope.ofBindings inputs).get? n = none := by
    intro n hn
    simp only [List.mem_cons, List.not_mem_nil, or_false] at hn
    rcases hn with rfl | rfl | rfl | rfl <;> rfl
  exact ⟨lasso, hinputs, context.executeVoice_lasso {} lasso hinputs⟩

end Lariat

end ChainScript
