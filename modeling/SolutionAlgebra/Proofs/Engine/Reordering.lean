import SolutionAlgebra.Proofs.Expression.Reads
import SolutionAlgebra.Proofs.Plan.Events

/-! # Filters move past extensions

Where errors are not strict, filtering keeps some of the solutions and extending changes each one by
itself, so neither depends on what the other solutions are. An extension by a variable that the
condition does not read leaves what the condition reads and the group of the solution alone. So it
does not matter which of the two comes first.

* **`Plan.solutions_filter`**, **`Plan.solutions_extend`** — filters and extensions that are not
  strict, as functions of lists.
* **`Plan.holds_extended`** — extending does not change a condition that does not read the variable.
* **`Engine.filter_extend_comm`** — filtering what is extended gives the same as extending what is
  filtered. -/

namespace SolutionAlgebra

namespace Plan

variable {ambient ambient' ambient'' : Ambient} {rows : List Solution} {v : Variable}

/-! ## Without strict errors -/

/-- Whether an expression has a term for a solution that counts as true. -/
def holds (ambient : Ambient) (predicate : Compiled) (row : Solution) : Bool :=
  match predicate.evaluateTerm ambient row with
  | .ok (some t) => t.effectiveTruth? = some true
  | _ => false

/-- A solution with a variable bound to the term of an expression, if there is one. -/
def extended (ambient : Ambient) (v : Variable) (e : Compiled) (row : Solution) : Solution :=
  match e.evaluateTerm ambient row with
  | .ok (some t) => row.bind v t
  | _ => row

/-- What a filter that is not strict makes of a solution. -/
theorem filterRow_eq (ambient : Ambient) (predicate : Compiled) (row : Solution) :
    filterRow ambient predicate false row =
      if holds ambient predicate row then [.ok row] else [] := by
  unfold filterRow holds
  cases predicate.evaluateTerm ambient row with
  | error fault => rfl
  | ok t =>
      cases t with
      | none => rfl
      | some t => simp only [decide_eq_true_eq]

/-- What an extension that is not strict makes of a solution without the variable. -/
theorem extendRow_eq {row : Solution} (ambient : Ambient) (e : Compiled) (h : row.has v = false) :
    extendRow ambient v e false row = [.ok (extended ambient v e row)] := by
  unfold extendRow extended
  rw [h]
  cases e.evaluateTerm ambient row with
  | error fault => rfl
  | ok t => cases t <;> rfl

/-- **A filter that is not strict keeps the solutions for which its condition holds**, whatever the
size of batches. -/
theorem solutions_filter (ambient : Ambient) (size : Nat) (rows : List Solution)
    (predicate : Compiled) :
    (filter (values rows) predicate false).solutions ambient size =
      .ok (rows.filter (holds ambient predicate)) := by
  rw [solutions_eq_outcome, events, events]
  induction rows with
  | nil => rfl
  | cons row rows ih =>
      rw [List.map_cons, List.flatMap_cons, onRow_ok, filterRow_eq, List.filter_cons]
      cases holds ambient predicate row with
      | false => exact ih
      | true =>
          simp only [if_true, List.singleton_append, outcome_ok_cons, ih]
          rfl

/-- **An extension that is not strict changes each solution by itself**, if none has the variable
bound. -/
theorem solutions_extend (ambient : Ambient) (size : Nat) (e : Compiled)
    (h : ∀ row ∈ rows, row.has v = false) :
    (extend (values rows) v e false).solutions ambient size =
      .ok (rows.map (extended ambient v e)) := by
  rw [solutions_eq_outcome, events, events]
  induction rows with
  | nil => rfl
  | cons row rows ih =>
      obtain ⟨hrow, hrows⟩ := List.forall_mem_cons.1 h
      rw [List.map_cons, List.flatMap_cons, onRow_ok, extendRow_eq ambient e hrow, List.map_cons,
        List.singleton_append, outcome_ok_cons, ih hrows]
      rfl

/-! ## Conditions and extensions -/

/-- What corresponds for two solutions holds for both or for neither. -/
theorem holds_congr {row row' : Solution} {p p' : Compiled}
    (h : Compiled.Corresponds row row' p p') : holds ambient p row = holds ambient' p' row' := by
  unfold holds
  rw [Compiled.evaluateTerm_eq ambient ambient' h]

/-- What corresponds extends a solution in the same way. -/
theorem extended_congr {row : Solution} {e e' : Compiled} (h : Compiled.Corresponds row row e e') :
    extended ambient v e row = extended ambient' v e' row := by
  unfold extended
  rw [Compiled.evaluateTerm_eq ambient ambient' h]

/-- An extended solution has the terms of other variables and the group of the solution. -/
theorem extended_agreeOn {vs : List Variable} (hv : v ∉ vs) (ws : List Variable) (e : Compiled)
    (row : Solution) : Solution.AgreeOn vs ws (extended ambient v e row) row := by
  unfold extended
  split
  · next t _ =>
    refine ⟨fun w hw => ?_, ?_⟩
    · rw [Solution.get?_bind, if_neg]
      rintro rfl
      exact hv hw
    · rw [Solution.group_bind]
      exact .refl ws row.group
  · exact .refl vs ws row

/-- **Extending does not change a condition** that does not read the variable. -/
theorem holds_extended {scope : Scope} {e : Expression} {p p' c : Compiled}
    (h : e.CompilesTo scope p) (h' : e.CompilesTo scope p') (hvolatile : e.isVolatile = false)
    (hv : v ∉ e.reads scope.prefixes) (row : Solution) :
    holds ambient p (extended ambient' v c row) = holds ambient'' p' row :=
  holds_congr (Expression.corresponds_of_agreeOn e h h' hvolatile (extended_agreeOn hv _ c row))

end Plan

/-! ## Engines -/

namespace Engine

variable {engine : Engine}

/-- An expression that compiles does so for every engine that differs in the known variables. -/
theorem exists_compile {e : Expression} {compiled : Compiled} (known : VariableTable)
    (h : e.CompilesTo engine.scope compiled) :
    ∃ compiled' known', ((compile e).run).run { engine with known } =
        (.ok compiled', { engine with known := known' }) ∧
      e.CompilesTo engine.scope compiled' := by
  obtain ⟨compiled', progress, hrun⟩ := Expression.exists_compile e h ⟨known, 0⟩
  refine ⟨compiled', progress.known, ?_,
    Expression.compilesTo_of_compile e (congrArg Prod.fst hrun)⟩
  have hscope : scope { engine with known } = engine.scope := rfl
  rw [compile_run, hscope, hrun]
  rfl

/-- What an engine without strict errors filters. -/
theorem exists_filter_run {e : Expression} {compiled : Compiled} (known : VariableTable)
    (hstrict : engine.settings.strict = false) (h : e.CompilesTo engine.scope compiled) :
    ∃ predicate known', e.CompilesTo engine.scope predicate ∧ ∀ ambient rows,
      ((filter ambient rows e).run).run { engine with known } =
        (.ok (rows.filter (Plan.holds ambient predicate)), { engine with known := known' }) := by
  obtain ⟨predicate, known', hrun, hpredicate⟩ := exists_compile known h
  refine ⟨predicate, known', hpredicate, fun ambient rows => ?_⟩
  rw [filter, run_bind, filterPlan_run hrun]
  simp only [solutions_run, hstrict, Plan.solutions_filter]
  rfl

/-- What an engine without strict errors extends. -/
theorem exists_extend_run {e : Expression} {compiled : Compiled} (known : VariableTable)
    (name : String) (hstrict : engine.settings.strict = false)
    (h : e.CompilesTo engine.scope compiled) :
    ∃ value known', e.CompilesTo engine.scope value ∧
      ∀ ambient, ∀ rows : List Solution, (∀ row ∈ rows, row.has (.ofText name) = false) →
        ((extend ambient rows name e).run).run { engine with known } =
          (.ok (rows.map (Plan.extended ambient (.ofText name) value)),
            { engine with known := known' }) := by
  obtain ⟨value, known', hrun, hvalue⟩ := exists_compile known h
  refine ⟨value, (known'.intern name).2, hvalue, fun ambient rows hrows => ?_⟩
  rw [extend, run_bind, extendPlan_run hrun]
  simp only [solutions_run, hstrict, Plan.solutions_extend ambient _ value hrows]
  rfl

/-- **Filters move past extensions**: for an engine without strict errors and solutions that do not
bind a variable, extending by the variable and then filtering gives the same solutions, in the same
order, with the same bindings and groups, as filtering and then extending, if the condition does
not read the variable and neither expression has volatile operations. -/
theorem filter_extend_comm (a₁ a₂ a₃ a₄ : Ambient) {rows : List Solution} {name : String}
    {e f : Expression} {predicate value : Compiled}
    (he : (((compile e).run).run engine).1 = .ok predicate)
    (hf : (((compile f).run).run engine).1 = .ok value)
    (hvolatile : e.isVolatile = false) (hvolatile' : f.isVolatile = false)
    (hstrict : engine.settings.strict = false)
    (hrows : ∀ row ∈ rows, row.has (.ofText name) = false)
    (hreads : Variable.ofText name ∉ e.reads engine.prefixes) :
    ∃ found : List Solution,
      ((((do filter a₂ (← extend a₁ rows name f) e) : Task (List Solution)).run).run engine).1 =
        .ok found ∧
      ((((do extend a₄ (← filter a₃ rows e) name f) : Task (List Solution)).run).run engine).1 =
        .ok found := by
  obtain ⟨_, he⟩ := compiles_of_compile he
  obtain ⟨_, hf⟩ := compiles_of_compile hf
  have he := Expression.compilesTo_of_compile e he
  have hf := Expression.compilesTo_of_compile f hf
  -- each order compiles both expressions, with other variables known
  obtain ⟨value₁, known₁, hvalue₁, hextend₁⟩ := exists_extend_run engine.known name hstrict hf
  obtain ⟨predicate₂, known₂, hpredicate₂, hfilter₂⟩ := exists_filter_run known₁ hstrict he
  obtain ⟨predicate₃, known₃, hpredicate₃, hfilter₃⟩ := exists_filter_run engine.known hstrict he
  obtain ⟨value₄, known₄, hvalue₄, hextend₄⟩ := exists_extend_run known₃ name hstrict hf
  refine ⟨(rows.map (Plan.extended a₁ (.ofText name) value₁)).filter (Plan.holds a₂ predicate₂),
    ?_, ?_⟩
  · rw [run_bind, hextend₁ a₁ rows hrows]
    simp only [hfilter₂]
  · have hkept : ∀ row ∈ rows.filter (Plan.holds a₃ predicate₃), row.has (.ofText name) = false :=
      fun row hrow => hrows row (List.mem_of_mem_filter hrow)
    have hholds : Plan.holds a₂ predicate₂ ∘ Plan.extended a₁ (.ofText name) value₁ =
        Plan.holds a₃ predicate₃ := by
      funext row
      exact Plan.holds_extended hpredicate₂ hpredicate₃ hvolatile hreads row
    have hextended : Plan.extended a₄ (.ofText name) value₄ =
        Plan.extended a₁ (.ofText name) value₁ := by
      funext row
      exact Plan.extended_congr (Expression.corresponds_of_agreeOn f hvalue₄ hvalue₁ hvolatile'
        (.refl _ _ row))
    rw [run_bind, hfilter₃ a₃ rows]
    simp only [hextend₄ a₄ _ hkept]
    rw [List.filter_map, hholds, hextended]

/-- An extension that fails for the second of three solutions, and a condition that fails for the
third, which stands for a group. -/
theorem filter_extend_comm_faults :
    let engine := ofSettings {}
    let e : Expression := .operation "isLiteral" [.term "?y"]
    let f : Expression := .operation "strlen" [.term "?y"]
    let predicate := Compiled.apply .isLiteral 0 [.lookup ⟨"y"⟩]
    let value := Compiled.apply .strlen 0 [.lookup ⟨"y"⟩]
    let rows := [Solution.ofList [(⟨"y"⟩, .literal (.plain "a"))],
      Solution.ofList [(⟨"y"⟩, .iri ⟨"http://e/x"⟩)], Solution.empty.withGroup ⟨[], 2⟩]
    (((compile e).run).run engine).1 = .ok predicate ∧
      (((compile f).run).run engine).1 = .ok value ∧
      e.isVolatile = false ∧ f.isVolatile = false ∧ engine.settings.strict = false ∧
      (∀ row ∈ rows, row.has (.ofText "?x") = false) ∧
      Variable.ofText "?x" ∉ e.reads engine.prefixes ∧
      ∀ ambient, ∃ found : List Solution,
        ((((do filter ambient (← extend ambient rows "?x" f) e) :
          Task (List Solution)).run).run engine).1 = .ok found ∧
        ((((do extend ambient (← filter ambient rows e) "?x" f) :
          Task (List Solution)).run).run engine).1 = .ok found := by
  intro engine e f predicate value rows
  have he : (((compile e).run).run engine).1 = .ok predicate := by rfl
  have hf : (((compile f).run).run engine).1 = .ok value := by rfl
  have hrows : ∀ row ∈ rows, row.has (.ofText "?x") = false := by decide
  have hreads : Variable.ofText "?x" ∉ e.reads engine.prefixes := by decide
  exact ⟨he, hf, rfl, rfl, rfl, hrows, hreads, fun ambient =>
    filter_extend_comm ambient ambient ambient ambient he hf rfl rfl rfl hrows hreads⟩

end Engine

end SolutionAlgebra
