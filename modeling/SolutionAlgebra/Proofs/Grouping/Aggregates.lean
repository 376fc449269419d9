import SolutionAlgebra.Proofs.Compiled.Terms
import SolutionAlgebra.Proofs.Expression.Aggregates
import SolutionAlgebra.Proofs.Grouping.Groups
import SolutionAlgebra.Proofs.Plan.Groups

/-! # Aggregates over groups

An aggregate is evaluated on a solution that stands for a group. It sees what the group collected:
the terms of its variable in the members of the group, in their order, without repeats if it is a
distinct one; or the number of the members. Filters and extensions between the grouping and the
evaluation change nothing of this.

* **`Grouping.aggregateOf`** — the result of an aggregation over the members of a group.
* **`Engine.groupBy_run`** — what an engine groups.
* **`Engine.evaluate_aggregate`** — the value of a compiled aggregate on the groups of an engine. -/

namespace SolutionAlgebra

namespace Compiled

/-! ## Values -/

variable {a : Aggregation} {v : Variable} {distinct : Bool} {separator : String} {s g : Solution}
  {ambient : Ambient} {collected : Collected} {group : Group}

/-- On a group, an aggregate over a variable applies to the terms that the group collected. -/
theorem evaluate_values (h : s.group = some group) :
    (aggregate a (.values v) distinct separator).evaluate ambient s =
      (a.apply separator (if distinct then withoutRepeats ((group.get? v).getD [])
        else (group.get? v).getD [])).map fun t => some (.term t) := by
  rw [evaluate, aggregateValue, h, ← distinctTerms_eq]
  show ((a.apply separator _).map Value.term).map some = _
  cases a.apply separator (if distinct then distinctTerms ((group.get? v).getD [])
    else (group.get? v).getD []) <;> rfl

/-- On a group, an aggregate over the rows is the number of the members. -/
theorem evaluate_rows (h : s.group = some group) :
    (aggregate a .rows distinct separator).evaluate ambient s =
      .ok (some (.term (.literal (.integer group.rows)))) := by
  rw [evaluate, aggregateValue, h]
  rfl

/-- The value of an aggregate depends on the group only. -/
theorem evaluate_sameGroup (h : s.SameGroup g) (hgroup : g.group = some group) :
    (aggregate a collected distinct separator).evaluate ambient s =
      (aggregate a collected distinct separator).evaluate ambient g := by
  rw [evaluate, evaluate, aggregateValue, aggregateValue, h, hgroup]

end Compiled

namespace Grouping

variable {vs : List Variable} {rows members : List Solution} {s : Solution}

/-- The result of an aggregation over the terms of a variable in the members of a group. -/
def aggregateOf (a : Aggregation) (separator : String) (distinct : Bool) (v : Variable)
    (members : List Solution) : Outcome (Option Value) :=
  (a.apply separator (if distinct then Compiled.withoutRepeats (members.filterMap (·.get? v))
    else members.filterMap (·.get? v))).map fun t => some (.term t)

/-- Every group carries what it collected. -/
theorem exists_group_of_mem_groups (h : s ∈ groups vs rows) : ∃ group, s.group = some group := by
  rw [groups_eq_map] at h
  obtain ⟨members, -, rfl⟩ := List.mem_map.1 h
  exact ⟨_, group_standFor vs members⟩

/-- What relates any members to the solution that stands for them relates the members of the groups
to the groups. -/
theorem forall₂_groups {R : List Solution → Solution → Prop}
    (h : ∀ members, R members (standFor vs members)) :
    List.Forall₂ R (membersOf vs rows) (groups vs rows) := by
  rw [groups_eq_map, List.forall₂_map_right_iff, List.forall₂_same]
  exact fun members _ => h members

/-- The members of the groups by named variables are the parts of the solutions by key, or no
members at all where there is nothing to tell apart. -/
theorem membersOf_names (names : List String) (rows : List Solution) :
    if rows = [] ∧ names = [] then membersOf (names.map .ofText) rows = [[]]
    else IsPartition (fun a b => key (names.map .ofText) a = key (names.map .ofText) b) rows
      (membersOf (names.map .ofText) rows) := by
  split
  · next h =>
    rw [h.1, h.2]
    rfl
  · next h =>
    have h' : ¬ (rows = [] ∧ names.map Variable.ofText = []) := by rwa [List.map_eq_nil_iff]
    rw [membersOf, if_neg h']
    exact isPartition_membersByKey _ rows

/-! ## Aggregates on the groups -/

variable {a : Aggregation} {v : Variable} {distinct : Bool} {separator : String}

/-- On the groups, an aggregate over a variable is the aggregation of the terms of the variable in
the members of the group. -/
theorem forall₂_evaluate_values :
    List.Forall₂ (fun members g => ∀ present,
      (Compiled.aggregate a (.values v) distinct separator).evaluate present g =
        aggregateOf a separator distinct v members) (membersOf vs rows) (groups vs rows) := by
  refine forall₂_groups fun members present => ?_
  rw [Compiled.evaluate_values (group_standFor vs members), Group.get?_ofRows,
    Group.getD_collected?]
  rfl

/-- On the groups, an aggregate over the rows is the number of the members. -/
theorem forall₂_evaluate_rows :
    List.Forall₂ (fun members g => ∀ present,
      (Compiled.aggregate a .rows distinct separator).evaluate present g =
        .ok (some (.term (.literal (.integer (members.length : Nat))))))
      (membersOf vs rows) (groups vs rows) := by
  refine forall₂_groups fun members present => ?_
  rw [Compiled.evaluate_rows (group_standFor vs members), Group.rows_ofRows]

/-- A term bound to a group leaves the values of aggregates as they are. -/
theorem evaluate_aggregate_bind {collected : Collected} (h : s ∈ groups vs rows) (t : Term)
    (present : Ambient) :
    (Compiled.aggregate a collected distinct separator).evaluate present (s.bind v t) =
      (Compiled.aggregate a collected distinct separator).evaluate present s := by
  obtain ⟨group, hgroup⟩ := exists_group_of_mem_groups h
  exact Compiled.evaluate_sameGroup (Solution.group_bind s v t) hgroup

end Grouping

/-! ## Engines -/

namespace Engine

open Grouping

/-- **What an engine groups** are the groups of the solutions by the variables of the names. -/
theorem groupBy_run (ambient : Ambient) (engine : Engine) (rows : List Solution)
    (names : List String) :
    (((Engine.groupBy ambient rows names).run).run engine).1 =
      .ok (groups (names.map .ofText) rows) := by
  have hplan : ∀ size, (Plan.groupBy (.values rows) (names.map .ofText)).solutions ambient size =
      .ok (groups (names.map .ofText) rows) := by
    intro size
    rw [Plan.solutions_eq_outcome, Plan.events, Plan.events, groupEvents_rows, outcome_rows]
  rw [Engine.groupBy, run_bind, groupByPlan_run]
  simp only [solutions_run, hplan]
  rfl

/-- Where solutions stand for the groups of given ones, an aggregate has the same values. -/
theorem evaluate_sameGroups {a : Aggregation} {collected : Collected} {distinct : Bool}
    {separator : String} {later found : List Solution} (h : SameGroups later found)
    (hfound : ∀ g ∈ found, ∃ group, g.group = some group) :
    List.SublistForall₂ (fun s g => ∀ present,
      (Compiled.aggregate a collected distinct separator).evaluate present s =
        (Compiled.aggregate a collected distinct separator).evaluate present g) later found := by
  induction h with
  | nil => exact .nil
  | cons hgroup _ ih =>
      obtain ⟨⟨group, hg⟩, hrest⟩ := List.forall_mem_cons.1 hfound
      exact .cons (fun _ => Compiled.evaluate_sameGroup hgroup hg) (ih hrest)
  | cons_right _ ih => exact .cons_right (ih (List.forall_mem_cons.1 hfound).2)

/-- **The value of a compiled aggregate on the groups of an engine**: over a variable, the
aggregation of the terms of the variable in the members of the group; over the rows, the number of
the members; and the same however the groups are filtered and extended before. -/
theorem evaluate_aggregate (ambient : Ambient) (engine compiling : Engine) (rows : List Solution)
    (names : List String) {name text : String} {distinct : Bool} {separator : Option String}
    {compiled : Compiled}
    (h : compiling.Compiles (.aggregate name (.term text) distinct separator) compiled) :
    ∃ found parts a,
      (((Engine.groupBy ambient rows names).run).run engine).1 = .ok found ∧
      (if rows = [] ∧ names = [] then parts = [[]]
        else IsPartition
          (fun a b => key (names.map .ofText) a = key (names.map .ofText) b) rows parts) ∧
      Aggregation.named? (Expression.lowerName name) = some a ∧
      (∀ v, Term.parse compiling.prefixes text = .ok (.var v) →
        List.Forall₂ (fun members g => ∀ present, compiled.evaluate present g =
          aggregateOf a (separator.getD compiling.settings.separator) distinct v members)
          parts found) ∧
      (Text.trim text.toList = ['*'] → a = .count ∧ distinct = false ∧
        List.Forall₂ (fun members g => ∀ present, compiled.evaluate present g =
          .ok (some (.term (.literal (.integer (members.length : Nat)))))) parts found) ∧
      (∀ g ∈ found, ∀ v t present,
        compiled.evaluate present (g.bind v t) = compiled.evaluate present g) ∧
      ∀ later, Reworked found later →
        List.SublistForall₂ (fun s g => ∀ present,
          compiled.evaluate present s = compiled.evaluate present g) later found := by
  obtain ⟨a, collected, hname, rfl, hcollected⟩ := h.aggregate
  refine ⟨groups (names.map .ofText) rows, membersOf (names.map .ofText) rows, a,
    groupBy_run ambient engine rows names, membersOf_names names rows, hname, fun v hparse => ?_,
    fun hstar => ?_, fun g hg v t present => evaluate_aggregate_bind hg t present,
    fun later hlater =>
      evaluate_sameGroups hlater.sameGroups fun g hg => exists_group_of_mem_groups hg⟩
  · -- the leaf is a variable, and so not the star
    rcases hcollected with ⟨hstar, -⟩ | ⟨w, hparse', rfl⟩
    · exact absurd hparse (Expression.not_parse_of_star hstar)
    · cases hparse.symm.trans hparse'
      exact forall₂_evaluate_values
  · rcases hcollected with ⟨-, hcount, hplain, rfl⟩ | ⟨w, hparse, -⟩
    · exact ⟨hcount, hplain, forall₂_evaluate_rows⟩
    · exact absurd hparse (Expression.not_parse_of_star hstar)

/-- A distinct count of a variable that one of two solutions binds. -/
theorem evaluate_aggregate_count :
    (Engine.ofSettings {}).Compiles (.aggregate "Count" (.term "?v") true none)
        (.aggregate .count (.values ⟨"v"⟩) true " ") ∧
      ∃ found parts, (((Engine.groupBy ⟨⟨0, 0, 0⟩, fun _ _ => 0⟩
          [.ofList [(⟨"v"⟩, .literal (.plain "a"))], .empty] ["?g"]).run).run
          (Engine.ofSettings {})).1 = .ok found ∧
        List.Forall₂ (fun members g => ∀ present,
          Compiled.evaluate present g (.aggregate .count (.values ⟨"v"⟩) true " ") =
            aggregateOf .count " " true ⟨"v"⟩ members) parts found := by
  have hcompiles : (Engine.ofSettings {}).Compiles (.aggregate "Count" (.term "?v") true none)
      (.aggregate .count (.values ⟨"v"⟩) true " ") := ⟨⟨.empty, 0⟩, by rfl⟩
  refine ⟨hcompiles, ?_⟩
  obtain ⟨found, parts, a, hfound, -, hname, hvalues, -⟩ :=
    evaluate_aggregate ⟨⟨0, 0, 0⟩, fun _ _ => 0⟩ (Engine.ofSettings {}) (Engine.ofSettings {})
      [.ofList [(⟨"v"⟩, .literal (.plain "a"))], .empty] ["?g"] hcompiles
  have hcount : Aggregation.named? (Expression.lowerName "Count") = some .count := by rfl
  rw [hcount] at hname
  cases hname
  exact ⟨found, parts, hfound, hvalues ⟨"v"⟩ (by rfl)⟩

end Engine

end SolutionAlgebra
