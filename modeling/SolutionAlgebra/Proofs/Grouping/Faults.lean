import SolutionAlgebra.Proofs.Grouping.Groups
import SolutionAlgebra.Proofs.Plan.Calls
import SolutionAlgebra.Proofs.Plan.Events

/-! # Faults before groups

Grouping takes all solutions of its input before it gives the first group. A fault of the input is
an answer of its own, and the next call takes the input from there on: it knows nothing of the
solutions that came before the fault. The groups in the end are those of the solutions after the
last fault.

* **`Grouping.HoldsAll`** — that groups have some solutions for members and hold all their terms.
* **`Grouping.holdsAll_groups`** — the groups of solutions hold all of these.
* **`Operator.groupBy_holds_after_faults`** — what a grouping operator holds in the end.
* **`Operator.not_groupBy_holds_all`** — that this is not always all that its input gave. -/

namespace SolutionAlgebra

namespace Grouping

variable {found rows : List Solution}

/-- The number of members of the group that a solution stands for. -/
def memberCount (s : Solution) : Nat := ((s.group).map Group.rows).getD 0

/-- That solutions stand for groups that hold all of some given solutions. -/
structure HoldsAll (found rows : List Solution) : Prop where
  /-- The groups have as many members in all as there are solutions. -/
  count : (found.map memberCount).sum = rows.length
  /-- Every term of every solution is in a group. -/
  values : ∀ row ∈ rows, ∀ v t, row.get? v = some t →
    ∃ s ∈ found, ∃ group ts, s.group = some group ∧ group.get? v = some ts ∧ t ∈ ts

/-- A solution that stands for given members has their number. -/
theorem memberCount_standFor (vs : List Variable) (members : List Solution) :
    memberCount (standFor vs members) = members.length := Group.rows_ofRows members

/-- **The groups of solutions hold all of them.** -/
theorem holdsAll_groups (vs : List Variable) (rows : List Solution) :
    HoldsAll (groups vs rows) rows where
  count := by
    have hcount : (groups vs rows).map memberCount = (membersOf vs rows).map List.length := by
      rw [groups_eq_map, List.map_map]
      exact List.map_congr_left fun members _ => memberCount_standFor vs members
    rw [hcount, membersOf]
    split
    · next h =>
      rw [h.1]
      rfl
    · exact sum_length_of_key (key vs) rows
  values := by
    intro row hrow v t ht
    -- the term is collected by the group into which its solution falls
    have hne : ¬ (rows = [] ∧ vs = []) := fun h => List.ne_nil_of_mem hrow h.1
    obtain ⟨members, hmembers, hmem⟩ := (isPartition_membersByKey vs rows).covers row hrow
    have hterm : t ∈ members.filterMap (·.get? v) := List.mem_filterMap.2 ⟨row, hmem, ht⟩
    refine ⟨standFor vs members, ?_, Group.ofRows members, _, group_standFor vs members, ?_, hterm⟩
    · rw [groups_eq hne]
      exact List.mem_map_of_mem hmembers
    · obtain ⟨u, us, hus⟩ := List.exists_cons_of_ne_nil (List.ne_nil_of_mem hterm)
      rw [Group.get?_ofRows, hus]
      rfl

/-- No more and no fewer solutions are held. -/
theorem HoldsAll.length_eq {rows' : List Solution} (h : HoldsAll found rows)
    (h' : HoldsAll found rows') : rows.length = rows'.length := h.count.symm.trans h'.count

end Grouping

/-! ## Events up to the last fault -/

/-- That events end with a fault, if there are any. -/
def EndsWithFault (events : List Event) : Prop := ∀ event ∈ events.getLast?, event.isOk = false

/-- After the last fault there are solutions only. -/
theorem exists_endsWithFault (events : List Event) :
    ∃ (front : List Event) (rows : List Solution),
      events = front ++ rows.map .ok ∧ EndsWithFault front := by
  induction events using List.reverseRecOn with
  | nil => exact ⟨[], [], rfl, nofun⟩
  | append_singleton events event ih =>
      cases event with
      | ok row =>
          obtain ⟨front, rows, rfl, hfront⟩ := ih
          refine ⟨front, rows ++ [row], ?_, hfront⟩
          rw [List.map_append, List.append_assoc]
          rfl
      | error e =>
          refine ⟨events ++ [.error e], [], (List.append_nil _).symm, fun event hevent => ?_⟩
          rw [List.getLast?_concat, Option.mem_some_iff] at hevent
          rw [← hevent]
          rfl

/-- A fault makes grouping forget all that came before it. -/
theorem rowsOf_groupEvents_error (vs : List Variable) (seen : List Solution) (front : List Event)
    (e : ExecutionFault) (events : List Event) :
    rowsOf (groupEvents vs seen (front ++ .error e :: events)) =
      rowsOf (groupEvents vs [] events) := by
  induction front generalizing seen with
  | nil => rw [List.nil_append, groupEvents, rowsOf_error_cons]
  | cons event front ih =>
      cases event with
      | ok row => rw [List.cons_append, groupEvents, ih]
      | error e' => rw [List.cons_append, groupEvents, rowsOf_error_cons, ih]

/-- **Grouping gives the groups of the solutions after the last fault.** -/
theorem rowsOf_groupEvents (vs : List Variable) {front : List Event} (h : EndsWithFault front)
    (rows : List Solution) :
    rowsOf (groupEvents vs [] (front ++ rows.map .ok)) = Grouping.groups vs rows := by
  rcases List.eq_nil_or_concat' front with rfl | ⟨front, event, rfl⟩
  · rw [List.nil_append, groupEvents_rows, rowsOf_map_ok]
  · cases event with
    | ok row => exact nomatch h (.ok row) List.getLast?_concat
    | error e =>
        rw [List.append_assoc, List.singleton_append, rowsOf_groupEvents_error, groupEvents_rows,
          rowsOf_map_ok]

/-! ## Grouping operators -/

namespace Operator

open Grouping

/-- What calls on a grouping operator have given when they find the end. -/
theorem rowsOf_nexts_groupBy {input : Operator} {vs : List Variable} {n : Nat}
    {front : List Event} {rows : List Solution}
    (h : .ok none ∈ (input.groupBy vs).nexts n (input.groupBy vs).start)
    (hevents : input.events input.start = front ++ rows.map .ok) (hfront : EndsWithFault front) :
    rowsOf (eventsOf ((input.groupBy vs).nexts n (input.groupBy vs).start)) = groups vs rows := by
  have hgroups : (input.groupBy vs).events (input.groupBy vs).start =
      groupEvents vs [] (input.events input.start) := events_groupBy input vs input.start
  rw [eventsOf_nexts_of_ended h, hgroups, hevents, rowsOf_groupEvents vs hfront]

/-- **What a grouping operator holds in the end.** Let a grouping operator be called for its
solutions until it finds the end, whatever faults it answers on the way. Its groups then hold all
solutions that its input gave after its last fault. They hold all solutions that the input gave
exactly if it gave none before its last fault. -/
theorem groupBy_holds_after_faults (input : Operator) (vs : List Variable) {n : Nat}
    (h : .ok none ∈ (input.groupBy vs).nexts n (input.groupBy vs).start) :
    ∃ front rows, input.events input.start = front ++ rows.map .ok ∧ EndsWithFault front ∧
      HoldsAll (rowsOf (eventsOf ((input.groupBy vs).nexts n (input.groupBy vs).start))) rows ∧
      (HoldsAll (rowsOf (eventsOf ((input.groupBy vs).nexts n (input.groupBy vs).start)))
          (rowsOf (input.events input.start)) ↔ rowsOf front = []) := by
  obtain ⟨front, rows, hevents, hfront⟩ := exists_endsWithFault (input.events input.start)
  have hrows : rowsOf (input.events input.start) = rowsOf front ++ rows := by
    rw [hevents, rowsOf_append, rowsOf_map_ok]
  have hholds : HoldsAll (groups vs rows) rows := holdsAll_groups vs rows
  refine ⟨front, rows, hevents, hfront, ?_⟩
  rw [rowsOf_nexts_groupBy h hevents hfront, hrows]
  refine ⟨hholds, fun hall => ?_, fun hnone => ?_⟩
  · have hlength := hall.length_eq hholds
    rw [List.length_append] at hlength
    exact List.eq_nil_of_length_eq_zero (by omega)
  · rw [hnone, List.nil_append]
    exact hholds

/-- The events of a plan that fails between two solutions. -/
theorem events_failsBetween (ambient : Ambient) : ∃ first e second,
    (Plan.failsBetween.operator ambient).events (Plan.failsBetween.operator ambient).start =
      [.ok first, .error e, .ok second] := ⟨_, _, _, Plan.events_operator ambient _⟩

/-- Calls on the grouping of a plan that fails between two solutions find the end. -/
theorem ended_nexts_failsBetween (ambient : Ambient) :
    .ok none ∈ ((Plan.failsBetween.operator ambient).groupBy []).nexts 3
      ((Plan.failsBetween.operator ambient).groupBy []).start := by
  -- two events: the fault, and the group of the solution after it
  have hevents := Plan.events_operator ambient (.groupBy Plan.failsBetween [])
  refine ended_mem_nexts_iff.2 (Nat.lt_of_le_of_lt (Nat.le_of_eq ?_) (Nat.lt_succ_self 2))
  exact congrArg List.length hevents

/-- The groups of a plan that fails between two solutions do not hold all of them. -/
theorem groupBy_holds_after_faults_failsBetween :
    let input := Plan.failsBetween.operator ⟨⟨0, 0, 0⟩, fun _ _ => 0⟩
    .ok none ∈ (input.groupBy []).nexts 3 (input.groupBy []).start ∧
      ∃ (front : List Event) (rows : List Solution),
        input.events input.start = front ++ rows.map .ok ∧ EndsWithFault front ∧
        HoldsAll (rowsOf (eventsOf ((input.groupBy []).nexts 3 (input.groupBy []).start))) rows ∧
        ¬ HoldsAll (rowsOf (eventsOf ((input.groupBy []).nexts 3 (input.groupBy []).start)))
          (rowsOf (input.events input.start)) := by
  intro input
  have hend := ended_nexts_failsBetween ⟨⟨0, 0, 0⟩, fun _ _ => 0⟩
  obtain ⟨front, rows, hevents, hfront, hholds, hall⟩ := groupBy_holds_after_faults input [] hend
  refine ⟨hend, front, rows, hevents, hfront, hholds, fun h => ?_⟩
  -- the first solution stands before the fault
  obtain ⟨first, e, second, hinput⟩ := events_failsBetween ⟨⟨0, 0, 0⟩, fun _ _ => 0⟩
  have hfront' := hinput.symm.trans hevents
  have hnone := hall.1 h
  cases front with
  | nil =>
      have hfault : .error e ∈ rows.map (.ok : Solution → Event) := by
        rw [List.nil_append] at hfront'
        rw [← hfront']
        exact List.mem_cons_of_mem _ List.mem_cons_self
      obtain ⟨row, -, hrow⟩ := List.mem_map.1 hfault
      cases hrow
  | cons event front =>
      rw [← (List.cons.inj hfront').1] at hnone
      cases hnone

/-- **A grouping operator does not hold all solutions that its input gave.** -/
theorem not_groupBy_holds_all :
    ¬ ∀ (input : Operator) (vs : List Variable) (n : Nat),
      .ok none ∈ (input.groupBy vs).nexts n (input.groupBy vs).start →
      HoldsAll (rowsOf (eventsOf ((input.groupBy vs).nexts n (input.groupBy vs).start)))
        (rowsOf (input.events input.start)) := by
  intro hall
  have hend := ended_nexts_failsBetween ⟨⟨0, 0, 0⟩, fun _ _ => 0⟩
  obtain ⟨first, e, second, hinput⟩ := events_failsBetween ⟨⟨0, 0, 0⟩, fun _ _ => 0⟩
  have hsplit : ([.ok first, .error e, .ok second] : List Event) =
      [.ok first, .error e] ++ [second].map .ok := rfl
  have hfront : EndsWithFault [.ok first, .error e] := by
    rintro event hevent
    cases hevent
    rfl
  have hholds := hall _ [] 3 hend
  rw [rowsOf_nexts_groupBy hend (hinput.trans hsplit) hfront, hinput] at hholds
  -- one solution is held, of two
  exact Nat.succ_ne_self 1 (hholds.length_eq (holdsAll_groups [] [second]))

end Operator

end SolutionAlgebra
