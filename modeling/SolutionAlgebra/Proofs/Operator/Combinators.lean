import SolutionAlgebra.Proofs.Operator.Events

/-! # The events of operators made of operators

The events of an operator are a function of the events of its inputs; the states that it keeps
between pulls do not show. A source has its solutions for events, and a union has the events of
one input after those of the other. Mapping, filtering and multiplying put a list of events in the
place of every solution and let faults pass (`onRow`). Grouping lets faults pass and yields the
groups of the solutions after the last of them (`groupEvents`). -/

namespace SolutionAlgebra

/-- The events in the place of an event: those that a function gives for a solution, or the fault
itself. -/
def onRow (f : Solution → List Event) : Event → List Event
  | .ok row => f row
  | .error e => [.error e]

/-- A solution is given to the function. -/
@[simp] theorem onRow_ok (f : Solution → List Event) (row : Solution) : onRow f (.ok row) = f row :=
  rfl

/-- A fault stays. -/
@[simp] theorem onRow_error (f : Solution → List Event) (e : ExecutionFault) :
    onRow f (.error e) = [.error e] := rfl

/-- The events of grouping: the faults, and the groups of the solutions after the last fault, where
`seen` are the solutions so far. -/
def groupEvents (vs : List Variable) (seen : List Solution) : List Event → List Event
  | [] => (Grouping.groups vs seen).map .ok
  | .ok row :: events => groupEvents vs (seen ++ [row]) events
  | .error e :: events => .error e :: groupEvents vs [] events

/-- Solutions at the front of a list of events join those seen so far. -/
theorem groupEvents_rows_append (vs : List Variable) (seen rows : List Solution)
    (events : List Event) :
    groupEvents vs seen (rows.map .ok ++ events) = groupEvents vs (seen ++ rows) events := by
  induction rows generalizing seen with
  | nil => rw [List.map_nil, List.nil_append, List.append_nil]
  | cons row rows ih =>
      rw [List.map_cons, List.cons_append, groupEvents, ih, List.append_assoc,
        List.singleton_append]

/-- Solutions without a fault are grouped all together. -/
theorem groupEvents_rows (vs : List Variable) (rows : List Solution) :
    groupEvents vs [] (rows.map .ok) = (Grouping.groups vs rows).map .ok := by
  have h := groupEvents_rows_append vs [] rows []
  rwa [List.append_nil, List.nil_append] at h

/-- A fault makes grouping forget the solutions before it. -/
theorem groupEvents_rows_error (vs : List Variable) (rows : List Solution) (e : ExecutionFault)
    (events : List Event) :
    groupEvents vs [] (rows.map .ok ++ .error e :: events) =
      .error e :: groupEvents vs [] events := by
  rw [groupEvents_rows_append, groupEvents]

namespace Operator

/-! ## Sources -/

/-- The events of a source are its solutions. -/
@[simp] theorem events_values (rows rest : List Solution) :
    (values rows).events rest = rest.map .ok := by
  induction rest with
  | nil => exact events_of_done rfl
  | cons row rest ih =>
      have hpull : (values rows).pull (row :: rest) = .row row rest := rfl
      exact (events_of_row hpull).trans (congrArg _ ih)

/-! ## Mapping, filtering and multiplying

These operators pull their input as long as they need a solution of it. What they do with a pull of
the input is stated once for each of them, and `events_of_onRow` goes along the states of the input
for all of them. -/

/-- The events of an operator that puts some events in the place of every solution of its input.
Its state `within s` is the one in which it has nothing but its input in the state `s`. -/
theorem events_of_onRow {o : Operator} (input : Operator) (within : input.State → o.State)
    (f : Solution → List Event)
    (hdone : ∀ s, input.pull s = .done → o.pull (within s) = .done)
    (hfault : ∀ s e next, input.pull s = .fault e next →
      o.pull (within s) = .fault e (within next))
    (hrow : ∀ s row next, input.pull s = .row row next →
      o.events (within s) = f row ++ o.events (within next)) (s : input.State) :
    o.events (within s) = (input.events s).flatMap (onRow f) := by
  induction s using input.ends.induction with
  | _ s ih =>
    cases hp : input.pull s with
    | done => rw [events_of_done (hdone s hp), events_of_done hp, List.flatMap_nil]
    | fault e next =>
        rw [events_of_fault (hfault s e next hp), events_of_fault hp, ih next (.fault hp),
          List.flatMap_cons, onRow_error, List.singleton_append]
    | row row next =>
        rw [hrow s row next hp, events_of_row hp, ih next (.row hp), List.flatMap_cons, onRow_ok]

/-- A pull of a mapping, from what it finds in its input. -/
theorem pull_map (input : Operator) (f : Solution → Except ExecutionFault Solution)
    (s : input.State) :
    (input.map f).pull s = match input.pull s with
      | .done => .done
      | .fault e next => .fault e next
      | .row row next => match f row with
        | .ok changed => .row changed next
        | .error e => .fault e next := rfl

/-- Mapping changes the events one by one. -/
theorem events_map (input : Operator) (f : Solution → Except ExecutionFault Solution)
    (s : input.State) :
    (input.map f).events s = (input.events s).flatMap (onRow fun row => [f row]) := by
  refine events_of_onRow (o := input.map f) input (fun s => s) _ (fun s hp => ?_)
    (fun s e next hp => ?_) (fun s row next hp => ?_) s
  · rw [pull_map, hp]
  · rw [pull_map, hp]
  · have hpull := pull_map input f s
    rw [hp] at hpull
    cases hf : f row with
    | ok changed =>
        simp only [hf] at hpull
        exact events_of_row hpull
    | error e =>
        simp only [hf] at hpull
        exact events_of_fault hpull

/-- The events that filtering puts in the place of a solution. -/
def keepEvents (keep : Solution → Except ExecutionFault Bool) (row : Solution) : List Event :=
  match keep row with
  | .ok true => [.ok row]
  | .ok false => []
  | .error e => [.error e]

/-- A pull of a filter, from what it finds in its input. -/
theorem pull_filter (input : Operator) (keep : Solution → Except ExecutionFault Bool)
    (s : input.State) :
    (input.filter keep).pull s = match input.pull s with
      | .done => .done
      | .fault e next => .fault e next
      | .row row next => match keep row with
        | .ok true => .row row next
        | .ok false => (input.filter keep).pull next
        | .error e => .fault e next := by
  show filterPull input keep s = _
  rw [filterPull]
  split
  · next hp =>
    rw [hp]
    rfl
  · next hp =>
    rw [hp]
    rfl
  · next row next hp =>
    simp only [hp]
    cases keep row with
    | error e => rfl
    | ok kept => cases kept <;> rfl

/-- Filtering keeps, drops or faults solutions one by one. -/
theorem events_filter (input : Operator) (keep : Solution → Except ExecutionFault Bool)
    (s : input.State) :
    (input.filter keep).events s = (input.events s).flatMap (onRow (keepEvents keep)) := by
  refine events_of_onRow (o := input.filter keep) input (fun s => s) _ (fun s hp => ?_)
    (fun s e next hp => ?_) (fun s row next hp => ?_) s
  · rw [pull_filter, hp]
  · rw [pull_filter, hp]
  · have hpull := pull_filter input keep s
    rw [hp] at hpull
    rw [keepEvents]
    cases hk : keep row with
    | error e =>
        simp only [hk] at hpull
        exact events_of_fault hpull
    | ok kept =>
        simp only [hk] at hpull
        cases kept with
        | true => exact events_of_row hpull
        -- a solution that is dropped: the pull goes on in the next state
        | false => exact events_eq_of_pull_eq hpull

/-- The events that multiplying puts in the place of a solution. -/
def multiplyEvents (f : Solution → Except ExecutionFault (List Solution)) (row : Solution) :
    List Event :=
  match f row with
  | .ok rows => rows.map .ok
  | .error e => [.error e]

/-- A pull of a multiplication takes what is pending. -/
theorem pull_flatMap_pending (input : Operator)
    (f : Solution → Except ExecutionFault (List Solution)) (s : input.State) (row : Solution)
    (pending : List Solution) :
    (input.flatMap f).pull (s, row :: pending) = .row row (s, pending) := by
  show flatMapPull input f s (row :: pending) = .row row (s, pending)
  rw [flatMapPull]

/-- A pull of a multiplication with nothing pending, from what it finds in its input. -/
theorem pull_flatMap (input : Operator) (f : Solution → Except ExecutionFault (List Solution))
    (s : input.State) :
    (input.flatMap f).pull (s, []) = match input.pull s with
      | .done => .done
      | .fault e next => .fault e (next, [])
      | .row row next => match f row with
        | .ok rows => (input.flatMap f).pull (next, rows)
        | .error e => .fault e (next, []) := by
  show flatMapPull input f s [] = _
  rw [flatMapPull]
  split
  · next hp =>
    rw [hp]
    rfl
  · next hp =>
    rw [hp]
    rfl
  · next row next hp =>
    simp only [hp]
    cases f row <;> rfl

/-- Multiplying yields what is pending before it pulls its input. -/
theorem events_flatMap_pending (input : Operator)
    (f : Solution → Except ExecutionFault (List Solution)) (s : input.State)
    (pending : List Solution) :
    (input.flatMap f).events (s, pending) =
      pending.map .ok ++ (input.flatMap f).events (s, []) := by
  induction pending with
  | nil => rfl
  | cons row pending ih =>
      rw [events_of_row (pull_flatMap_pending input f s row pending), ih, List.map_cons,
        List.cons_append]

/-- Multiplying yields what is pending, then several solutions for each one. -/
theorem events_flatMap (input : Operator) (f : Solution → Except ExecutionFault (List Solution))
    (s : input.State) (pending : List Solution) :
    (input.flatMap f).events (s, pending) =
      pending.map .ok ++ (input.events s).flatMap (onRow (multiplyEvents f)) := by
  rw [events_flatMap_pending]
  refine congrArg _ (events_of_onRow (o := input.flatMap f) input (fun s => (s, [])) _
    (fun s hp => ?_) (fun s e next hp => ?_) (fun s row next hp => ?_) s)
  · rw [pull_flatMap, hp]
  · rw [pull_flatMap, hp]
  · have hpull := pull_flatMap input f s
    rw [hp] at hpull
    rw [multiplyEvents]
    cases hf : f row with
    | error e =>
        simp only [hf] at hpull
        exact events_of_fault hpull
    -- the pull goes on with what the solution was multiplied to
    | ok rows =>
        simp only [hf] at hpull
        exact (events_eq_of_pull_eq hpull).trans (events_flatMap_pending input f next rows)

/-! ## One input after the other -/

/-- What is left of a union after its left input has ended. -/
theorem events_union_right (left right : Operator) (s : left.State) (t : right.State) :
    (left.union right).events (s, t, true) = right.events t := by
  induction t using right.ends.induction with
  | _ t ih =>
    have hpull : (left.union right).pull (s, t, true) =
        (right.pull t).map fun next => (s, next, true) := rfl
    cases hp : right.pull t with
    | done =>
        rw [hp] at hpull
        rw [events_of_done hpull, events_of_done hp]
    | row row next =>
        rw [hp] at hpull
        rw [events_of_row hpull, events_of_row hp, ih next (.row hp)]
    | fault e next =>
        rw [hp] at hpull
        rw [events_of_fault hpull, events_of_fault hp, ih next (.fault hp)]

/-- A union yields what its left input yields, then what its right input yields. -/
theorem events_union (left right : Operator) (s : left.State) (t : right.State) :
    (left.union right).events (s, t, false) = left.events s ++ right.events t := by
  induction s using left.ends.induction with
  | _ s ih =>
    have hpull : (left.union right).pull (s, t, false) = unionPull left right (s, t, false) := rfl
    rw [unionPull] at hpull
    cases hp : left.pull s with
    | done =>
        -- the pull that finds the left end is a pull of the right input
        rw [hp] at hpull
        rw [events_eq_of_pull_eq (o := left.union right) (t := (s, t, true)) hpull,
          events_union_right, events_of_done hp, List.nil_append]
    | row row next =>
        rw [hp] at hpull
        rw [events_of_row hpull, events_of_row hp, ih next (.row hp), List.cons_append]
    | fault e next =>
        rw [hp] at hpull
        rw [events_of_fault hpull, events_of_fault hp, ih next (.fault hp), List.cons_append]

/-! ## Groups -/

/-- Groups that are found are yielded one by one. -/
theorem events_groupBy_found (input : Operator) (vs : List Variable) (s : input.State)
    (found : List Solution) : (input.groupBy vs).events (s, some found) = found.map .ok := by
  induction found with
  | nil => exact events_of_done rfl
  | cons group found ih =>
      have hpull : (input.groupBy vs).pull (s, some (group :: found)) =
          .row group (s, some found) := rfl
      rw [events_of_row hpull, ih, List.map_cons]

/-- **Grouping yields the groups of all solutions of its input**, after the faults of the input. -/
theorem events_groupBy (input : Operator) (vs : List Variable) (s : input.State) :
    (input.groupBy vs).events (s, none) = groupEvents vs [] (input.events s) := by
  -- along the states after faults, at which the input is drained again
  induction s using input.endsTransitively.induction with
  | _ s ih =>
    have hpull : (input.groupBy vs).pull (s, none) = groupByPull input vs (s, none) := rfl
    rw [groupByPull] at hpull
    cases hd : drain input s with
    | fault e next =>
        rw [hd] at hpull
        obtain ⟨rows, hrows⟩ := drain_fault hd
        rw [events_of_fault hpull, ih next (transGen_of_drain hd), hrows, groupEvents_rows_error]
    | rows rows last =>
        rw [hd] at hpull
        rw [(drain_rows hd).1, groupEvents_rows]
        cases hg : Grouping.groups vs rows with
        | nil =>
            simp only [hg] at hpull
            rw [events_of_done hpull, List.map_nil]
        | cons group found =>
            simp only [hg] at hpull
            rw [events_of_row hpull, events_groupBy_found, List.map_cons]

end Operator

end SolutionAlgebra
