import SolutionAlgebra.Operator.Combinators
import SolutionAlgebra.Operator.Batches

/-! # The events of an operator

Pulling an operator until it ends gives a list of events: solutions, and faults between them. The
ways to run an operator are all read off this list.

* **`Operator.events o s`** — the events of all pulls from the state `s` on.
* **`outcome events`** — the solutions of a list of events or, if there is a fault, the first one.
* **`serves_nextBatch`** — a batch answers for a segment of the events; a fault makes it lose the
  solutions of its segment.
* **`collectBatches_fst`** — collecting in batches gives the outcome of the events, whatever the
  size of the batches.
* **`drain_rows`, `drain_fault`** — what draining takes is a segment of the events, too.
* **`drain_of_events`** — draining comes to the end where there is no fault. -/

namespace SolutionAlgebra

/-- What one pull before the end gives: a solution or a fault. -/
abbrev Event : Type := Except ExecutionFault Solution

/-- The solutions of a list of events, or the first fault. -/
def outcome : List Event → Except ExecutionFault (List Solution)
  | [] => .ok []
  | .ok row :: events => (outcome events).map (row :: ·)
  | .error e :: _ => .error e

/-- No events come to no solutions. -/
@[simp] theorem outcome_nil : outcome [] = .ok [] := rfl

/-- A solution comes before the others. -/
@[simp] theorem outcome_ok_cons (row : Solution) (events : List Event) :
    outcome (.ok row :: events) = (outcome events).map (row :: ·) := rfl

/-- A fault is all that is left. -/
@[simp] theorem outcome_error_cons (e : ExecutionFault) (events : List Event) :
    outcome (.error e :: events) = .error e := rfl

/-- Solutions at the front of a list of events stand at the front of its outcome. -/
theorem outcome_rows_append (rows : List Solution) (events : List Event) :
    outcome (rows.map .ok ++ events) = (outcome events).map (rows ++ ·) := by
  induction rows with
  | nil =>
      rw [List.map_nil, List.nil_append]
      cases outcome events <;> rfl
  | cons row rows ih =>
      rw [List.map_cons, List.cons_append, outcome_ok_cons, ih]
      cases outcome events <;> rfl

/-- A list of events without a fault has its solutions for its outcome. -/
@[simp] theorem outcome_rows (rows : List Solution) : outcome (rows.map .ok) = .ok rows := by
  have h := outcome_rows_append rows []
  rw [List.append_nil, outcome_nil] at h
  rw [h]
  exact congrArg Except.ok (List.append_nil rows)

/-- The solutions before the first fault do not show in the outcome. -/
theorem outcome_rows_error (rows : List Solution) (e : ExecutionFault) (events : List Event) :
    outcome (rows.map .ok ++ .error e :: events) = .error e := by
  rw [outcome_rows_append, outcome_error_cons]
  rfl

namespace Operator

/-- The events of all pulls from a state on. -/
def events (o : Operator) (s : o.State) : List Event :=
  match _h : o.pull s with
  | .done => []
  | .row row next => .ok row :: events o next
  | .fault e next => .error e :: events o next
termination_by s
decreasing_by
  · exact .row _h
  · exact .fault _h

variable {o : Operator} {s next last : o.State} {row : Solution} {rows : List Solution}
  {e : ExecutionFault} {n : Nat}

/-- There are no events at the end. -/
theorem events_of_done (h : o.pull s = .done) : o.events s = [] := by
  rw [events]
  split <;> simp_all

/-- A solution is the first event of the state that it is pulled from. -/
theorem events_of_row (h : o.pull s = .row row next) : o.events s = .ok row :: o.events next := by
  rw [events]
  split <;> simp_all

/-- A fault is the first event of the state that it is pulled from. -/
theorem events_of_fault (h : o.pull s = .fault e next) :
    o.events s = .error e :: o.events next := by
  rw [events]
  split <;> simp_all

/-- The events of a state depend only on what a pull finds in it. -/
theorem events_eq_of_pull_eq {t : o.State} (h : o.pull s = o.pull t) : o.events s = o.events t := by
  cases hp : o.pull t with
  | done => rw [events_of_done (h.trans hp), events_of_done hp]
  | row row next => rw [events_of_row (h.trans hp), events_of_row hp]
  | fault e next => rw [events_of_fault (h.trans hp), events_of_fault hp]

/-! ## Batches -/

/-- **A batch is a segment of the events**; if it holds less than it could, the events end. -/
theorem takePulls_ok (h : takePulls o n s = (.ok rows, last)) :
    o.events s = rows.map .ok ++ o.events last ∧ rows.length ≤ n ∧
      (rows.length < n → o.events last = []) := by
  induction n generalizing s rows with
  | zero =>
      cases h
      exact ⟨rfl, Nat.le_refl 0, fun hn => absurd hn (Nat.lt_irrefl 0)⟩
  | succ n ih =>
      rw [takePulls] at h
      split at h
      · next hp =>
        cases h
        exact ⟨rfl, Nat.zero_le _, fun _ => events_of_done hp⟩
      · cases h
      · -- a solution is followed by those of the other pulls
        next row next hp =>
        split at h
        · next rest hr =>
          cases h
          obtain ⟨hevents, hle, hend⟩ := ih hr
          refine ⟨?_, Nat.succ_le_succ hle, fun hn => hend ?_⟩
          · rw [events_of_row hp, hevents, List.map_cons, List.cons_append]
          · rw [List.length_cons] at hn
            omega
        · cases h

/-- The fault of a batch is the first fault of the events, and the batch ends right after it; the
solutions before it would not have filled the batch. -/
theorem takePulls_error (h : takePulls o n s = (.error e, last)) :
    ∃ rows : List Solution, rows.length < n ∧
      o.events s = rows.map .ok ++ .error e :: o.events last := by
  induction n generalizing s with
  | zero => cases h
  | succ n ih =>
      rw [takePulls] at h
      split at h
      · cases h
      · next hp =>
        cases h
        exact ⟨[], Nat.succ_pos n, events_of_fault hp⟩
      · next row next hp =>
        split at h
        · cases h
        · next hr =>
          cases h
          obtain ⟨rows, hlt, hrows⟩ := ih hr
          refine ⟨row :: rows, Nat.succ_lt_succ hlt, ?_⟩
          rw [events_of_row hp, hrows, List.map_cons, List.cons_append]

/-- What a call for a batch of a given size answers where it pulls a segment of the events: the end,
the solutions of the segment, or the fault that ends the segment. The solutions before the fault are
then lost. -/
inductive Serves (size : Nat) :
    Except ExecutionFault (Option (List Solution)) → List Event → Prop where
  /-- Nothing is left. -/
  | ended : Serves size (.ok none) []
  /-- The segment is answered. -/
  | filled {rows : List Solution} (hne : rows ≠ []) (hle : rows.length ≤ size) :
      Serves size (.ok (some rows)) (rows.map .ok)
  /-- The segment ends with a fault before the batch is full. -/
  | failed {lost : List Solution} {e : ExecutionFault} (hlt : lost.length < size) :
      Serves size (.error e) (lost.map .ok ++ [.error e])

/-- **A call for a batch takes a segment of the events and answers for it.** It finds the end only
where the events have ended. -/
theorem serves_nextBatch (hn : 0 < n) :
    ∃ segment, Serves n (nextBatch o n s).1 segment ∧
      o.events s = segment ++ o.events (nextBatch o n s).2 ∧
      ((nextBatch o n s).1 = .ok none → o.events s = []) := by
  unfold nextBatch
  split
  · next rows last ht =>
    obtain ⟨hevents, hle, hend⟩ := takePulls_ok ht
    cases rows with
    | nil => exact ⟨[], .ended, hevents, fun _ => by rw [hevents, hend hn]; rfl⟩
    | cons row rows =>
        exact ⟨_, .filled (List.cons_ne_nil row rows) hle, hevents, fun h => by cases h⟩
  · next e last ht =>
    obtain ⟨lost, hlt, hlost⟩ := takePulls_error ht
    refine ⟨_, .failed hlt, ?_, fun h => by cases h⟩
    rw [hlost, List.append_assoc, List.singleton_append]

variable {size : Nat}

/-- Collecting ends where there is no further batch. -/
theorem collectBatches_of_none (h : nextBatch o (max size 1) s = (.ok none, next)) :
    collectBatches o size s = (.ok [], next) := by
  rw [collectBatches]
  split <;> simp_all

/-- Collecting ends with the fault of a batch. -/
theorem collectBatches_of_error (h : nextBatch o (max size 1) s = (.error e, next)) :
    collectBatches o size s = (.error e, next) := by
  rw [collectBatches]
  split <;> simp_all

/-- Collecting goes on after a batch of solutions. -/
theorem collectBatches_of_some (h : nextBatch o (max size 1) s = (.ok (some rows), next)) :
    collectBatches o size s =
      ((collectBatches o size next).1.map (rows ++ ·), (collectBatches o size next).2) := by
  rw [collectBatches]
  split
  · next hb =>
    rw [h] at hb
    cases hb
  · next hb =>
    rw [h] at hb
    cases hb
  · next hb =>
    rw [h] at hb
    cases hb
    cases collectBatches o size next with
    | mk found last => cases found <;> rfl

/-- **Collecting gives the outcome of the events**, whatever the size of the batches. -/
theorem collectBatches_fst (o : Operator) (size : Nat) (s : o.State) :
    (collectBatches o size s).1 = outcome (o.events s) := by
  -- by induction along the states after batches that hold a solution
  induction s using o.endsTransitively.induction with
  | _ s ih =>
    obtain ⟨segment, hserves, hevents, hend⟩ :=
      serves_nextBatch (o := o) (s := s) (n := max size 1) (by omega)
    cases hb : nextBatch o (max size 1) s with
    | mk batch next =>
      rw [hb] at hserves hevents hend
      cases hserves with
      | ended =>
          rw [collectBatches_of_none hb, hend rfl]
          rfl
      | failed hlt =>
          rw [collectBatches_of_error hb, hevents, List.append_assoc, List.singleton_append,
            outcome_rows_error]
      | filled hne hle =>
          rw [collectBatches_of_some hb, hevents, outcome_rows_append,
            ih next (transGen_of_nextBatch hb)]

/-- Collecting an operator gives the outcome of its events. -/
theorem collect_eq_outcome (o : Operator) (size : Nat) :
    o.collect size = outcome (o.events o.start) :=
  collectBatches_fst o size o.start

/-! ## Batches in a memory -/

/-- **Collecting in a memory stops if a batch has no room**, and gives what collecting gives if it
has. All batches have the same size, so the first of them decides. -/
theorem collectBatchesIn_eq (memory : Memory) (o : Operator) (size : Nat) (s : o.State) :
    collectBatchesIn memory o size s =
      if memory.holds (max size 1) then some (collectBatches o size s) else none := by
  by_cases h : memory.holds (max size 1)
  · have hbatch : ∀ s, nextBatchIn memory o (max size 1) s = some (nextBatch o (max size 1) s) :=
      fun s => if_pos h
    rw [if_pos h]
    -- by induction along the states after batches that hold a solution
    induction s using o.endsTransitively.induction with
    | _ s ih =>
      rw [collectBatchesIn]
      split
      · next hin =>
        rw [hbatch] at hin
        cases hin
      · next hin => rw [collectBatches_of_none (nextBatch_of_nextBatchIn hin)]
      · next hin => rw [collectBatches_of_error (nextBatch_of_nextBatchIn hin)]
      · next rows next hin =>
        have hfound := nextBatch_of_nextBatchIn hin
        rw [ih next (transGen_of_nextBatch hfound), collectBatches_of_some hfound]
        cases collectBatches o size next with
        | mk found last => cases found <;> rfl
  · have hbatch : nextBatchIn memory o (max size 1) s = none := if_neg h
    rw [if_neg h, collectBatchesIn]
    split <;> simp_all

/-- An operator is collected in a memory if a batch has room in it. -/
theorem collectIn_eq (memory : Memory) (o : Operator) (size : Nat) :
    collectIn memory o size =
      if memory.holds (max size 1) then some (o.collect size) else none := by
  rw [collectIn, collectBatchesIn_eq, collect]
  split <;> rfl

/-! ## Draining -/

/-- An operator is drained to its end if its events are solutions. -/
theorem drain_rows (h : drain o s = .rows rows last) :
    o.events s = rows.map .ok ∧ o.events last = [] := by
  induction s using o.ends.induction generalizing rows with
  | _ s ih =>
    rw [drain] at h
    split at h
    · next hp =>
      cases h
      exact ⟨events_of_done hp, events_of_done hp⟩
    · cases h
    · next row next hp =>
      split at h
      · next hd =>
        cases h
        obtain ⟨hevents, hend⟩ := ih next (.row hp) hd
        refine ⟨?_, hend⟩
        rw [events_of_row hp, hevents, List.map_cons]
      · cases h

/-- Draining an operator stops at the first fault of its events. -/
theorem drain_fault (h : drain o s = .fault e next) :
    ∃ rows : List Solution, o.events s = rows.map .ok ++ .error e :: o.events next := by
  induction s using o.ends.induction with
  | _ s ih =>
    rw [drain] at h
    split at h
    · cases h
    · next hp =>
      cases h
      exact ⟨[], events_of_fault hp⟩
    · next row _ hp =>
      split at h
      · cases h
      · next hd =>
        cases h
        obtain ⟨rows, hrows⟩ := ih _ (.row hp) hd
        refine ⟨row :: rows, ?_⟩
        rw [events_of_row hp, hrows, List.map_cons, List.cons_append]

/-- **An operator without faults is drained to its end.** -/
theorem drain_of_events (h : o.events s = rows.map .ok) :
    ∃ last, drain o s = .rows rows last ∧ o.pull last = .done := by
  induction s using o.ends.induction generalizing rows with
  | _ s ih =>
    -- by induction along the pulls, each of which takes off one event
    rw [drain]
    split
    · next hp =>
      rw [events_of_done hp] at h
      have hnil : rows = [] := List.map_eq_nil_iff.1 h.symm
      exact ⟨s, by rw [hnil], hp⟩
    · next hp =>
      rw [events_of_fault hp] at h
      cases rows with
      | nil => cases h
      | cons row rows => cases (List.cons.inj h).1
    · next row next hp =>
      rw [events_of_row hp] at h
      cases rows with
      | nil => cases h
      | cons row' rows =>
          obtain ⟨hrow, hrest⟩ := List.cons.inj h
          cases hrow
          obtain ⟨last, hdrain, hend⟩ := ih next (.row hp) hrest
          exact ⟨last, by rw [hdrain], hend⟩

end Operator

end SolutionAlgebra
