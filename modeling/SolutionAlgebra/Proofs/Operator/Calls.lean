import Mathlib.Data.List.Forall2
import SolutionAlgebra.Proofs.Operator.Events

/-! # Calls on an operator

A caller asks an operator for the next solution, for a batch, or for all that is left, or sends it
back to the beginning, and goes on whatever the answer is. Calls for single solutions that go on
past faults until they find the end show all the events of the operator; calls for batches show
them segment by segment.

* **`Operator.call`**, **`answersTo`**, **`stateAfter`** — the answers to calls of all kinds, one
  after the other, and the state that they leave.
* **`eventsOf_nexts`**, **`ended_mem_nexts_iff`** — what calls for single solutions show.
* **`serves_batches`** — what calls for batches show.
* **`delivered_eq_iff`** — when batches deliver all the solutions. -/

namespace SolutionAlgebra

/-! ## Requests one after the other -/

section

variable {σ κ α : Type}

/-- The answers to requests, each of them made in the state that the one before leaves. -/
def answersTo (ask : κ → σ → α × σ) : List κ → σ → List α
  | [], _ => []
  | request :: requests, s => (ask request s).1 :: answersTo ask requests (ask request s).2

/-- The state that requests leave. -/
def stateAfter (ask : κ → σ → α × σ) : List κ → σ → σ
  | [], s => s
  | request :: requests, s => stateAfter ask requests (ask request s).2

/-- Every request is answered. -/
theorem length_answersTo (ask : κ → σ → α × σ) (requests : List κ) (s : σ) :
    (answersTo ask requests s).length = requests.length := by
  induction requests generalizing s with
  | nil => rfl
  | cons request requests ih => rw [answersTo, List.length_cons, ih, List.length_cons]

/-- Further requests are answered in the state that the earlier ones leave. -/
theorem answersTo_append (ask : κ → σ → α × σ) (earlier later : List κ) (s : σ) :
    answersTo ask (earlier ++ later) s =
      answersTo ask earlier s ++ answersTo ask later (stateAfter ask earlier s) := by
  induction earlier generalizing s with
  | nil => rfl
  | cons request earlier ih => rw [List.cons_append, answersTo, ih]; rfl

end

namespace Operator

/-! ## Calls -/

/-- The next solution, `none` at the end, and the state after it. -/
def next (o : Operator) (s : o.State) : Except ExecutionFault (Option Solution) × o.State :=
  match o.pull s with
  | .done => (.ok none, s)
  | .row row next => (.ok (some row), next)
  | .fault e next => (.error e, next)

/-- A call on an operator. -/
inductive Call where
  /-- For the next solution. -/
  | next
  /-- For a batch of at most a number of solutions. -/
  | batch (size : Nat)
  /-- For all solutions that are left, in batches of a size. -/
  | collect (size : Nat)
  /-- To go back to the beginning. -/
  | reset

/-- The answer to a call. -/
inductive Answer where
  /-- The next solution. -/
  | next (found : Except ExecutionFault (Option Solution))
  /-- A batch. -/
  | batch (found : Except ExecutionFault (Option (List Solution)))
  /-- All solutions that were left. -/
  | collected (found : Except ExecutionFault (List Solution))
  /-- The operator is back at the beginning. -/
  | reset

/-- The answer to a call, and the state after it. -/
def call (o : Operator) : Call → o.State → Answer × o.State
  | .next, s => (.next (o.next s).1, (o.next s).2)
  | .batch size, s => (.batch (o.nextBatch size s).1, (o.nextBatch size s).2)
  | .collect size, s => (.collected (o.collectBatches size s).1, (o.collectBatches size s).2)
  | .reset, s => (.reset, o.reset s)

/-- The answers to a number of calls for the next solution. -/
def nexts (o : Operator) (n : Nat) (s : o.State) : List (Except ExecutionFault (Option Solution)) :=
  answersTo (fun _ : Unit => o.next) (List.replicate n ()) s

/-- The answers to calls for batches of given sizes. -/
def batches (o : Operator) (sizes : List Nat) (s : o.State) :
    List (Except ExecutionFault (Option (List Solution))) :=
  answersTo o.nextBatch sizes s

end Operator

/-! ## What answers show -/

/-- The event that an answer shows; the end is none. -/
def Event.ofAnswer? : Except ExecutionFault (Option Solution) → Option Event
  | .ok none => none
  | .ok (some row) => some (.ok row)
  | .error e => some (.error e)

/-- The events that the answers to calls for single solutions show. -/
def eventsOf (answers : List (Except ExecutionFault (Option Solution))) : List Event :=
  answers.filterMap Event.ofAnswer?

/-- The solutions among events. -/
def rowsOf (events : List Event) : List Solution := events.filterMap Except.toOption

/-- The solutions among joined events. -/
@[simp] theorem rowsOf_append (events events' : List Event) :
    rowsOf (events ++ events') = rowsOf events ++ rowsOf events' := List.filterMap_append

/-- Events without a fault are their solutions. -/
@[simp] theorem rowsOf_map_ok (rows : List Solution) : rowsOf (rows.map .ok) = rows := by
  rw [rowsOf, List.filterMap_map]
  exact List.filterMap_some

/-- A fault is no solution. -/
@[simp] theorem rowsOf_error_cons (e : ExecutionFault) (events : List Event) :
    rowsOf (.error e :: events) = rowsOf events := rfl

/-- The solutions that the answer to a call for a batch delivers. -/
def batchRows : Except ExecutionFault (Option (List Solution)) → List Solution
  | .ok (some rows) => rows
  | .ok none => []
  | .error _ => []

/-- The solutions that the answers to calls for batches deliver. -/
def delivered (answers : List (Except ExecutionFault (Option (List Solution)))) :
    List Solution := answers.flatMap batchRows

namespace Operator

variable {o : Operator} {s last : o.State} {n : Nat} {row : Solution} {e : ExecutionFault}

/-! ## Single solutions -/

/-- The answer at the end. -/
theorem next_of_done (h : o.pull s = .done) : o.next s = (.ok none, s) := by rw [next, h]

/-- The answer where a pull finds a solution. -/
theorem next_of_row (h : o.pull s = .row row last) : o.next s = (.ok (some row), last) := by
  rw [next, h]

/-- The answer where a pull finds a fault. -/
theorem next_of_fault (h : o.pull s = .fault e last) : o.next s = (.error e, last) := by
  rw [next, h]

/-- The first of some calls for single solutions. -/
theorem nexts_succ (o : Operator) (n : Nat) (s : o.State) :
    o.nexts (n + 1) s = (o.next s).1 :: o.nexts n (o.next s).2 := rfl

/-- At the end, calls for single solutions find nothing but the end. -/
theorem nexts_of_done (hp : o.pull s = .done) (n : Nat) :
    o.nexts n s = List.replicate n (.ok none) := by
  induction n with
  | zero => rfl
  | succ n ih => rw [nexts_succ, next_of_done hp, ih, List.replicate_succ]

/-- **Calls for single solutions show the events one by one.** -/
theorem eventsOf_nexts (o : Operator) (n : Nat) (s : o.State) :
    eventsOf (o.nexts n s) = (o.events s).take n := by
  induction n generalizing s with
  | zero => exact List.take_zero.symm
  | succ n ih =>
      cases hp : o.pull s with
      | done =>
          rw [nexts_of_done hp, events_of_done hp, List.take_nil, eventsOf,
            List.filterMap_eq_nil_iff]
          intro answer hanswer
          rw [List.eq_of_mem_replicate hanswer]
          rfl
      | row row next =>
          rw [nexts_succ, next_of_row hp, events_of_row hp, List.take_succ_cons, ← ih next]
          rfl
      | fault e next =>
          rw [nexts_succ, next_of_fault hp, events_of_fault hp, List.take_succ_cons, ← ih next]
          rfl

/-- Calls for single solutions find the end as soon as there are more of them than events. -/
theorem ended_mem_nexts_iff : .ok none ∈ o.nexts n s ↔ (o.events s).length < n := by
  induction n generalizing s with
  | zero => exact ⟨fun h => (List.not_mem_nil h).elim, fun h => absurd h (Nat.not_lt_zero _)⟩
  | succ n ih =>
      cases hp : o.pull s with
      | done =>
          rw [nexts_of_done hp, events_of_done hp]
          exact ⟨fun _ => Nat.succ_pos n, fun _ => List.mem_cons_self⟩
      | row row next =>
          rw [nexts_succ, next_of_row hp, events_of_row hp, List.length_cons,
            Nat.succ_lt_succ_iff, ← ih]
          exact ⟨fun h => (List.mem_cons.1 h).resolve_left nofun, List.mem_cons_of_mem _⟩
      | fault e next =>
          rw [nexts_succ, next_of_fault hp, events_of_fault hp, List.length_cons,
            Nat.succ_lt_succ_iff, ← ih]
          exact ⟨fun h => (List.mem_cons.1 h).resolve_left nofun, List.mem_cons_of_mem _⟩

/-- Calls for single solutions that have found the end have shown all the events. -/
theorem eventsOf_nexts_of_ended (h : .ok none ∈ o.nexts n s) :
    eventsOf (o.nexts n s) = o.events s := by
  rw [eventsOf_nexts, List.take_of_length_le (Nat.le_of_lt (ended_mem_nexts_iff.1 h))]

/-! ## Batches -/

variable {sizes : List Nat}

/-- Calls for batches answer for segments of the events, one after the other. -/
theorem serves_answers (hsizes : ∀ size ∈ sizes, 1 ≤ size) (s : o.State) :
    ∃ segments : List (List Event),
      List.Forall₂ (fun call segment => Serves call.1 call.2 segment)
        (sizes.zip (o.batches sizes s)) segments ∧
      o.events s = segments.flatten ++ o.events (stateAfter o.nextBatch sizes s) := by
  induction sizes generalizing s with
  | nil => exact ⟨[], .nil, rfl⟩
  | cons size sizes ih =>
      obtain ⟨hsize, hrest⟩ := List.forall_mem_cons.1 hsizes
      obtain ⟨segment, hserves, hevents, -⟩ := serves_nextBatch (o := o) (s := s) hsize
      obtain ⟨segments, hsegments, hflatten⟩ := ih hrest (o.nextBatch size s).2
      refine ⟨segment :: segments, .cons hserves hsegments, ?_⟩
      rw [hevents, hflatten, List.flatten_cons, List.append_assoc]
      rfl

/-- Calls for batches that have found the end leave no events. -/
theorem events_stateAfter_of_ended (hsizes : ∀ size ∈ sizes, 1 ≤ size)
    (h : .ok none ∈ o.batches sizes s) : o.events (stateAfter o.nextBatch sizes s) = [] := by
  induction sizes generalizing s with
  | nil => exact absurd h List.not_mem_nil
  | cons size sizes ih =>
      obtain ⟨hsize, hrest⟩ := List.forall_mem_cons.1 hsizes
      rcases List.mem_cons.1 h with hended | hlater
      · -- this call has found the end: there is nothing left for the later ones
        obtain ⟨segment, -, hevents, hend⟩ := serves_nextBatch (o := o) (s := s) hsize
        rw [hend hended.symm] at hevents
        obtain ⟨segments, -, hflatten⟩ := serves_answers hrest (o.nextBatch size s).2
        rw [(List.append_eq_nil_iff.1 hevents.symm).2] at hflatten
        exact (List.append_eq_nil_iff.1 hflatten.symm).2
      · exact ih hrest hlater

/-- **Calls for batches until the end answer for all the events**, segment by segment. -/
theorem serves_batches (hsizes : ∀ size ∈ sizes, 1 ≤ size) (h : .ok none ∈ o.batches sizes s) :
    ∃ segments : List (List Event),
      List.Forall₂ (fun call segment => Serves call.1 call.2 segment)
        (sizes.zip (o.batches sizes s)) segments ∧
      segments.flatten = o.events s := by
  obtain ⟨segments, hsegments, hflatten⟩ := serves_answers hsizes s
  rw [events_stateAfter_of_ended hsizes h, List.append_nil] at hflatten
  exact ⟨segments, hsegments, hflatten.symm⟩

/-! ## What batches lose -/

/-- That no segment holds a solution before its fault. -/
def Lossless (segments : List (List Event)) : Prop :=
  ∀ segment ∈ segments, ∀ e, .error e ∈ segment → segment = [.error e]

variable {calls : List (Nat × Except ExecutionFault (Option (List Solution)))}
  {segments : List (List Event)}

/-- Batches deliver solutions of their segments, in order, and no others. -/
theorem delivered_sublist
    (h : List.Forall₂ (fun call segment => Serves call.1 call.2 segment) calls segments) :
    (delivered (calls.map Prod.snd)).Sublist (rowsOf segments.flatten) := by
  induction h with
  | nil => exact .slnil
  | @cons call segment _ _ hserves _ ih =>
      obtain ⟨size, answer⟩ := call
      rw [List.map_cons, delivered, List.flatMap_cons, ← delivered, List.flatten_cons,
        rowsOf_append]
      cases hserves with
      | ended => exact ih
      | filled hne hle =>
          rw [rowsOf_map_ok]
          exact ih.append_left _
      | failed hlt => exact ih.trans (List.sublist_append_right _ _)

/-- **Batches deliver all the solutions of their segments exactly if no segment holds a solution
before its fault.** -/
theorem delivered_eq_iff
    (h : List.Forall₂ (fun call segment => Serves call.1 call.2 segment) calls segments) :
    delivered (calls.map Prod.snd) = rowsOf segments.flatten ↔ Lossless segments := by
  induction h with
  | nil => exact ⟨fun _ => nofun, fun _ => rfl⟩
  | @cons call segment calls segments hserves hrest ih =>
      obtain ⟨size, answer⟩ := call
      rw [List.map_cons, delivered, List.flatMap_cons, ← delivered, List.flatten_cons,
        rowsOf_append, Lossless, List.forall_mem_cons, ← Lossless, ← ih]
      cases hserves with
      | ended => exact ⟨fun h => ⟨nofun, h⟩, fun h => h.2⟩
      | @filled rows hne hle =>
          rw [rowsOf_map_ok, batchRows, List.append_cancel_left_eq]
          refine ⟨fun h => ⟨fun e he => ?_, h⟩, fun h => h.2⟩
          obtain ⟨row, -, hrow⟩ := List.mem_map.1 he
          cases hrow
      | @failed lost e hlt =>
          rw [rowsOf_append, rowsOf_map_ok, rowsOf_error_cons, batchRows, List.nil_append]
          cases lost with
          | nil =>
              refine ⟨fun h => ⟨fun e' he' => ?_, h⟩, fun h => h.2⟩
              rw [List.map_nil, List.nil_append, List.mem_singleton] at he'
              rw [he']
              rfl
          | cons row lost =>
              -- the lost solutions are missing, and later batches have none to make up for them
              constructor
              · intro hall
                have hlength := (delivered_sublist hrest).length_le
                rw [hall, List.length_append, List.length_append, List.length_cons] at hlength
                omega
              · rintro ⟨hlossless, -⟩
                have hsegment := hlossless e (List.mem_append_right _ List.mem_cons_self)
                exact absurd (congrArg List.length hsegment) (by simp)

end Operator

end SolutionAlgebra
