import SolutionAlgebra.Operator.Basic
import SolutionAlgebra.Solution

/-! # Operators made of operators

A source yields given solutions. The other operators pull one or two inputs: they change, keep,
multiply or group what their input yields, or yield one input after the other. A fault of an input
passes through, and pulling may go on after it; only grouping then forgets the solutions that it has
pulled before the fault. -/

namespace SolutionAlgebra.Operator

/-! ## Sources -/

/-- A pull of a list of solutions. -/
def valuesPull : List Solution → Pull (List Solution)
  | [] => .done
  | row :: rows => .row row rows

/-- A list of solutions ends, as it gets shorter with each pull. -/
theorem valuesPull_ends : WellFounded (Follows valuesPull) := by
  refine Subrelation.wf (r := InvImage (· < ·) List.length) ?_ (InvImage.wf _ Nat.lt_wfRel.wf)
  intro next s h
  cases s with
  | nil => cases h <;> contradiction
  | cons row rows =>
    cases h with
    | row h => cases h; exact Nat.lt_succ_self _
    | fault h => cases h

/-- The operator that yields given solutions. -/
def values (rows : List Solution) : Operator where
  State := List Solution
  start := rows
  pull := valuesPull
  reset _ := rows
  ends := valuesPull_ends

/-! ## One solution from one -/

/-- A pull that changes a solution. -/
def mapPull (input : Operator) (f : Solution → Except ExecutionFault Solution) (s : input.State) :
    Pull input.State :=
  match input.pull s with
  | .done => .done
  | .fault e next => .fault e next
  | .row row next => match f row with
    | .ok changed => .row changed next
    | .error e => .fault e next

/-- A pull that changes a solution moves the input on by one pull. -/
theorem follows_of_mapPull {input : Operator} {f : Solution → Except ExecutionFault Solution}
    {next s : input.State} (h : Follows (mapPull input f) next s) : Follows input.pull next s := by
  cases h with
  | row h =>
    unfold mapPull at h
    split at h
    · cases h
    · cases h
    · next hp => split at h <;> cases h; exact .row hp
  | fault h =>
    unfold mapPull at h
    split at h
    · cases h
    · next hp => cases h; exact .fault hp
    · next hp => split at h <;> cases h; exact .row hp

/-- The operator that changes what its input yields. -/
def map (input : Operator) (f : Solution → Except ExecutionFault Solution) : Operator where
  State := input.State
  start := input.start
  pull := mapPull input f
  reset := input.reset
  ends := Subrelation.wf (fun h => follows_of_mapPull h) input.ends

/-! ## Some of the solutions -/

/-- A pull that passes over solutions. -/
def filterPull (input : Operator) (keep : Solution → Except ExecutionFault Bool) (s : input.State) :
    Pull input.State :=
  match _h : input.pull s with
  | .done => .done
  | .fault e next => .fault e next
  | .row row next => match keep row with
    | .ok true => .row row next
    | .ok false => filterPull input keep next
    | .error e => .fault e next
termination_by s
decreasing_by exact .row _h

/-- A pull of the next solution that is kept moves the input on by some pulls. -/
theorem transGen_of_filterPull {input : Operator} {keep : Solution → Except ExecutionFault Bool}
    {next s : input.State} (h : Follows (filterPull input keep) next s) :
    Relation.TransGen (Follows input.pull) next s := by
  induction s using input.ends.induction with
  | _ s ih =>
    have step : (∃ row, filterPull input keep s = .row row next) ∨
        (∃ e, filterPull input keep s = .fault e next) := by
      cases h with
      | row h => exact .inl ⟨_, h⟩
      | fault h => exact .inr ⟨_, h⟩
    rw [filterPull] at step
    split at step
    · simp at step
    · next hp =>
      simp only [reduceCtorEq, exists_false, Pull.fault.injEq, false_or] at step
      obtain ⟨_, _, rfl⟩ := step
      exact .single (.fault hp)
    · next row n hp =>
      split at step
      · simp only [reduceCtorEq, exists_false, Pull.row.injEq, or_false] at step
        obtain ⟨_, _, rfl⟩ := step
        exact .single (.row hp)
      · have : Relation.TransGen (Follows input.pull) next n := by
          refine ih n (.row hp) ?_
          rcases step with ⟨_, h⟩ | ⟨_, h⟩
          · exact .row h
          · exact .fault h
        exact this.tail (.row hp)
      · simp only [reduceCtorEq, exists_false, Pull.fault.injEq, false_or] at step
        obtain ⟨_, _, rfl⟩ := step
        exact .single (.row hp)

/-- The operator that yields the solutions of its input that satisfy a condition. -/
def filter (input : Operator) (keep : Solution → Except ExecutionFault Bool) : Operator where
  State := input.State
  start := input.start
  pull := filterPull input keep
  reset := input.reset
  ends := Subrelation.wf (fun h => transGen_of_filterPull h) input.endsTransitively

/-! ## Several solutions from one -/

/-- A pull that takes what is pending, or multiplies the next solution. -/
def flatMapPull (input : Operator) (f : Solution → Except ExecutionFault (List Solution)) :
    (s : input.State) → (pending : List Solution) → Pull (input.State × List Solution)
  | s, row :: pending => .row row (s, pending)
  | s, [] =>
    match _h : input.pull s with
    | .done => .done
    | .fault e next => .fault e (next, [])
    | .row row next => match f row with
      | .ok rows => flatMapPull input f next rows
      | .error e => .fault e (next, [])
termination_by s => s
decreasing_by exact .row _h

/-- A pull of one solution out of several takes one that is pending, or moves the input on. -/
theorem flatMapPull_follows {input : Operator}
    {f : Solution → Except ExecutionFault (List Solution)} {s : input.State}
    {pending : List Solution} {next : input.State × List Solution}
    (h : Follows (fun t : input.State × List Solution => flatMapPull input f t.1 t.2) next
      (s, pending)) :
    (next.1 = s ∧ next.2.length < pending.length) ∨
      Relation.TransGen (Follows input.pull) next.1 s := by
  induction s using input.ends.induction generalizing pending with
  | _ s ih =>
    have step : (∃ row, flatMapPull input f s pending = .row row next) ∨
        (∃ e, flatMapPull input f s pending = .fault e next) := by
      cases h with
      | row h => exact .inl ⟨_, h⟩
      | fault h => exact .inr ⟨_, h⟩
    rw [flatMapPull.eq_def] at step
    split at step
    · simp only [Pull.row.injEq, reduceCtorEq, exists_false, or_false] at step
      obtain ⟨_, _, rfl⟩ := step
      exact .inl ⟨rfl, Nat.lt_succ_self _⟩
    · refine .inr ?_
      split at step
      · simp at step
      · next hp =>
        simp only [reduceCtorEq, exists_false, Pull.fault.injEq, false_or] at step
        obtain ⟨_, _, rfl⟩ := step
        exact .single (.fault hp)
      · next row n hp =>
        split at step
        · next rows _ =>
          have h' : Follows (fun t : input.State × List Solution => flatMapPull input f t.1 t.2)
              next (n, rows) := by
            rcases step with ⟨_, h⟩ | ⟨_, h⟩
            · exact .row h
            · exact .fault h
          rcases ih n (.row hp) h' with ⟨he, _⟩ | ht
          · rw [he]; exact .single (.row hp)
          · exact ht.tail (.row hp)
        · simp only [reduceCtorEq, exists_false, Pull.fault.injEq, false_or] at step
          obtain ⟨_, _, rfl⟩ := step
          exact .single (.row hp)

/-- Several solutions from one end where the input does, since those pending get fewer in between.
-/
theorem flatMapPull_ends (input : Operator)
    (f : Solution → Except ExecutionFault (List Solution)) :
    WellFounded (Follows fun t : input.State × List Solution => flatMapPull input f t.1 t.2) := by
  refine ⟨fun (s, pending) => ?_⟩
  induction s using input.endsTransitively.induction generalizing pending with
  | _ s outer =>
    induction hn : pending.length using Nat.strongRecOn generalizing pending with
    | _ n inner =>
      refine ⟨_, fun (s', pending') h => ?_⟩
      rcases flatMapPull_follows h with ⟨he, hl⟩ | ht
      · subst hn
        cases he
        exact inner _ hl _ rfl
      · exact outer s' ht pending'

/-- The operator that yields several solutions, or none, for each one of its input. -/
def flatMap (input : Operator) (f : Solution → Except ExecutionFault (List Solution)) :
    Operator where
  State := input.State × List Solution
  start := (input.start, [])
  pull s := flatMapPull input f s.1 s.2
  reset s := (input.reset s.1, [])
  ends := flatMapPull_ends input f

/-! ## One input after the other -/

/-- A pull of the left input until it has ended, which the truth value tells, then of the right. -/
def unionPull (left right : Operator) :
    left.State × right.State × Bool → Pull (left.State × right.State × Bool)
  | (s, t, true) => (right.pull t).map fun next => (s, next, true)
  | (s, t, false) =>
    match left.pull s with
    | .done => (right.pull t).map fun next => (s, next, true)
    | .row row next => .row row (next, t, false)
    | .fault e next => .fault e (next, t, false)

/-- A state follows another in a mapped pull only as the image of one that follows. -/
theorem follows_of_map {σ τ : Type} {p : Pull σ} {f : σ → τ} {next : τ} {pull : σ → Pull σ} {s : σ}
    (hp : pull s = p)
    (h : (∃ row, p.map f = .row row next) ∨ ∃ e, p.map f = .fault e next) :
    ∃ n, Follows pull n s ∧ next = f n := by
  cases p with
  | done => simp [Pull.map] at h
  | row row n =>
    simp only [Pull.map, Pull.row.injEq, reduceCtorEq, exists_false, or_false] at h
    obtain ⟨_, _, rfl⟩ := h
    exact ⟨n, .row hp, rfl⟩
  | fault e n =>
    simp only [Pull.map, Pull.fault.injEq, reduceCtorEq, exists_false, false_or] at h
    obtain ⟨_, _, rfl⟩ := h
    exact ⟨n, .fault hp, rfl⟩

/-- One input after the other ends where both do. -/
theorem unionPull_ends (left right : Operator) : WellFounded (Follows (unionPull left right)) := by
  have second : ∀ (t : right.State) (s : left.State),
      Acc (Follows (unionPull left right)) (s, t, true) := by
    intro t
    induction t using right.ends.induction with
    | _ t ih =>
      intro s
      refine ⟨_, fun next h => ?_⟩
      have step : (∃ row, unionPull left right (s, t, true) = .row row next) ∨
          ∃ e, unionPull left right (s, t, true) = .fault e next := by
        cases h with
        | row h => exact .inl ⟨_, h⟩
        | fault h => exact .inr ⟨_, h⟩
      obtain ⟨n, hn, rfl⟩ := follows_of_map rfl step
      exact ih n hn s
  refine ⟨fun (s, t, ended) => ?_⟩
  cases ended with
  | true => exact second t s
  | false =>
    induction s using left.ends.induction with
    | _ s ih =>
      refine ⟨_, fun next h => ?_⟩
      have step : (∃ row, unionPull left right (s, t, false) = .row row next) ∨
          ∃ e, unionPull left right (s, t, false) = .fault e next := by
        cases h with
        | row h => exact .inl ⟨_, h⟩
        | fault h => exact .inr ⟨_, h⟩
      unfold unionPull at step
      split at step
      · next he => simp at he
      · next he =>
        cases he
        split at step
        · obtain ⟨n, _, rfl⟩ := follows_of_map rfl step
          exact second n s
        · next hp =>
          simp only [Pull.row.injEq, reduceCtorEq, exists_false, or_false] at step
          obtain ⟨_, _, rfl⟩ := step
          exact ih _ (.row hp)
        · next hp =>
          simp only [Pull.fault.injEq, reduceCtorEq, exists_false, false_or] at step
          obtain ⟨_, _, rfl⟩ := step
          exact ih _ (.fault hp)

/-- The operator that yields what its left input yields, then what its right input yields. -/
def union (left right : Operator) : Operator where
  State := left.State × right.State × Bool
  start := (left.start, right.start, false)
  pull := unionPull left right
  reset s := (left.reset s.1, right.reset s.2.1, false)
  ends := unionPull_ends left right

/-! ## Groups -/

/-- What is found when an operator is pulled until it ends or fails. -/
inductive Drained (σ : Type) where
  /-- The end, after some solutions. -/
  | rows (rows : List Solution) (last : σ)
  /-- A fault, and the state after it. -/
  | fault (fault : ExecutionFault) (next : σ)

/-- Pulls an operator until it ends or fails. -/
def drain (o : Operator) (s : o.State) : Drained o.State :=
  match _h : o.pull s with
  | .done => .rows [] s
  | .fault e next => .fault e next
  | .row row next => match drain o next with
    | .rows rows last => .rows (row :: rows) last
    | .fault e next => .fault e next
termination_by s
decreasing_by exact .row _h

/-- A fault met on the way to the end has moved the state on. -/
theorem transGen_of_drain {o : Operator} {s next : o.State} {e : ExecutionFault}
    (h : drain o s = .fault e next) : Relation.TransGen (Follows o.pull) next s := by
  induction s using o.ends.induction with
  | _ s ih =>
    rw [drain] at h
    split at h
    · cases h
    · next hp => cases h; exact .single (.fault hp)
    · next hp =>
      split at h
      · cases h
      · next hd =>
        cases h
        exact (ih _ (.row hp) hd).tail (.row hp)

/-- A pull of the groups of all that the input yields. -/
def groupByPull (input : Operator) (vs : List Variable) :
    input.State × Option (List Solution) → Pull (input.State × Option (List Solution))
  | (_, some []) => .done
  | (s, some (group :: groups)) => .row group (s, some groups)
  | (s, none) =>
    match drain input s with
    | .fault e next => .fault e (next, none)
    | .rows rows last =>
      match Grouping.groups vs rows with
      | [] => .done
      | group :: groups => .row group (last, some groups)

/-- The groups end where the input does, as there are only so many of them. -/
theorem groupByPull_ends (input : Operator) (vs : List Variable) :
    WellFounded (Follows (groupByPull input vs)) := by
  have grouped : ∀ (groups : List Solution) (s : input.State),
      Acc (Follows (groupByPull input vs)) (s, some groups) := by
    intro groups
    induction groups with
    | nil => exact fun s => ⟨_, fun next h => by cases h <;> contradiction⟩
    | cons group groups ih =>
      refine fun s => ⟨_, fun next h => ?_⟩
      cases h with
      | row h => cases h; exact ih s
      | fault h => cases h
  refine ⟨fun (s, found) => ?_⟩
  cases found with
  | some groups => exact grouped groups s
  | none =>
    induction s using input.endsTransitively.induction with
    | _ s ih =>
      refine ⟨_, fun next h => ?_⟩
      cases h with
      | row h =>
        simp only [groupByPull] at h
        split at h
        · cases h
        · split at h
          · cases h
          · cases h; exact grouped _ _
      | fault h =>
        simp only [groupByPull] at h
        split at h
        · next hd => cases h; exact ih _ (transGen_of_drain hd)
        · split at h <;> cases h

/-- The operator that yields the groups of all that its input yields. -/
def groupBy (input : Operator) (vs : List Variable) : Operator where
  State := input.State × Option (List Solution)
  start := (input.start, none)
  pull := groupByPull input vs
  reset s := (input.reset s.1, none)
  ends := groupByPull_ends input vs

end SolutionAlgebra.Operator
