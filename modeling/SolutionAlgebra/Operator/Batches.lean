import SolutionAlgebra.Operator.Basic

/-! # Pulling in batches

A batch is what a number of pulls give, or less where the operator ends before; a fault takes the
place of the whole batch. Collecting an operator pulls batch after batch until none is left.

Before a batch is pulled, room is reserved for as many solutions as it may have, whether or not the
operator has that many. Where the memory has no such room the run stops at once, without an answer
and without a fault that a caller could handle; what is done in a memory is therefore an `Option`,
with `none` for a run that stops. -/

namespace SolutionAlgebra

/-- The memory in which batches are held. -/
structure Memory where
  /-- The number of octets that a solution takes. -/
  width : Nat
  /-- The number of octets that one block of memory may have. -/
  octets : Nat
  /-- A solution takes a word of 64 bits at least. -/
  word_le_width : 8 ≤ width
  /-- The distance of two octets of a block is a signed number of 64 bits. -/
  octets_lt : octets < 0x8000000000000000

namespace Memory

/-- Whether there is room for a number of solutions in one block. -/
def holds (memory : Memory) (count : Nat) : Bool := decide (count * memory.width ≤ memory.octets)

/-- The memory of a machine of 64 bits where a block may have any size that addresses allow. A
solution takes ten words: seven for its entries, two for how they are found, one for its group. -/
def addressable : Memory := ⟨80, 0x7fffffffffffffff, by decide, by decide⟩

/-- There is no room for very many solutions. -/
theorem lt_of_holds {memory : Memory} {count : Nat} (h : memory.holds count = true) :
    8 * count < 0x8000000000000000 :=
  calc 8 * count ≤ memory.width * count := Nat.mul_le_mul_right count memory.word_le_width
    _ = count * memory.width := Nat.mul_comm _ _
    _ ≤ memory.octets := of_decide_eq_true h
    _ < 0x8000000000000000 := memory.octets_lt

end Memory

namespace Operator

/-! ## Batches -/

/-- At most a number of solutions, and the state after them. -/
def takePulls (o : Operator) : Nat → o.State → Except ExecutionFault (List Solution) × o.State
  | 0, s => (.ok [], s)
  | n + 1, s =>
    match o.pull s with
    | .done => (.ok [], s)
    | .fault e next => (.error e, next)
    | .row row next =>
      match takePulls o n next with
      | (.ok rows, last) => (.ok (row :: rows), last)
      | (.error e, last) => (.error e, last)

/-- A batch of at most a number of solutions; `none` where there is no solution. -/
def nextBatch (o : Operator) (size : Nat) (s : o.State) :
    Except ExecutionFault (Option (List Solution)) × o.State :=
  match takePulls o size s with
  | (.ok rows, next) => (.ok (if rows.isEmpty then none else some rows), next)
  | (.error e, next) => (.error e, next)

/-- Pulls that end well leave the state where it was, or move it on. -/
theorem takePulls_follows {o : Operator} {n : Nat} {s last : o.State} {rows : List Solution}
    (h : takePulls o n s = (.ok rows, last)) :
    (rows = [] ∧ last = s) ∨ Relation.TransGen (Follows o.pull) last s := by
  induction n generalizing s rows with
  | zero => cases h; exact .inl ⟨rfl, rfl⟩
  | succ n ih =>
    rw [takePulls] at h
    split at h
    · cases h; exact .inl ⟨rfl, rfl⟩
    · cases h
    · next row next hp =>
      split at h
      · next hr =>
        cases h
        rcases ih hr with ⟨_, rfl⟩ | ht
        · exact .inr (.single (.row hp))
        · exact .inr (ht.tail (.row hp))
      · cases h

/-- A batch with solutions moves the state on. -/
theorem transGen_of_nextBatch {o : Operator} {n : Nat} {s last : o.State} {rows : List Solution}
    (h : nextBatch o n s = (.ok (some rows), last)) :
    Relation.TransGen (Follows o.pull) last s := by
  unfold nextBatch at h
  split at h
  · next found _ ht =>
    simp only [Prod.mk.injEq, Except.ok.injEq] at h
    obtain ⟨h, rfl⟩ := h
    rcases takePulls_follows ht with ⟨rfl, _⟩ | ht'
    · simp at h
    · exact ht'
  · cases h

/-! ## All batches -/

/-- All solutions, pulled in batches of a size that is at least one, and the state after them. -/
def collectBatches (o : Operator) (size : Nat) (s : o.State) :
    Except ExecutionFault (List Solution) × o.State :=
  match _h : nextBatch o (max size 1) s with
  | (.ok none, next) => (.ok [], next)
  | (.error e, next) => (.error e, next)
  | (.ok (some rows), next) =>
    match collectBatches o size next with
    | (.ok rest, last) => (.ok (rows ++ rest), last)
    | (.error e, last) => (.error e, last)
termination_by o.endsTransitively.wrap s
decreasing_by exact transGen_of_nextBatch _h

/-- All solutions of an operator from its beginning. -/
def collect (o : Operator) (size : Nat) : Except ExecutionFault (List Solution) :=
  (collectBatches o size o.start).1

/-! ## Batches in a memory -/

/-- A batch, for which room is reserved first. -/
def nextBatchIn (memory : Memory) (o : Operator) (size : Nat) (s : o.State) :
    Option (Except ExecutionFault (Option (List Solution)) × o.State) :=
  if memory.holds size then some (nextBatch o size s) else none

/-- A batch for which there is memory is the next batch. -/
theorem nextBatch_of_nextBatchIn {memory : Memory} {o : Operator} {size : Nat} {s : o.State}
    {found : Except ExecutionFault (Option (List Solution)) × o.State}
    (h : nextBatchIn memory o size s = some found) : nextBatch o size s = found := by
  unfold nextBatchIn at h
  split at h
  · exact Option.some.inj h
  · cases h

/-- All solutions, pulled in batches for each of which room is reserved, and the state after
them. -/
def collectBatchesIn (memory : Memory) (o : Operator) (size : Nat) (s : o.State) :
    Option (Except ExecutionFault (List Solution) × o.State) :=
  match _h : nextBatchIn memory o (max size 1) s with
  | none => none
  | some (.ok none, next) => some (.ok [], next)
  | some (.error e, next) => some (.error e, next)
  | some (.ok (some rows), next) =>
    match collectBatchesIn memory o size next with
    | none => none
    | some (.ok rest, last) => some (.ok (rows ++ rest), last)
    | some (.error e, last) => some (.error e, last)
termination_by o.endsTransitively.wrap s
decreasing_by exact transGen_of_nextBatch (nextBatch_of_nextBatchIn _h)

/-- All solutions of an operator from its beginning, collected in a memory. -/
def collectIn (memory : Memory) (o : Operator) (size : Nat) :
    Option (Except ExecutionFault (List Solution)) :=
  (collectBatchesIn memory o size o.start).map Prod.fst

end Operator

end SolutionAlgebra
