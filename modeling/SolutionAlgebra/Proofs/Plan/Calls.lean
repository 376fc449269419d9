import SolutionAlgebra.Plan
import SolutionAlgebra.Proofs.Operator.Calls

/-! # Calls on the operator of a plan

The operator of a plan answers calls of all kinds in any order. Sent back to the beginning, it
forgets all that went before. Asked for batches, it delivers its solutions in order, but for those
that a batch had taken when a fault took the place of the batch.

* **`Plan.reset_operator`** — going back to the beginning leaves nothing of a state.
* **`Plan.answers_after_reset`** — the answers after it are those of an operator at its beginning.
* **`Plan.batches_lose_before_faults`** — what calls for batches deliver and what they lose.
* **`Plan.not_batches_deliver_all`** — that they lose some solutions. -/

namespace SolutionAlgebra.Plan

open Operator

variable (ambient : Ambient)

/-! ## Going back to the beginning -/

/-- **The operator of a plan is at its beginning after it has gone back there**, whatever its state
was before. -/
theorem reset_operator (p : Plan) (s : (p.operator ambient).State) :
    (p.operator ambient).reset s = (p.operator ambient).start := by
  induction p with
  | values rows => rfl
  | union left right ihl ihr =>
      obtain ⟨s, t, ended⟩ := s
      show ((left.operator ambient).reset s, (right.operator ambient).reset t, false) = _
      rw [ihl, ihr]
      rfl
  | filter input predicate strict ih => exact ih s
  | extend input v e strict ih => exact ih s
  | map input f ih => exact ih s
  | flatMap input f ih =>
      -- the pending solutions go as well
      obtain ⟨s, pending⟩ := s
      show ((input.operator ambient).reset s, []) = _
      rw [ih]
      rfl
  | groupBy input vs ih =>
      obtain ⟨s, found⟩ := s
      show ((input.operator ambient).reset s, none) = _
      rw [ih]
      rfl

/-- **After it has gone back to the beginning, the operator of a plan answers all calls as it does
when nothing was called before**: whatever calls came earlier, with whatever answers, and in
whatever state they left the operator. Random draws are a function of their place and of the
solution here, so a plan with volatile operations draws the same again, which this does not say of
draws that differ from one time to the next; and the sizes of batches are those for which there is
room in memory. -/
theorem answers_after_reset (p : Plan) (earlier later : List Call) :
    answersTo (p.operator ambient).call (earlier ++ .reset :: later) (p.operator ambient).start =
      answersTo (p.operator ambient).call earlier (p.operator ambient).start ++
        .reset :: answersTo (p.operator ambient).call later (p.operator ambient).start := by
  rw [answersTo_append, answersTo, call, reset_operator]

/-! ## Batches -/

/-- **What calls for batches deliver.** Let an operator be asked for batches of any sizes from one
on, also after faults, until it finds the end, and let another be asked for single solutions in the
same way. Then the events that the second shows fall into segments, one for each call for a batch
and in their order. A batch delivers the solutions of its segment, all of them where it succeeds,
and none of them where it fails; a batch that fails has taken fewer solutions than its size. So all
solutions are delivered exactly if no batch that fails had taken any. The two operators draw the
same at random, as draws are a function of their place and of the solution: expressions with
volatile operations, which differ from one run to the next, are outside of this. So are batches for
which there is no room in memory. -/
theorem batches_lose_before_faults (p : Plan) {sizes : List Nat} {n : Nat}
    (hsizes : ∀ size ∈ sizes, 1 ≤ size)
    (hbatches : .ok none ∈ (p.operator ambient).batches sizes (p.operator ambient).start)
    (hnexts : .ok none ∈ (p.operator ambient).nexts n (p.operator ambient).start) :
    ∃ segments : List (List Event),
      List.Forall₂ (fun call segment => Serves call.1 call.2 segment)
        (sizes.zip ((p.operator ambient).batches sizes (p.operator ambient).start)) segments ∧
      segments.flatten = eventsOf ((p.operator ambient).nexts n (p.operator ambient).start) ∧
      (delivered ((p.operator ambient).batches sizes (p.operator ambient).start) =
          rowsOf (eventsOf ((p.operator ambient).nexts n (p.operator ambient).start)) ↔
        Lossless segments) := by
  obtain ⟨segments, hsegments, hflatten⟩ := serves_batches hsizes hbatches
  have hevents := hflatten.trans (eventsOf_nexts_of_ended hnexts).symm
  refine ⟨segments, hsegments, hevents, ?_⟩
  have hlength : ((p.operator ambient).batches sizes (p.operator ambient).start).length =
      sizes.length := length_answersTo _ _ _
  rw [← hevents, ← delivered_eq_iff hsegments, List.map_snd_zip (Nat.le_of_eq hlength)]

/-- A plan that fails between two solutions. -/
def failsBetween : Plan :=
  .map (.values [.ofList [(⟨"v"⟩, .literal (.plain "a"))], .empty,
      .ofList [(⟨"v"⟩, .literal (.plain "b"))]])
    fun row => if row.has ⟨"v"⟩ then .ok row else .error (.step "?v is required")

/-- Batches of two solutions of a plan that fails between two solutions: the first one has taken
a solution before it fails, which is lost. -/
theorem batches_lose_before_faults_failsBetween :
    let o := failsBetween.operator ⟨⟨0, 0, 0⟩, fun _ _ => 0⟩
    (∀ size ∈ [2, 2, 2], 1 ≤ size) ∧ .ok none ∈ o.batches [2, 2, 2] o.start ∧
      .ok none ∈ o.nexts 4 o.start ∧
      ∃ segments : List (List Event),
        List.Forall₂ (fun call segment => Serves call.1 call.2 segment)
          ([2, 2, 2].zip (o.batches [2, 2, 2] o.start)) segments ∧
        segments.flatten = eventsOf (o.nexts 4 o.start) ∧ ¬ Lossless segments := by
  intro o
  have hsizes : ∀ size ∈ [2, 2, 2], 1 ≤ size := by decide
  have hbatches : .ok none ∈ o.batches [2, 2, 2] o.start :=
    List.mem_of_getElem? (i := 2) rfl
  have hnexts : .ok none ∈ o.nexts 4 o.start := List.mem_of_getElem? (i := 3) rfl
  obtain ⟨segments, hsegments, hflatten, hall⟩ :=
    batches_lose_before_faults _ failsBetween hsizes hbatches hnexts
  refine ⟨hsizes, hbatches, hnexts, segments, hsegments, hflatten, fun hlossless => ?_⟩
  -- one solution is delivered, of two
  exact absurd (congrArg List.length (hall.2 hlossless)) (by decide)

/-- **Batches do not deliver all that calls for single solutions deliver.** -/
theorem not_batches_deliver_all :
    ¬ ∀ (ambient : Ambient) (p : Plan) (sizes : List Nat) (n : Nat),
      (∀ size ∈ sizes, 1 ≤ size) →
      .ok none ∈ (p.operator ambient).batches sizes (p.operator ambient).start →
      .ok none ∈ (p.operator ambient).nexts n (p.operator ambient).start →
      delivered ((p.operator ambient).batches sizes (p.operator ambient).start) =
        rowsOf (eventsOf ((p.operator ambient).nexts n (p.operator ambient).start)) := by
  intro hall
  have hsame := hall ⟨⟨0, 0, 0⟩, fun _ _ => 0⟩ failsBetween [2, 2, 2] 4 (by decide)
    (List.mem_of_getElem? (i := 2) rfl) (List.mem_of_getElem? (i := 3) rfl)
  exact absurd (congrArg List.length hsame) (by decide)

end SolutionAlgebra.Plan
