import SolutionAlgebra.Plan
import SolutionAlgebra.Proofs.Operator.Combinators

/-! # The events of a plan

The events of a plan are given by recursion on the tree with list functions only. Running the
operators of the plan, with all the states they keep and in batches of any size, gives the outcome
of this list.

* **`Plan.events`** — the events of a plan.
* **`Plan.events_operator`** — the operator of a plan has the events of the plan.
* **`Plan.solutions_eq_outcome`** — collecting a plan in batches gives the outcome of its events. -/

namespace SolutionAlgebra.Plan

variable (ambient : Ambient)

/-- What a filter makes of a solution: the solution itself where the expression has a term that
counts as true, nothing where it does not, and a fault of the expression only in strict mode. -/
def filterRow (predicate : Compiled) (strict : Bool) (row : Solution) : List Event :=
  match predicate.evaluateTerm ambient row with
  | .ok (some t) => if t.effectiveTruth? = some true then [.ok row] else []
  | .ok none => []
  | .error fault => if strict then [.error (.evaluation fault)] else []

/-- What an extension makes of a solution: a fault where the variable is bound already, else the
solution with the variable bound to the term of the expression if there is one; a fault of the
expression is one of the extension only in strict mode. -/
def extendRow (v : Variable) (e : Compiled) (strict : Bool) (row : Solution) : List Event :=
  if row.has v then [.error (.alreadyBound v)]
  else match e.evaluateTerm ambient row with
    | .ok (some t) => [.ok (row.bind v t)]
    | .ok none => [.ok row]
    | .error fault => if strict then [.error (.evaluation fault)] else [.ok row]

/-- The events of a plan. -/
def events : Plan → List Event
  | values rows => rows.map .ok
  | union left right => events left ++ events right
  | filter input predicate strict =>
    (events input).flatMap (onRow (filterRow ambient predicate strict))
  | extend input v e strict => (events input).flatMap (onRow (extendRow ambient v e strict))
  | map input f => (events input).flatMap (onRow fun row => [f row])
  | flatMap input f => (events input).flatMap (onRow fun row => match f row with
    | .ok rows => rows.map .ok
    | .error fault => [.error fault])
  | groupBy input vs => groupEvents vs [] (events input)

/-- A filter puts in the place of a solution what its operator keeps of it. -/
theorem keepEvents_accepts (predicate : Compiled) (strict : Bool) :
    Operator.keepEvents (accepts ambient predicate strict) =
      filterRow ambient predicate strict := by
  funext row
  rw [Operator.keepEvents, accepts, filterRow]
  cases predicate.evaluateTerm ambient row with
  | error fault => cases strict <;> rfl
  | ok t =>
      cases t with
      | none => rfl
      | some t =>
          cases ht : t.effectiveTruth? with
          | none => simp [ht]
          | some truth => cases truth <;> simp [ht]

/-- An extension puts in the place of a solution what its operator makes of it. -/
theorem bindValue_eq_extendRow (v : Variable) (e : Compiled) (strict : Bool) :
    (fun row => [bindValue ambient v e strict row]) = extendRow ambient v e strict := by
  funext row
  rw [bindValue, extendRow]
  cases row.has v with
  | true => rfl
  | false =>
      cases e.evaluateTerm ambient row with
      | error fault => cases strict <;> rfl
      | ok t => cases t <;> rfl

/-- The operator of a plan has the events of the plan. -/
theorem events_operator (p : Plan) :
    (p.operator ambient).events (p.operator ambient).start = p.events ambient := by
  induction p with
  | values rows => exact Operator.events_values rows rows
  | union left right ihl ihr =>
      rw [events, ← ihl, ← ihr]
      exact Operator.events_union _ _ _ _
  | filter input predicate strict ih =>
      rw [events, ← ih, ← keepEvents_accepts]
      exact Operator.events_filter _ _ _
  | extend input v e strict ih =>
      rw [events, ← ih, ← bindValue_eq_extendRow]
      exact Operator.events_map _ _ _
  | map input f ih =>
      rw [events, ← ih]
      exact Operator.events_map _ _ _
  | flatMap input f ih =>
      rw [events, ← ih]
      exact Operator.events_flatMap _ _ _ []
  | groupBy input vs ih =>
      rw [events, ← ih]
      exact Operator.events_groupBy _ _ _

/-- **Collecting a plan gives the outcome of its events**, in batches of any size: the solutions or,
if there is a fault, the first one. -/
theorem solutions_eq_outcome (size : Nat) (p : Plan) :
    p.solutions ambient size = outcome (p.events ambient) := by
  rw [solutions, Operator.collect_eq_outcome, events_operator]

end SolutionAlgebra.Plan
