import SolutionAlgebra.Value

/-! # Operators that yield solutions one by one

An operator has a state. Pulling it either finds the end, and then it stays at the end, or gives a
solution or a fault and moves the state on. Every run of pulls comes to the end: the states that
follow one another in pulls are well-founded, and by this all loops over operators end. -/

namespace SolutionAlgebra

/-- Why an operator fails. -/
inductive ExecutionFault where
  /-- An expression fails. -/
  | evaluation (fault : EvaluationFault)
  /-- A variable that is to be bound is bound already. -/
  | alreadyBound (v : Variable)
  /-- A step that the caller supplied fails. -/
  | step (text : String)
deriving DecidableEq

/-- The text of a fault. -/
def ExecutionFault.message : ExecutionFault → String
  | evaluation fault => "Evaluation error: " ++ fault.message
  | alreadyBound v => "Runtime error: " ++ v.text ++ " is already bound"
  | step text => "Runtime error: " ++ text

/-- What a pull finds. -/
inductive Pull (σ : Type) where
  /-- The end. -/
  | done
  /-- A solution, and the state after it. -/
  | row (solution : Solution) (next : σ)
  /-- A fault, and the state after it. -/
  | fault (fault : ExecutionFault) (next : σ)

/-- A pull whose states are seen through a function. -/
def Pull.map {σ τ : Type} (f : σ → τ) : Pull σ → Pull τ
  | done => done
  | row s next => row s (f next)
  | fault e next => fault e (f next)

/-- That a state follows another in a pull. -/
inductive Follows {σ : Type} (pull : σ → Pull σ) : σ → σ → Prop where
  /-- A solution lies between the states. -/
  | row {s next : σ} {solution : Solution} : pull s = .row solution next → Follows pull next s
  /-- A fault lies between the states. -/
  | fault {s next : σ} {fault : ExecutionFault} : pull s = .fault fault next → Follows pull next s

/-- An operator. -/
structure Operator where
  /-- The states. -/
  State : Type
  /-- The state at the beginning. -/
  start : State
  /-- What a pull finds in a state. -/
  pull : State → Pull State
  /-- The state after going back to the beginning. -/
  reset : State → State
  /-- Every run of pulls comes to the end. -/
  ends : WellFounded (Follows pull)

/-- Loops that pull an operator end. -/
instance Operator.wellFoundedStates (o : Operator) : WellFoundedRelation o.State :=
  ⟨Follows o.pull, o.ends⟩

/-- Loops that pull an operator several times in a turn end. -/
theorem Operator.endsTransitively (o : Operator) :
    WellFounded (Relation.TransGen (Follows o.pull)) := o.ends.transGen

end SolutionAlgebra
