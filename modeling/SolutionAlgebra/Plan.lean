import SolutionAlgebra.Compiled
import SolutionAlgebra.Operator.Batches
import SolutionAlgebra.Operator.Combinators

/-! # Plans

A plan is a tree of operators over solutions that are at hand. Its filters keep the solutions for
which an expression is true; its extensions bind a variable to the value of an expression. Where
errors are not strict, a fault of the expression drops the solution or leaves the variable unbound.
-/

namespace SolutionAlgebra

/-- A tree of operators. -/
inductive Plan where
  /-- Solutions at hand. -/
  | values (rows : List Solution)
  /-- One plan after the other. -/
  | union (left right : Plan)
  /-- The solutions for which an expression is true. -/
  | filter (input : Plan) (predicate : Compiled) (strict : Bool)
  /-- The solutions with a variable bound to the value of an expression. -/
  | extend (input : Plan) (v : Variable) (e : Compiled) (strict : Bool)
  /-- The solutions changed by a function. -/
  | map (input : Plan) (f : Solution → Except ExecutionFault Solution)
  /-- The solutions multiplied by a function. -/
  | flatMap (input : Plan) (f : Solution → Except ExecutionFault (List Solution))
  /-- The groups by some variables. -/
  | groupBy (input : Plan) (vs : List Variable)

namespace Plan

/-- Whether an expression is true for a solution. -/
def accepts (ambient : Ambient) (predicate : Compiled) (strict : Bool) (s : Solution) :
    Except ExecutionFault Bool :=
  match predicate.evaluateTerm ambient s with
  | .ok t => .ok ((t.bind Term.effectiveTruth?).getD false)
  | .error fault => if strict then .error (.evaluation fault) else .ok false

/-- A solution with a variable bound to the value of an expression. -/
def bindValue (ambient : Ambient) (v : Variable) (e : Compiled) (strict : Bool) (s : Solution) :
    Except ExecutionFault Solution :=
  if s.has v then .error (.alreadyBound v)
  else match e.evaluateTerm ambient s with
    | .ok (some t) => .ok (s.bind v t)
    | .ok none => .ok s
    | .error fault => if strict then .error (.evaluation fault) else .ok s

/-- The operator of a plan. -/
def operator (ambient : Ambient) : Plan → Operator
  | values rows => .values rows
  | union left right => .union (left.operator ambient) (right.operator ambient)
  | filter input predicate strict =>
    .filter (input.operator ambient) (accepts ambient predicate strict)
  | extend input v e strict => .map (input.operator ambient) (bindValue ambient v e strict)
  | map input f => .map (input.operator ambient) f
  | flatMap input f => .flatMap (input.operator ambient) f
  | groupBy input vs => .groupBy (input.operator ambient) vs

/-- All solutions of a plan, pulled in batches. -/
def solutions (ambient : Ambient) (size : Nat) (p : Plan) : Except ExecutionFault (List Solution) :=
  (p.operator ambient).collect size

/-- All solutions of a plan, pulled in batches for which a memory has to have room. -/
def solutionsIn (memory : Memory) (ambient : Ambient) (size : Nat) (p : Plan) :
    Option (Except ExecutionFault (List Solution)) :=
  (p.operator ambient).collectIn memory size

end Plan

end SolutionAlgebra
