import SolutionAlgebra.Value

/-! # Aggregations

An aggregation makes one term of the list of terms that a group collected for a variable. Sum and
average skip what is not a number, and the average divides by the number of numbers. -/

namespace SolutionAlgebra

/-- An aggregation. -/
inductive Aggregation where
  /-- The number of terms. -/
  | count
  /-- The sum of the numbers. -/
  | sum
  /-- The average of the numbers. -/
  | average
  /-- The first of the least terms. -/
  | least
  /-- The first of the greatest terms. -/
  | greatest
  /-- The RDF texts of the terms with a separator between them. -/
  | concatenation
  /-- The first term. -/
  | sample
deriving DecidableEq, Repr

namespace Aggregation

/-- The name of an aggregation. -/
def name : Aggregation → String
  | count => "count"
  | sum => "sum"
  | average => "avg"
  | least => "min"
  | greatest => "max"
  | concatenation => "group_concat"
  | sample => "sample"

/-- All aggregations. -/
def all : List Aggregation := [count, sum, average, least, greatest, concatenation, sample]

/-- The aggregation with a name. -/
def named? (name : String) : Option Aggregation := all.find? fun a => a.name == name

/-- An aggregation is found by its name. -/
@[simp] theorem named?_name (a : Aggregation) : named? a.name = some a := by
  cases a <;> decide

/-- The numbers among some terms. -/
def numbers (terms : List Term) : List Literal :=
  (terms.filterMap Term.literal?).filter Literal.isNumeric

/-- The sum of literals, from the integer zero on. -/
def total (numbers : List Literal) : Outcome Literal :=
  numbers.foldlM (fun sum l => (Literal.apply .add sum l).mapError .arithmetic) (.integer 0)

/-- The first term of a list, an earlier one giving way to a later one only where the later one
stands in a given order to it. -/
def extreme? (preferred : Ordering) : List Term → Option Term
  | [] => none
  | t :: ts => some (ts.foldl (fun best u => if u.order best = preferred then u else best) t)

/-- A term that a group must have. -/
def required (a : Aggregation) (t : Option Term) : Outcome Term :=
  match t with
  | some t => .ok t
  | none => .error (.emptyGroup a.name)

/-- The average of literals; of none it is the integer zero. -/
def mean (numbers : List Literal) : Outcome Literal := do
  let sum ← total numbers
  if numbers.isEmpty then return .integer 0
  else (Literal.apply .divide sum (.integer numbers.length)).mapError .arithmetic

/-- The term that an aggregation makes of a list of terms. -/
def apply (a : Aggregation) (separator : String) (terms : List Term) : Outcome Term :=
  match a with
  | count => .ok (.literal (.integer terms.length))
  | sum => (total (numbers terms)).map .literal
  | average => (mean (numbers terms)).map .literal
  | least => a.required (extreme? .lt terms)
  | greatest => a.required (extreme? .gt terms)
  | concatenation =>
    .ok (.literal (.plain (String.intercalate separator (terms.map Term.rdf))))
  | sample => a.required terms.head?

end Aggregation

/-- The separator of concatenations that name none. -/
def defaultSeparator : String := " "

end SolutionAlgebra
