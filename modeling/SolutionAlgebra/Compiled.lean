import SolutionAlgebra.Aggregation
import SolutionAlgebra.Builtin.Apply
import SolutionAlgebra.Builtin.Basic
import SolutionAlgebra.Entries

/-! # Compiled expressions

A compiled expression is an expression whose names have been looked up: its leaves are terms and
variables, its inner nodes operations, aggregations and extension functions. It has a value for
every solution, or none, or ends with a fault. -/

namespace SolutionAlgebra

/-- An extension function: from the terms of its arguments, `none` for an argument without one, to
a term or the text of a fault. -/
abbrev Extension : Type := List (Option Term) → Except String Term

/-- What an aggregate collects. -/
inductive Collected where
  /-- The terms of a variable. -/
  | values (v : Variable)
  /-- The members of the group. -/
  | rows
deriving DecidableEq, Repr

/-- A compiled expression. -/
inductive Compiled where
  /-- A term. -/
  | constant (t : Term)
  /-- The term of a variable. -/
  | lookup (v : Variable)
  /-- A list of terms, in which a variable stands for its term and drops out where it is
  unbound. -/
  | list (ts : List Term)
  /-- An operation on arguments. The number tells its place in the expression from all others. -/
  | apply (b : Builtin) (place : Nat) (args : List Compiled)
  /-- A condition and the two expressions it decides between. -/
  | choose (condition yes no : Compiled)
  /-- The first of some expressions that has a term. -/
  | coalesce (args : List Compiled)
  /-- An aggregation over a group. -/
  | aggregate (a : Aggregation) (collected : Collected) (distinct : Bool) (separator : String)
  /-- A call of an extension function. -/
  | call (f : Extension) (args : List Compiled)

/-! ## Extension functions

A table of extension functions by name. A name between angle brackets is the name without them. -/

/-- Extension functions by name. -/
structure Functions where
  /-- The functions in the order in which their names first came. -/
  entries : List (String × Extension) := []

namespace Functions

/-- The table without functions. -/
def empty : Functions := {}

/-- A name without angle brackets around it. -/
def bareName (name : String) : String :=
  match name.toList with
  | '<' :: cs => if cs.getLast? == some '>' then String.ofList cs.dropLast else name
  | _ => name

/-- The table in which a name stands for a function. -/
def register (table : Functions) (name : String) (f : Extension) : Functions :=
  ⟨Entries.set (bareName name) f table.entries⟩

/-- The function of a name. -/
def find? (table : Functions) (name : String) : Option Extension :=
  table.entries.lookup (bareName name)

/-- The number of functions. -/
def size (table : Functions) : Nat := table.entries.length

/-- The names of the functions, in order. -/
def names (table : Functions) : List String :=
  (table.entries.map Prod.fst).mergeSort fun a b => decide (a ≤ b)

/-- A registered function answers to its name, with and without angle brackets. -/
@[simp] theorem find?_register (table : Functions) (name other : String) (f : Extension) :
    (table.register name f).find? other =
      if bareName other = bareName name then some f else table.find? other := by
  simp [register, find?]

end Functions

/-! ## Evaluation

A fault in an argument of an operation is a fault of the operation; a choice evaluates only the
expression that its condition decides for; a fault in an argument of `coalesce` passes the argument
over, and a fault in a call of an extension function leaves the call without a value. -/

/-- What an evaluation takes from outside. -/
structure Ambient where
  /-- The present moment. -/
  present : Calendar.Moment
  /-- The number drawn at a place of an expression for a solution. -/
  draw : Nat → Solution → Nat

/-- The surroundings in which a seed decides what is drawn: a digest of the seed, the place and the
solution. -/
def Ambient.seeded (present : Calendar.Moment) (seed : String) : Ambient where
  present := present
  draw place s :=
    let text := seed ++ " " ++ toString place ++ " " ++ s.text
    Digest.bigEndianValue (Digest.Sha256.sha256 (Octets.utf8 text.toList))

namespace Compiled

/-- Terms without those whose RDF text an earlier one has. -/
def distinctTerms (ts : List Term) : List Term :=
  ts.foldl (fun seen t => if seen.any fun u => u.rdf == t.rdf then seen else seen ++ [t]) []

/-- The value of an aggregate for a solution. -/
def aggregateValue (a : Aggregation) (collected : Collected) (distinct : Bool) (separator : String)
    (s : Solution) : Outcome Value :=
  match s.group with
  | none => .ok (.solution s)
  | some group =>
    match collected with
    | .rows => .ok (.term (.literal (.integer group.rows)))
    | .values v =>
      let ts := (group.get? v).getD []
      (a.apply separator (if distinct then distinctTerms ts else ts)).map .term

/-- A member of a list: itself, or the term of the variable it is. -/
def member (s : Solution) : Term → Option Term
  | .var v => s.get? v
  | t => some t

/-- A value that must be a term. -/
def expectTerm (value : Option Value) : Outcome Term := Arguments.term Builtin.choice.name [value] 0

mutual

/-- The value of a compiled expression for a solution. -/
def evaluate (ambient : Ambient) (s : Solution) : Compiled → Outcome (Option Value)
  | constant t => .ok (some (.term t))
  | lookup v => .ok ((s.get? v).map .term)
  | list ts => .ok (some (.terms (ts.filterMap (member s))))
  | apply b place args => do
    let values ← evaluateAll ambient s args
    return some (.term (← b.apply ambient.present (fun _ => ambient.draw place s) values))
  | choose condition yes no => do
    let decided ← Builtin.isTrue (← expectTerm (← evaluate ambient s condition))
    let value ← if decided then evaluate ambient s yes else evaluate ambient s no
    return some (.term (← expectTerm value))
  | coalesce args =>
    match firstTerm ambient s args with
    | some t => .ok (some (.term t))
    | none => .error (.unbound Builtin.coalesce.name)
  | aggregate a collected distinct separator =>
    (aggregateValue a collected distinct separator s).map some
  | call f args =>
    match evaluateAll ambient s args with
    | .error _ => .ok none
    | .ok values =>
      match f (values.map fun value => value.bind Value.term?) with
      | .ok t => .ok (some (.term t))
      | .error _ => .ok none

/-- The values of several compiled expressions; the first fault ends the evaluation. -/
def evaluateAll (ambient : Ambient) (s : Solution) : List Compiled → Outcome Arguments
  | [] => .ok []
  | e :: es => do
    let value ← evaluate ambient s e
    let values ← evaluateAll ambient s es
    return value :: values

/-- The first term that one of several compiled expressions has for its value. -/
def firstTerm (ambient : Ambient) (s : Solution) : List Compiled → Option Term
  | [] => none
  | e :: es =>
    match evaluate ambient s e with
    | .ok (some (.term t)) => some t
    | _ => firstTerm ambient s es

end

/-- The term that is the value of a compiled expression. -/
def evaluateTerm (ambient : Ambient) (s : Solution) (e : Compiled) : Outcome (Option Term) :=
  (e.evaluate ambient s).map fun value => value.bind Value.term?

end Compiled

end SolutionAlgebra
