import SolutionAlgebra.Pattern.Node

/-! # Compiled expressions

A regular expression is compiled to numbered states. A state consumes a character, tests a
condition, marks a place for a group, or branches to other states in order of preference. -/

namespace SolutionAlgebra.Pattern

/-- A state of a compiled expression. -/
inductive State where
  /-- Nothing goes on from here. -/
  | fail
  /-- The expression has matched. -/
  | accept
  /-- Consumes a character of a set. -/
  | consume (points : Text.CodePoints) (next : Nat)
  /-- Tests a condition on the place. -/
  | test (condition : Look) (next : Nat)
  /-- Marks the place. -/
  | mark (slot next : Nat)
  /-- Goes on in two ways, the preferred one first. -/
  | branch (preferred other : Nat)

/-- The states of a compiled expression. -/
abbrev Program : Type := Array State

namespace Program

/-- Adds a state. -/
def add (program : Program) (state : State) : Nat × Program := (program.size, program.push state)

/-- A branch that goes on or stops, as it is greedy. -/
def fork (greedy : Bool) (again next : Nat) : State :=
  if greedy then .branch again next else .branch next again

/-- A step of compilation: from the state to go on with, to the state to start from. -/
abbrev Emit : Type := Nat → Program → Nat × Program

/-- A number of copies, one after the other. -/
def copies (body : Emit) : Nat → Emit
  | 0, next, program => (next, program)
  | n + 1, next, program =>
    let (entry, program) := body next program
    copies body n entry program

/-- At most a number of copies. -/
def optionalCopies (body : Emit) (greedy : Bool) (exit : Nat) : Nat → Program → Nat × Program
  | 0, program => (exit, program)
  | n + 1, program =>
    let (next, program) := optionalCopies body greedy exit n program
    let (entry, program) := body next program
    program.add (fork greedy entry exit)

/-- One copy or more: the state to start from, and the program. -/
def loop (body : Emit) (greedy : Bool) : Emit := fun next program =>
  let (again, program) := program.add .fail
  let (entry, program) := body again program
  (entry, program.setIfInBounds again (fork greedy entry next))

/-- Any number of copies. Where a copy can be empty, one copy or more are optional. -/
def star (body : Emit) (bodyCanBeEmpty greedy : Bool) : Emit := fun next program =>
  if bodyCanBeEmpty then
    let (entry, program) := loop body greedy next program
    program.add (fork greedy entry next)
  else
    let (again, program) := program.add .fail
    let (entry, program) := body again program
    (again, program.setIfInBounds again (fork greedy entry next))

/-- An expression, with the state to go on with. -/
def emit : Node → Emit
  | .empty, next, program => (next, program)
  | .oneOf points, next, program => program.add (.consume points next)
  | .look condition, next, program => program.add (.test condition next)
  | .seq first second, next, program =>
    let (middle, program) := emit second next program
    emit first middle program
  | .either preferred other, next, program =>
    let (left, program) := emit preferred next program
    let (right, program) := emit other next program
    program.add (.branch left right)
  | .group index body, next, program =>
    let (close, program) := program.add (.mark (2 * index + 1) next)
    let (entry, program) := emit body close program
    program.add (.mark (2 * index) entry)
  | .repeated body least most greedy, next, program =>
    match most with
    | some most =>
      let (middle, program) := optionalCopies (emit body) greedy next (most - least) program
      copies (emit body) least middle program
    | none =>
      if least == 0 then star (emit body) body.canBeEmpty greedy next program
      else
        let (middle, program) := loop (emit body) greedy next program
        copies (emit body) (least - 1) middle program

end Program

/-- A compiled expression. -/
structure Machine where
  /-- The states. -/
  program : Program
  /-- The state to start from. -/
  entry : Nat
  /-- The numbers of the groups that have names. -/
  names : List (String × Nat)

/-- The compiled form of an expression, as the group with number zero. -/
def Machine.ofNode (node : Node) (names : List (String × Nat)) : Machine :=
  let (entry, program) := Program.emit (.group 0 node) 0 #[.accept]
  ⟨program, entry, names⟩

end SolutionAlgebra.Pattern
