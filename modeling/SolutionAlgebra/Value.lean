import SolutionAlgebra.Literal.Operations
import SolutionAlgebra.Solution

/-! # Values and faults of evaluation

An expression has a term for its value, or a list of terms, or a whole solution, or no value at
all; or its evaluation ends with a fault. -/

namespace SolutionAlgebra

/-- The value of an expression. -/
inductive Value where
  /-- A single term. -/
  | term (t : Term)
  /-- A list of terms. -/
  | terms (ts : List Term)
  /-- The solution itself, which is what an aggregate gives outside a group. -/
  | solution (s : Solution)
deriving DecidableEq

/-- The term that a value is. -/
def Value.term? : Value → Option Term
  | term t => some t
  | _ => none

/-- What an operation wants of an argument. -/
inductive Wanted where
  /-- Any single term. -/
  | term
  /-- A literal. -/
  | literal
  /-- A string. -/
  | string
  /-- A number. -/
  | number
  /-- A point in time. -/
  | moment
  /-- An IRI or literal. -/
  | iriOrLiteral
  /-- The IRI of a datatype. -/
  | datatype
  /-- A term with an effective boolean value. -/
  | truth
deriving DecidableEq, Repr

/-- What is wanted, in words. -/
def Wanted.text : Wanted → String
  | term => "a term"
  | literal => "a literal"
  | string => "a string literal"
  | number => "a numeric literal"
  | moment => "a date literal"
  | iriOrLiteral => "an IRI or literal"
  | datatype => "a datatype IRI"
  | truth => "a value with a boolean meaning"

/-- How many arguments an operation takes. -/
inductive Count where
  /-- One number of arguments only. -/
  | exactly (n : Nat)
  /-- Any number from one to another. -/
  | between (least most : Nat)
  /-- Any number from one on. -/
  | atLeast (n : Nat)
deriving DecidableEq, Repr

namespace Count

/-- Whether a number of arguments is right. -/
def admits : Count → Nat → Bool
  | exactly n, found => found == n
  | between least most, found => least ≤ found && found ≤ most
  | atLeast n, found => n ≤ found

/-- The right numbers of arguments, in words. -/
def text : Count → String
  | exactly n => toString n
  | between least most => toString least ++ " to " ++ toString most
  | atLeast n => "at least " ++ toString n

end Count

/-- Why an operation refuses an argument of the right kind. -/
inductive Refusal where
  /-- A position before the first character. -/
  | startBelowOne (start : Float)
  /-- A flag of regular expressions that does not exist. -/
  | unknownFlag (flag : Char)
  /-- A text that is no regular expression. -/
  | invalidPattern
deriving DecidableEq

/-- A number in the notation of messages. -/
def Refusal.numberText (x : Float) : String :=
  if x.isNaN then "NaN"
  else if x.isInf then (if 0 < x then "inf" else "-inf")
  else String.ofList (Decimal.positional x)

/-- The text of a refusal. -/
def Refusal.message : Refusal → String
  | startBelowOne start => "starting index " ++ numberText start ++ " is below 1"
  | unknownFlag flag => "unknown regex flag '" ++ String.singleton flag ++ "'"
  | invalidPattern => "invalid pattern"

/-- Why an evaluation has no result. -/
inductive EvaluationFault where
  /-- An argument of a wrong kind. -/
  | mismatch (function : String) (wanted : Wanted) (found : String)
  /-- A wrong number of arguments. -/
  | arity (function : String) (wanted : Count) (found : Nat)
  /-- An argument of the right kind that cannot be used. -/
  | refused (function : String) (refusal : Refusal)
  /-- An argument without a value. -/
  | unbound (function : String)
  /-- A group without the value that an aggregation needs. -/
  | emptyGroup (function : String)
  /-- Literals that an arithmetic operator does not apply to. -/
  | arithmetic (fault : ArithmeticFault)
  /-- A text that is no IRI or literal. -/
  | value (fault : ValueFault)
deriving DecidableEq

/-- The text of a fault. -/
def EvaluationFault.message : EvaluationFault → String
  | mismatch function wanted found =>
    function ++ ": expected " ++ wanted.text ++ ", got " ++ found
  | arity function wanted found =>
    function ++ ": expected " ++ wanted.text ++ " argument(s), got " ++ toString found
  | refused function refusal => function ++ ": " ++ refusal.message
  | unbound function => function ++ ": unbound operand"
  | emptyGroup function => function ++ ": empty group"
  | arithmetic fault => fault.message
  | value fault => fault.message

/-- What a fallible computation on values gives. -/
abbrev Outcome (α : Type) : Type := Except EvaluationFault α

end SolutionAlgebra
