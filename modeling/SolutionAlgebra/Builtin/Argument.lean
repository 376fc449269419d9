import SolutionAlgebra.Builtin.Basic
import SolutionAlgebra.Digest
import SolutionAlgebra.Octets
import SolutionAlgebra.Value

/-! # Arguments and single values

How an operation takes its arguments, and what operations compute from a single number, moment or
text, or from a number that is drawn. -/

namespace SolutionAlgebra

/-! ## Arguments

The arguments of an operation are the values of its operands, `none` where an operand has no value.
An operation looks at them one by one and wants each of a certain kind. -/

/-- The arguments of an operation. -/
abbrev Arguments : Type := List (Option Value)

namespace Arguments

/-- The argument at a position as a single term. -/
def term (function : String) (args : Arguments) (i : Nat) : Outcome Term :=
  match args[i]? with
  | some (some (.term t)) => .ok t
  | some (some (.terms _)) => .error (.mismatch function .term "a term list")
  | some (some (.solution _)) => .error (.mismatch function .term "bindings")
  | _ => .error (.unbound function)

/-- A term as a literal. -/
def asLiteral (function : String) : Term → Outcome Literal
  | .literal l => .ok l
  | other => .error (.mismatch function .literal other.rdf)

/-- The argument at a position as a literal. -/
def literal (function : String) (args : Arguments) (i : Nat) : Outcome Literal := do
  asLiteral function (← args.term function i)

/-- The argument at a position as a string. -/
def string (function : String) (args : Arguments) (i : Nat) : Outcome Literal := do
  let l ← args.literal function i
  if l.isString then return l else throw (.mismatch function .string l.rdf)

/-- The argument at a position as a number. -/
def number (function : String) (args : Arguments) (i : Nat) : Outcome (Float × NumericType) := do
  let l ← args.literal function i
  match l.number? with
  | some number => return number
  | none => throw (.mismatch function .number l.rdf)

/-- The argument at a position as a point in time. -/
def moment (function : String) (args : Arguments) (i : Nat) : Outcome Calendar.Moment := do
  let l ← args.literal function i
  match l.moment? with
  | some moment => return moment
  | none => throw (.mismatch function .moment l.rdf)

/-- The truth value that the argument at a position is, if it is one. -/
def truth? (args : Arguments) (i : Nat) : Option Bool :=
  match args[i]? with
  | some (some (.term (.literal l))) => l.truth?
  | _ => none

end Arguments

/-! ## Numbers, moments and digests

What the operations compute that take a single number, moment or text. -/

/-- A number without its sign, or rounded. -/
def Rounding.apply : Rounding → Float → Float
  | abs, x => x.abs
  | round, x => Decimal.floor (x + 0.5)
  | ceil, x => Decimal.ceil x
  | floor, x => Decimal.floor x

/-- The number that a moment shows for a part of it. -/
def MomentPart.of (m : Calendar.Moment) : MomentPart → Int
  | year => m.date.year
  | month => m.date.month
  | day => m.date.day
  | hours => m.hour
  | minutes => m.minute

namespace Calendar.Moment

/-- The seconds that a moment shows, with their fraction; a leap second counts on past sixty. -/
def secondsNumber (m : Moment) : Float :=
  Float.ofNat m.second + Float.ofNat m.nanos / 1000000000.0

/-- The offset of a moment in hours, of which whole minutes count. It is a whole number of hours or
a decimal fraction. -/
def offsetHours (m : Moment) : Literal :=
  let hours := Decimal.ofInt (m.offset.tdiv 60) / 60.0
  .numeric hours (if Decimal.isWhole hours then .integer else .decimal)

end Calendar.Moment

/-- The digest of octets. -/
def DigestAlgorithm.digest : DigestAlgorithm → List UInt8 → List UInt8
  | md5 => Digest.Md5.digest
  | sha1 => Digest.Sha1.digest
  | sha256 => Digest.Sha256.sha256
  | sha384 => Digest.Sha512.sha384
  | sha512 => Digest.Sha512.sha512

/-! ## Random identifiers

A drawn number makes an identifier of thirty-two hexadecimal digits, the thirteenth of which is `4`
and the seventeenth one of `8`, `9`, `a` and `b`, or a number from zero to below one. -/

namespace Unique

/-- The last `count` hexadecimal digits of a number. -/
def hexDigits (count n : Nat) : List Char :=
  (List.range count).map fun i => Octets.hexDigit (n / Nat.pow 16 (count - 1 - i) % 16)

/-- The identifier of a drawn number. -/
def identifier (drawn : Nat) : List Char :=
  hexDigits 8 drawn ++ '-' :: hexDigits 4 (drawn / Nat.pow 16 8) ++ '-' :: '4' ::
    hexDigits 3 (drawn / Nat.pow 16 12) ++ '-' :: Octets.hexDigit (8 + drawn / Nat.pow 16 15 % 4) ::
    hexDigits 3 (drawn / Nat.pow 16 16) ++ '-' :: hexDigits 12 (drawn / Nat.pow 16 19)

/-- The number of a drawn one that lies from zero to below one. -/
def fraction (drawn : Nat) : Float := Float.ofNat (drawn % Nat.pow 2 53) / 9007199254740992.0

end Unique

end SolutionAlgebra
