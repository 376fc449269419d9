import SolutionAlgebra.Literal.Basic
import SolutionAlgebra.Text.Basic
import SolutionAlgebra.Text.Case

/-! # Operations on literals

Equality and order, arithmetic, and what is done with strings. -/

namespace SolutionAlgebra

/-! ## Equality and order

Literals of one kind are compared by value: numbers without regard to their classes, moments
without regard to their offsets, octets without regard to their notation, strings by text, language
and datatype. Literals of two kinds are compared by their RDF texts. -/

namespace Literal

/-- The order of numbers. There is one undefined number, which comes after all others: its sign,
which no text shows, is not kept. -/
def numberOrder (a b : Float) : Ordering :=
  if a < b then .lt
  else if b < a then .gt
  else if a == b then .eq
  else compare a.isNaN b.isNaN

/-- The order of octets: by the first that differs, then by length. -/
def octetOrder : List UInt8 → List UInt8 → Ordering
  | [], [] => .eq
  | [], _ :: _ => .lt
  | _ :: _, [] => .gt
  | a :: as, b :: bs => (compare a.toNat b.toNat).then (octetOrder as bs)

/-- The order of optional texts; none comes first. -/
def optionOrder : Option String → Option String → Ordering
  | none, none => .eq
  | none, some _ => .lt
  | some _, none => .gt
  | some a, some b => compare a b

/-- Whether two literals are equal in value. -/
def equal (a b : Literal) : Bool :=
  match a.kind, b.kind with
  | .numeric x _, .numeric y _ => x == y
  | .string, .string =>
    a.lexical == b.lexical && a.language == b.language &&
      a.effectiveDatatype = b.effectiveDatatype
  | .boolean x, .boolean y => x == y
  | .date x, .date y => x.sameTime y
  | .octets x _, .octets y _ => x == y
  | _, _ => a.rdf == b.rdf

/-- The order of two literals. -/
def order (a b : Literal) : Ordering :=
  match a.kind, b.kind with
  | .numeric x _, .numeric y _ => numberOrder x y
  | .string, .string =>
    ((compare a.lexical b.lexical).then (optionOrder a.language b.language)).then
      (compare a.effectiveDatatype.text b.effectiveDatatype.text)
  | .boolean x, .boolean y => compare x y
  | .date x, .date y => x.order y
  | .octets x _, .octets y _ => octetOrder x y
  | _, _ => compare a.rdf b.rdf

end Literal

/-! ## Arithmetic

The kind of the left operand decides what an operator does. Numbers compute with numbers and with
truth values, which count as one and zero. Truth values combine to truth values. Moments compute on
milliseconds with moments and numbers, and are shifted by a second or none by truth values. Strings
can only be joined. Everything else is a fault, as is the division of a whole number or decimal
fraction by zero. -/

/-- An arithmetic operator. -/
inductive ArithmeticOperator where
  /-- The sum. -/
  | add
  /-- The difference. -/
  | subtract
  /-- The product. -/
  | multiply
  /-- The quotient. -/
  | divide
deriving DecidableEq, Repr

namespace ArithmeticOperator

/-- How an operator is written. -/
def symbol : ArithmeticOperator → String
  | add => "+"
  | subtract => "-"
  | multiply => "*"
  | divide => "/"

/-- An operator on floating-point numbers. -/
def compute (op : ArithmeticOperator) (x y : Float) : Float :=
  match op with
  | add => x + y
  | subtract => x - y
  | multiply => x * y
  | divide => x / y

/-- The class of the result of an operator; a quotient of whole numbers is a decimal fraction. -/
def resultType (op : ArithmeticOperator) (a b : NumericType) : NumericType :=
  match op, NumericType.widest a b with
  | divide, .integer => .decimal
  | _, widest => widest

end ArithmeticOperator

/-- Two literals that an operator does not apply to, by their RDF texts. -/
structure ArithmeticFault where
  /-- The left operand. -/
  left : String
  /-- The operator. -/
  operator : ArithmeticOperator
  /-- The right operand. -/
  right : String
deriving DecidableEq, Repr

/-- The text of a fault. -/
def ArithmeticFault.message (fault : ArithmeticFault) : String :=
  "Cannot compute " ++ fault.left ++ " " ++ fault.operator.symbol ++ " " ++ fault.right

namespace Literal

/-- A truth value as a number. -/
def truthNumber (value : Bool) : Float := if value then 1 else 0

/-- The operand that a literal is for a number on its left. -/
def operand? (l : Literal) : Option (Float × NumericType) :=
  match l.kind with
  | .numeric value type => some (value, type)
  | .boolean value => some (truthNumber value, .integer)
  | _ => none

/-- An operator on two numbers. Whole numbers and decimal fractions have no quotient by zero. -/
def computeNumbers? (op : ArithmeticOperator) (x : Float × NumericType) (y : Float × NumericType) :
    Option Literal :=
  let type := op.resultType x.2 y.2
  if op = .divide ∧ y.1 == 0 ∧ type.rank ≤ NumericType.decimal.rank then none
  else some (numeric (op.compute x.1 y.1) type)

/-- An operator on a truth value and another operand: sums are conjunctions, differences are
disjunctions, and products and quotients tell whether the result is one. -/
def computeTruth? (op : ArithmeticOperator) (x : Bool) (l : Literal) : Option Literal :=
  let operand? : Option (Bool × Float) := match l.kind with
    | .boolean value => some (value, truthNumber value)
    | .numeric value _ => some (value == 1, value)
    | _ => none
  operand?.map fun (truth, number) => boolean <| match op with
    | .add => x && truth
    | .subtract => x || truth
    | .multiply => truthNumber x * number == 1
    | .divide => truthNumber x / number == 1

/-- An operator on a moment and another operand, computed in milliseconds. -/
def computeMoment? (op : ArithmeticOperator) (m : Calendar.Moment) (l : Literal) :
    Option Literal := do
  let millis : Float ← match l.kind with
    | .date other => some (Decimal.ofInt other.millis)
    | .numeric value _ => some value
    | .boolean value =>
      if op = .add ∨ op = .subtract then some (if value then 1000 else 0) else none
    | _ => none
  let result ← Decimal.nearestInt? (op.compute (Decimal.ofInt m.millis) millis)
  let moment ← Calendar.Moment.ofMillis? result m.offset
  some (dateTime moment)

/-- The value of an operator on two literals, if it applies to them. -/
def compute? (op : ArithmeticOperator) (a b : Literal) : Option Literal :=
  match a.kind with
  | .numeric value type => b.operand?.bind (computeNumbers? op (value, type))
  | .string => if op = .add ∧ b.isString then some (plain (a.lexical ++ b.lexical)) else none
  | .boolean value => computeTruth? op value b
  | .date moment => computeMoment? op moment b
  | .octets _ _ => none

/-- An operator on two literals. -/
def apply (op : ArithmeticOperator) (a b : Literal) : Except ArithmeticFault Literal :=
  match compute? op a b with
  | some l => .ok l
  | none => .error ⟨a.rdf, op, b.rdf⟩

/-! ## Strings

Parts of strings, strings joined, and ranges of languages. A part of a string keeps its language
and datatype; so does a joined string if all its pieces have the same. -/

/-- The characters of a literal. -/
def chars (l : Literal) : List Char := l.lexical.toList

/-- A string of the same language and datatype with other characters. -/
def withChars (l : Literal) (cs : List Char) : Literal := l.withLexical (String.ofList cs)

/-- The characters of a string from a position on, of which the first is one, and at most a given
number of them. -/
def substring (l : Literal) (start : Nat) (length : Option Nat) : Literal :=
  let rest := l.chars.drop (start - 1)
  l.withChars (match length with
    | some length => rest.take length
    | none => rest)

/-- What stands in a string before a text; nothing where the text does not occur. -/
def before (l : Literal) (token : List Char) : Literal :=
  match Text.splitAt? token l.chars with
  | some (part, _) => l.withChars part
  | none => plain ""

/-- What stands in a string after a text; nothing where the text does not occur. -/
def after (l : Literal) (token : List Char) : Literal :=
  match Text.splitAt? token l.chars with
  | some (_, part) => l.withChars part
  | none => plain ""

/-- Whether two strings have the same language and datatype. -/
def sameSort (a b : Literal) : Bool :=
  a.language == b.language && decide (a.effectiveDatatype = b.effectiveDatatype)

/-- Strings joined. -/
def join (parts : List Literal) : Literal :=
  let joined := parts.flatMap chars
  match parts with
  | [] => plain ""
  | first :: rest =>
    if rest.all (sameSort first) then first.withChars joined else plain (String.ofList joined)

/-- Whether a language, in lower case, falls in a range of languages: in the range `*` if it is not
empty, else if it is the range, or the range followed by a hyphen and more. -/
def inLanguageRange (range tag : List Char) : Bool :=
  if range = ['*'] then !tag.isEmpty
  else match Text.dropStart? range tag with
    | some [] => true
    | some (c :: _) => c == '-'
    | none => false

end Literal

end SolutionAlgebra
