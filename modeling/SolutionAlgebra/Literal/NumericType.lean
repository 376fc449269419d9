import SolutionAlgebra.Decimal.Notation
import SolutionAlgebra.Text.Basic
import SolutionAlgebra.Vocabulary

/-! # Numeric types

The four classes of numbers, in the order of promotion: whole numbers, decimal fractions, single-
and double-precision numbers. All of them carry a floating-point value; the class decides which
texts are read and how a computed value is written. -/

namespace SolutionAlgebra

/-- A class of numbers. -/
inductive NumericType where
  /-- Whole numbers. -/
  | integer
  /-- Decimal fractions. -/
  | decimal
  /-- Single-precision numbers. -/
  | float
  /-- Double-precision numbers. -/
  | double
deriving DecidableEq, Repr

namespace NumericType

/-- The place of a class in the order of promotion. -/
def rank : NumericType → Nat
  | integer => 0
  | decimal => 1
  | float => 2
  | double => 3

/-- The wider of two classes. -/
def widest (a b : NumericType) : NumericType := if a.rank ≤ b.rank then b else a

/-- The class of the values of a datatype. -/
def ofDatatype? (datatype : Iri) : Option NumericType :=
  if datatype = Vocabulary.integer then some integer
  else if datatype = Vocabulary.decimal then some decimal
  else if datatype = Vocabulary.float then some float
  else if datatype = Vocabulary.double then some double
  else if datatype ∈ Vocabulary.derivedIntegers then some integer
  else none

/-- The datatype of the computed values of a class. -/
def datatype : NumericType → Iri
  | integer => Vocabulary.integer
  | decimal => Vocabulary.decimal
  | float => Vocabulary.float
  | double => Vocabulary.double

/-- A numeric type is found by its datatype. -/
@[simp] theorem ofDatatype?_datatype (type : NumericType) :
    ofDatatype? type.datatype = some type := by
  cases type <;> simp [ofDatatype?, datatype, Vocabulary.integer, Vocabulary.decimal,
    Vocabulary.float, Vocabulary.double]

/-- Values at least this large are not written as whole numbers first. -/
def wholeLimit : Float := 9.0e15

/-- A finite value as its class writes it: whole numbers without a point, and in particular zero
without a sign; decimal fractions with one; the others scientifically. -/
def finiteChars (type : NumericType) (value : Float) : List Char :=
  match type with
  | integer =>
    if Decimal.isWhole value && value.abs < wholeLimit then
      let whole : Int := (Decimal.magnitude value).whole
      Decimal.intChars (if Decimal.isNegative value then -whole else whole)
    else Decimal.positional value
  | decimal =>
    let digits := Decimal.positional value
    if digits.contains '.' then digits else digits ++ ['.', '0']
  | float => Decimal.scientific value
  | double => Decimal.scientific value

/-- A value as its class writes it. -/
def format (type : NumericType) (value : Float) : String :=
  if value.isNaN then "NaN"
  else if value.isInf then (if 0 < value then "INF" else "-INF")
  else String.ofList (type.finiteChars value)

/-- A text without one sign at its start. -/
def dropSign : List Char → List Char
  | '+' :: cs => cs
  | '-' :: cs => cs
  | cs => cs

/-- The text after a sign is the same for both readers. -/
theorem dropSign_eq (cs : List Char) : dropSign cs = (Decimal.readSign cs).2 := by
  unfold dropSign
  split
  · rfl
  · rfl
  · next hplus hminus =>
    unfold Decimal.readSign
    split
    · exact absurd rfl (hminus _)
    · exact absurd rfl (hplus _)
    · rfl

/-- Whether the body of a decimal fraction has a digit, and else nothing but one point. -/
def isDecimalBody (cs : List Char) : Bool :=
  cs.any Decimal.isDigit && cs.all (fun c => Decimal.isDigit c || c == '.') && cs.count '.' ≤ 1

/-- Whether a text has a digit and nothing but the characters of a scientific number. -/
def isScientificText (cs : List Char) : Bool :=
  cs.any Decimal.isDigit &&
    cs.all fun c => Decimal.isDigit c || c == '.' || c == 'e' || c == 'E' || c == '+' || c == '-'

/-- The value of a text without blanks around it. -/
def readTrimmed? (type : NumericType) (cs : List Char) : Option Float :=
  match type with
  | integer =>
    let digits := dropSign cs
    if digits.isEmpty || !digits.all Decimal.isDigit then none else Decimal.read? cs
  | decimal => if isDecimalBody (dropSign cs) then Decimal.read? cs else none
  | _ =>
    if cs = ['I', 'N', 'F'] ∨ cs = ['+', 'I', 'N', 'F'] then some Decimal.infinity
    else if cs = ['-', 'I', 'N', 'F'] then some (-Decimal.infinity)
    else if cs = ['N', 'a', 'N'] then some Decimal.undefined
    else if isScientificText cs then Decimal.read? cs
    else none

/-- The value of a text. -/
def read? (type : NumericType) (text : String) : Option Float :=
  type.readTrimmed? (Text.trim text.toList)

end NumericType

end SolutionAlgebra
