import SolutionAlgebra.Decimal.Binary64

/-! # Decimal notation

How floating-point numbers are read from decimal notation and written in it. -/

namespace SolutionAlgebra.Decimal

/-! ## Reading decimal numbers

A decimal number is an optional sign, digits with at most one point among them and at least one
digit in all, and an optional exponent: `e` or `E`, an optional sign and at least one digit. It is
read as the nearest floating-point number, halves going to the even neighbour. -/

/-- A decimal digit of ASCII. -/
def isDigit (c : Char) : Bool := '0' ≤ c && c ≤ '9'

/-- The number that a text of decimal digits stands for. -/
def digitsValue (cs : List Char) : Nat := cs.foldl (fun n c => 10 * n + (c.toNat - 48)) 0

/-- The digits at the start of a text, and the rest. -/
def spanDigits (cs : List Char) : List Char × List Char :=
  (cs.takeWhile isDigit, cs.dropWhile isDigit)

/-- Whether a text starts with a minus sign, and the text after its sign if it has one. -/
def readSign : List Char → Bool × List Char
  | '-' :: cs => (true, cs)
  | '+' :: cs => (false, cs)
  | cs => (false, cs)

/-- A text of at least one digit and nothing else, as a number. -/
def readNat? (cs : List Char) : Option Nat :=
  if cs ≠ [] ∧ cs.all isDigit then some (digitsValue cs) else none

/-- An optional sign and at least one digit, as an integer. -/
def readInt? (cs : List Char) : Option Int :=
  let (negative, digits) := readSign cs
  (readNat? digits).map fun n => if negative then -(n : Int) else n

/-- The exponent that a text states: nothing states zero. -/
def readExponent? : List Char → Option Int
  | [] => some 0
  | c :: cs => if c == 'e' || c == 'E' then readInt? cs else none

/-- The number `digits * 10 ^ exponent`, rounded to the nearest floating-point number. -/
def nearest (digits : Nat) (exponent : Int) : Float :=
  Float.ofScientific digits (exponent < 0) exponent.natAbs

/-- A decimal number without its sign. -/
def readUnsigned? (cs : List Char) : Option Float :=
  let (whole, rest) := spanDigits cs
  let (fraction, rest) := match rest with
    | '.' :: rest => spanDigits rest
    | rest => ([], rest)
  if whole.isEmpty && fraction.isEmpty then none
  else (readExponent? rest).map fun exponent =>
    nearest (digitsValue (whole ++ fraction)) (exponent - fraction.length)

/-- The number that is not a number. -/
def undefined : Float := 0.0 / 0.0

/-- The greatest element of the floating-point numbers. -/
def infinity : Float := 1.0 / 0.0

/-- A decimal number as the nearest floating-point number. -/
def read? (cs : List Char) : Option Float :=
  let (negative, body) := readSign cs
  (readUnsigned? body).map (withSign negative)

/-- A decimal number, or one of the words `inf`, `infinity` and `nan` in any case after an optional
sign. -/
def readExtended? (cs : List Char) : Option Float :=
  let (negative, body) := readSign cs
  let word := body.map Char.toLower
  if word == "inf".toList || word == "infinity".toList then some (withSign negative infinity)
  else if word == "nan".toList then some undefined
  else read? cs

/-! ## Decimal notations

Two ways to write the shortest digits of a floating-point number: positionally, with as many zeros
as it takes and without a point where there is no fraction, and scientifically, with one digit
before the point and the exponent after `E`. Both show the sign of zero. They are defined for
finite numbers; the caller names the others. -/

/-- The decimal digits of a number. -/
def digitChars (n : Nat) : List Char := Nat.toDigits 10 n

/-- The digits of an integer with a minus sign where it is negative. -/
def intChars (n : Int) : List Char :=
  if n < 0 then '-' :: digitChars n.natAbs else digitChars n.natAbs

/-- Digits with a point before the last `places` of them, padded by zeros at the left. -/
def pointed (digits : List Char) (places : Nat) : List Char :=
  let padded := List.replicate (places + 1 - digits.length) '0' ++ digits
  let cut := padded.length - places
  padded.take cut ++ '.' :: padded.drop cut

/-- A decimal number written positionally. -/
def Scaled.positional (s : Scaled) : List Char :=
  if 0 ≤ s.exponent then digitChars s.digits ++ List.replicate s.exponent.toNat '0'
  else pointed (digitChars s.digits) (-s.exponent).toNat

/-- A decimal number written with one digit before the point and an exponent. -/
def Scaled.scientific (s : Scaled) : List Char :=
  let digits := digitChars s.digits
  let exponent := intChars (s.exponent + (digits.length - 1 : Nat))
  match digits with
  | [] => []
  | [digit] => digit :: 'E' :: exponent
  | digit :: rest => digit :: '.' :: rest ++ 'E' :: exponent

/-- A finite number in the notation `write`, zero being written as `zero`. -/
def notate (write : Scaled → List Char) (zero : List Char) (x : Float) : List Char :=
  let d := magnitude x
  let body := if d.mantissa == 0 then zero else write d.shortest
  if isNegative x then '-' :: body else body

/-- A finite number written positionally: `1000000000000000000000`, `0.25`, `-0`. -/
def positional (x : Float) : List Char := notate Scaled.positional ['0'] x

/-- A finite number written scientifically: `1E21`, `2.5E-1`, `-0E0`. -/
def scientific (x : Float) : List Char := notate Scaled.scientific ['0', 'E', '0'] x

end SolutionAlgebra.Decimal
