import SolutionAlgebra.Text.CodePoints

/-! # Octets

Texts as octets: the UTF-8 form of a text, octets in hexadecimal and in base 64, and percent
encoding. -/

namespace SolutionAlgebra.Octets

/-! ## Texts as octets

The UTF-8 form of a text, character by character. -/

/-- The UTF-8 octets of a text. -/
def utf8 (cs : List Char) : List UInt8 := cs.flatMap String.utf8EncodeChar

/-- The octets of the empty text. -/
@[simp] theorem utf8_nil : utf8 [] = [] := rfl

/-- A text is encoded character by character. -/
@[simp] theorem utf8_cons (c : Char) (cs : List Char) :
    utf8 (c :: cs) = String.utf8EncodeChar c ++ utf8 cs := rfl

/-- A joined text has the octets of its parts, one after the other. -/
@[simp] theorem utf8_append (as bs : List Char) : utf8 (as ++ bs) = utf8 as ++ utf8 bs := by
  simp [utf8]

/-- The number of octets of a text in UTF-8. -/
def utf8Length (cs : List Char) : Nat := (utf8 cs).length

/-! ## Octets in hexadecimal

Two digits for each octet, the higher half first. Written digits are lower-case; both cases read. -/

/-- The lower-case hexadecimal digit of a number below 16. -/
def hexDigit (n : Nat) : Char := Char.ofNat (if n < 10 then 48 + n else 87 + n)

/-- The two digits of an octet. -/
def octetHex (octet : UInt8) : List Char :=
  [hexDigit (octet.toNat / 16), hexDigit (octet.toNat % 16)]

/-- Octets as hexadecimal digits. -/
def toHex (octets : List UInt8) : List Char := octets.flatMap octetHex

/-- The digits of no octets. -/
@[simp] theorem toHex_nil : toHex [] = [] := rfl

/-- Octets are written one after the other. -/
@[simp] theorem toHex_cons (octet : UInt8) (octets : List UInt8) :
    toHex (octet :: octets) = octetHex octet ++ toHex octets := rfl

/-- The octets that a text of pairs of hexadecimal digits stands for. -/
def ofHex? : List Char → Option (List UInt8)
  | [] => some []
  | [_] => none
  | high :: low :: cs => do
    let h ← Text.hexValue? high
    let l ← Text.hexValue? low
    let octets ← ofHex? cs
    pure ((16 * h + l).toUInt8 :: octets)

/-! ## Octets in base 64

The standard alphabet in its strict form: four characters for three octets, the last group padded
by `=` to four characters, and no bits set past the last octet. -/

/-- The value of a character of the standard alphabet. -/
def sextet? (c : Char) : Option Nat :=
  if 'A' ≤ c && c ≤ 'Z' then some (c.toNat - 65)
  else if 'a' ≤ c && c ≤ 'z' then some (c.toNat - 71)
  else if '0' ≤ c && c ≤ '9' then some (c.toNat + 4)
  else if c == '+' then some 62
  else if c == '/' then some 63
  else none

/-- The octets that a text in base 64 stands for. -/
def ofBase64? : List Char → Option (List UInt8)
  | [] => some []
  | [a, b, '=', '='] => do
    let n := 64 * (← sextet? a) + (← sextet? b)
    if n % 16 == 0 then some [(n / 16).toUInt8] else none
  | [a, b, c, '='] => do
    let n := 4096 * (← sextet? a) + 64 * (← sextet? b) + (← sextet? c)
    if n % 4 == 0 then some [(n / 1024).toUInt8, (n / 4 % 256).toUInt8] else none
  | a :: b :: c :: d :: cs => do
    let n := 262144 * (← sextet? a) + 4096 * (← sextet? b) + 64 * (← sextet? c) + (← sextet? d)
    let octets ← ofBase64? cs
    pure ((n / 65536).toUInt8 :: (n / 256 % 256).toUInt8 :: (n % 256).toUInt8 :: octets)
  | _ => none

/-! ## Percent encoding

A text with every octet of its UTF-8 form written as `%` and two upper-case hexadecimal digits,
except that the unreserved characters of a URI stay: ASCII letters and digits, `-`, `.`, `_` and
`~`. -/

/-- The unreserved characters of a URI. -/
def isUnreserved (c : Char) : Bool :=
  c.isAlphanum || c == '-' || c == '.' || c == '_' || c == '~'

/-- The upper-case hexadecimal digit of a number below 16. -/
def upperHexDigit (n : Nat) : Char := Char.ofNat (if n < 10 then 48 + n else 55 + n)

/-- An octet as `%` and two digits. -/
def percentOctet (octet : UInt8) : List Char :=
  ['%', upperHexDigit (octet.toNat / 16), upperHexDigit (octet.toNat % 16)]

/-- One character of an encoded text. -/
def percentChar (c : Char) : List Char :=
  if isUnreserved c then [c] else (String.utf8EncodeChar c).flatMap percentOctet

/-- A text in percent encoding. -/
def percentEncode (cs : List Char) : List Char := cs.flatMap percentChar

/-- The encoding of the empty text. -/
@[simp] theorem percentEncode_nil : percentEncode [] = [] := rfl

/-- A text is encoded character by character. -/
@[simp] theorem percentEncode_cons (c : Char) (cs : List Char) :
    percentEncode (c :: cs) = percentChar c ++ percentEncode cs := rfl

end SolutionAlgebra.Octets
