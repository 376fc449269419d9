import SolutionAlgebra.Decimal.Notation
import SolutionAlgebra.Octets

/-! # Tokens of JSON

A JSON text is a sequence of punctuation marks, strings, numbers and words. The texts of the tokens
in turn, without blanks between them, read back as the tokens. -/

namespace SolutionAlgebra.Json

/-- A token of a JSON text. -/
inductive Token where
  /-- The start of an array. -/
  | openArray
  /-- The end of an array. -/
  | closeArray
  /-- The start of an object. -/
  | openObject
  /-- The end of an object. -/
  | closeObject
  /-- The mark between a name and its value. -/
  | colon
  /-- The mark between items. -/
  | comma
  /-- A string. -/
  | string (text : String)
  /-- A number. -/
  | number (text : String)
  /-- One of the words `true`, `false` and `null`. -/
  | word (text : String)
deriving DecidableEq, Repr

/-! ## Writing -/

/-- A character as it stands in a string. -/
def escapeChar (c : Char) : List Char :=
  if c == '"' then ['\\', '"']
  else if c == '\\' then ['\\', '\\']
  else if c == '\n' then ['\\', 'n']
  else if c == '\r' then ['\\', 'r']
  else if c == '\t' then ['\\', 't']
  else if c == '\x08' then ['\\', 'b']
  else if c == '\x0c' then ['\\', 'f']
  else if c.toNat < 0x20 then
    ['\\', 'u', '0', '0', Octets.hexDigit (c.toNat / 16), Octets.hexDigit (c.toNat % 16)]
  else [c]

/-- A text between quotation marks. -/
def quote (text : String) : List Char := '"' :: text.toList.flatMap escapeChar ++ ['"']

/-- The text of a token. -/
def Token.chars : Token → List Char
  | openArray => ['[']
  | closeArray => [']']
  | openObject => ['\x7b']
  | closeObject => ['\x7d']
  | colon => [':']
  | comma => [',']
  | string text => quote text
  | number text => text.toList
  | word text => text.toList

/-! ## Reading -/

/-- Where a text is being read. -/
inductive Place where
  /-- Between tokens. -/
  | between
  /-- In a string, after the characters given last to first. -/
  | string (read : List Char)
  /-- After a backslash in a string. -/
  | escape (read : List Char)
  /-- In an escape of four hexadecimal digits: what they say so far and how many have yet to come.
  The number before is the first half of a pair, if there is one. -/
  | digits (read : List Char) (first : Option Nat) (value left : Nat)
  /-- After the first half of a pair, where a backslash must follow. -/
  | half (read : List Char) (first : Nat)
  /-- After the first half of a pair and a backslash. -/
  | halfEscape (read : List Char) (first : Nat)
  /-- In a number. -/
  | number (read : List Char)
  /-- In a word. -/
  | word (read : List Char)

/-- Whether a character may stand between tokens. -/
def isBlank (c : Char) : Bool := c == ' ' || c == '\n' || c == '\t' || c == '\r'

/-- Whether a character may stand in a number. -/
def isNumberChar (c : Char) : Bool :=
  Decimal.isDigit c || c == '-' || c == '+' || c == '.' || c == 'e' || c == 'E'

/-- The character of a simple escape. -/
def unescape? (c : Char) : Option Char :=
  match c with
  | '"' => some '"'
  | '\\' => some '\\'
  | '/' => some '/'
  | 'b' => some '\x08'
  | 'f' => some '\x0c'
  | 'n' => some '\n'
  | 'r' => some '\r'
  | 't' => some '\t'
  | _ => none

/-- Whether digits are the whole part of a number: a zero only where it is the one digit. -/
def isWholePart (digits : List Char) : Bool :=
  match digits with
  | [] => false
  | '0' :: rest => rest.isEmpty
  | _ => true

/-- Whether a text is empty, or an exponent with at least one digit. -/
def isExponentPart : List Char → Bool
  | [] => true
  | c :: cs => (c == 'e' || c == 'E') && (Decimal.readNat? (Decimal.readSign cs).2).isSome

/-- Whether a text is empty or a fraction with at least one digit, and an exponent or nothing. -/
def isFractionPart : List Char → Bool
  | '.' :: cs => !(Decimal.spanDigits cs).1.isEmpty && isExponentPart (Decimal.spanDigits cs).2
  | cs => isExponentPart cs

/-- Whether a text has the form of a number. -/
def isNumberText (cs : List Char) : Bool :=
  let body := match cs with
    | '-' :: cs => cs
    | cs => cs
  isWholePart (Decimal.spanDigits body).1 && isFractionPart (Decimal.spanDigits body).2

/-- The token of a number, unless its value is beyond all floating-point numbers. -/
def numberToken? (cs : List Char) : Option Token :=
  if isNumberText cs then
    match Decimal.read? cs with
    | some value => if value.isInf then none else some (.number (String.ofList cs))
    | none => none
  else none

/-- The token of a word. -/
def wordToken? (cs : List Char) : Option Token :=
  let text := String.ofList cs
  if text = "true" ∨ text = "false" ∨ text = "null" then some (.word text) else none

/-- What a character between tokens begins: a token that it makes alone, if any, and the place
after it. -/
def begin? (c : Char) : Option (Option Token × Place) :=
  if isBlank c then some (none, .between)
  else if c == '[' then some (some .openArray, .between)
  else if c == ']' then some (some .closeArray, .between)
  else if c == '\x7b' then some (some .openObject, .between)
  else if c == '\x7d' then some (some .closeObject, .between)
  else if c == ':' then some (some .colon, .between)
  else if c == ',' then some (some .comma, .between)
  else if c == '"' then some (none, .string [])
  else if isNumberChar c then some (none, .number [c])
  else if c.isAlpha then some (none, .word [c])
  else none

/-- The place after the four digits of an escape. A number from `d800` to `dfff` is half of a pair,
and both halves must be there. -/
def afterDigits? (read : List Char) (first : Option Nat) (value : Nat) : Option Place :=
  let isFirst := 0xD800 ≤ value && value < 0xDC00
  let isSecond := 0xDC00 ≤ value && value < 0xE000
  match first with
  | some high =>
    if isSecond then
      some (.string (Char.ofNat (0x10000 + (high - 0xD800) * 0x400 + (value - 0xDC00)) :: read))
    else none
  | none =>
    if isFirst then some (.half read value)
    else if isSecond then none
    else some (.string (Char.ofNat value :: read))

/-- What a character does at a place: the tokens that it ends or makes, and the place after it. -/
def step? (place : Place) (c : Char) : Option (List Token × Place) :=
  match place with
  | .between => (begin? c).map fun (token, next) => (token.toList, next)
  | .string read =>
    if c == '"' then some ([.string (String.ofList read.reverse)], .between)
    else if c == '\\' then some ([], .escape read)
    else if c.toNat < 0x20 then none
    else some ([], .string (c :: read))
  | .escape read =>
    if c == 'u' then some ([], .digits read none 0 4)
    else (unescape? c).map fun d => ([], .string (d :: read))
  | .digits read first value left => do
    let digit ← Text.hexValue? c
    let value := 16 * value + digit
    if left ≤ 1 then
      let next ← afterDigits? read first value
      pure ([], next)
    else pure ([], .digits read first value (left - 1))
  | .half read first => if c == '\\' then some ([], .halfEscape read first) else none
  | .halfEscape read first => if c == 'u' then some ([], .digits read (some first) 0 4) else none
  | .number read =>
    if isNumberChar c then some ([], .number (c :: read))
    else do
      let number ← numberToken? read.reverse
      let (token, next) ← begin? c
      pure (number :: token.toList, next)
  | .word read =>
    if c.isAlpha then some ([], .word (c :: read))
    else do
      let word ← wordToken? read.reverse
      let (token, next) ← begin? c
      pure (word :: token.toList, next)

/-- The tokens that the end of the text completes. -/
def finish? : Place → Option (List Token)
  | .between => some []
  | .number read => (numberToken? read.reverse).map fun token => [token]
  | .word read => (wordToken? read.reverse).map fun token => [token]
  | _ => none

/-- The tokens of a text from a place on. -/
def tokensFrom? (place : Place) : List Char → Option (List Token)
  | [] => finish? place
  | c :: cs => do
    let (tokens, next) ← step? place c
    let rest ← tokensFrom? next cs
    pure (tokens ++ rest)

/-- The tokens of a text. -/
def tokens? (cs : List Char) : Option (List Token) := tokensFrom? .between cs

end SolutionAlgebra.Json
