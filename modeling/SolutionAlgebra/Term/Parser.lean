import SolutionAlgebra.Literal.Basic
import SolutionAlgebra.Term.Basic
import SolutionAlgebra.Term.Prefixes
import SolutionAlgebra.Text.CodePoints

/-! # Reading terms

The compact text of a term: a variable with its sign or the label of a blank node, an IRI between
angle brackets, bare, or as a prefixed name, a quoted literal with an optional language or
datatype, a bare number or truth value. The RDF text of a term reads back as the term. -/

namespace SolutionAlgebra

/-! ## Quoted texts

A quoted text stands between quotation marks. In it a backslash escapes a quotation mark, an
apostrophe or another backslash, names a line end or a tab by a letter, or, with `u`, a character
by four characters that read as a hexadecimal number, which may start with a plus sign. -/

namespace Quotation

/-- The character that a backslash and one letter stand for. -/
def escaped? (c : Char) : Option Char :=
  if c == 'n' then some '\n'
  else if c == 'r' then some '\r'
  else if c == 't' then some '\t'
  else if c == '"' || c == '\x27' || c == '\\' then some c
  else none

/-- The number that hexadecimal digits stand for, after an optional plus sign. -/
def readCode? (cs : List Char) : Option Nat :=
  let digits := match cs with
    | '+' :: rest => rest
    | _ => cs
  if digits.isEmpty || !digits.all (fun c => (Text.hexValue? c).isSome) then none
  else some (Text.hexNumber digits)

/-- The character with a code, unless the code is none of a character. -/
def character? (code : Nat) : Option Char :=
  if code.isValidChar then some (Char.ofNat code) else none

/-- Reads up to the closing quotation mark: the unescaped text and what follows the mark. -/
def readBody? : List Char → Option (List Char × List Char)
  | [] => none
  | '"' :: rest => some ([], rest)
  | '\\' :: 'u' :: a :: b :: c :: d :: rest =>
    match (readCode? [a, b, c, d]).bind character?, readBody? rest with
    | some char, some (text, after) => some (char :: text, after)
    | _, _ => none
  | '\\' :: c :: rest =>
    match escaped? c, readBody? rest with
    | some char, some (text, after) => some (char :: text, after)
    | _, _ => none
  | c :: rest =>
    if c == '\\' then none
    else (readBody? rest).map fun (text, after) => (c :: text, after)

/-- Reads a quoted text: the unescaped text and what follows. -/
def read? : List Char → Option (List Char × List Char)
  | '"' :: rest => readBody? rest
  | _ => none

end Quotation

/-! ## Terms -/

/-- Why a text is no term. -/
inductive TermFault where
  /-- The text has the form of no term. -/
  | form (text : String)
  /-- The text has the form of a term whose IRI, literal or language is faulty. -/
  | value (fault : ValueFault)
  /-- The text is a name with an unknown prefix and no IRI either. -/
  | unknownPrefix (name : String)
deriving DecidableEq, Repr

/-- The text of a fault. -/
def TermFault.message : TermFault → String
  | form text => "Unrecognized term syntax: " ++ text
  | value fault => fault.message
  | unknownPrefix name => (PrefixFault.unknown name).message

namespace Term

/-- An IRI, its faults being those of a term. -/
def parseIri (text : List Char) : Except TermFault Iri :=
  (Iri.ofText (String.ofList text)).mapError .value

/-- The text between two given characters at the ends of a text. -/
def between? (first last : Char) : List Char → Option (List Char)
  | [] => none
  | c :: cs =>
    if c == first && cs.getLast? == some last then some cs.dropLast else none

/-- A prefixed name, or a bare IRI. A prefix of the table prevails over a scheme of its name. -/
def parseName (prefixes : Prefixes) (cs : List Char) : Except TermFault Iri :=
  match Text.cutAt? ':' cs with
  | none => .error (.form (String.ofList cs))
  | some (name, rest) =>
    match prefixes.find? (String.ofList name) with
    | some space => parseIri (space.toList ++ rest)
    | none =>
      match Iri.parse (String.ofList cs) with
      | .ok found => .ok found
      | .error _ => .error (.unknownPrefix (String.ofList name))

/-- The datatype of a quoted literal. -/
def parseDatatype (prefixes : Prefixes) (cs : List Char) : Except TermFault Iri :=
  match between? '<' '>' cs with
  | some text => parseIri text
  | none => parseName prefixes cs

/-- A quoted literal. -/
def parseQuoted (prefixes : Prefixes) (cs : List Char) : Except TermFault Literal :=
  match Quotation.read? cs with
  | none => .error (.form (String.ofList cs))
  | some (lexical, rest) =>
    match rest with
    | [] => .ok (.plain (String.ofList lexical))
    | '@' :: tag => (Literal.tagged (String.ofList lexical) (String.ofList tag)).mapError .value
    | '^' :: '^' :: type => do
      let datatype ← parseDatatype prefixes type
      (Literal.typed (String.ofList lexical) datatype).mapError .value
    | _ => .error (.form (String.ofList cs))

/-- The class of a bare number: a text whose first character after a sign is a digit or a point. -/
def numericType? (cs : List Char) : Option NumericType :=
  let body := NumericType.dropSign cs
  match body with
  | [] => none
  | first :: _ =>
    if Decimal.isDigit first || first == '.' then
      some (if body.contains 'e' || body.contains 'E' then .double
        else if body.contains '.' then .decimal
        else .integer)
    else none

/-- A term that starts neither as a variable nor as an IRI in brackets nor as a quoted literal. -/
def parseBare (prefixes : Prefixes) (cs : List Char) : Except TermFault Term :=
  if cs = ['t', 'r', 'u', 'e'] then .ok (.literal (.boolean true))
  else if cs = ['f', 'a', 'l', 's', 'e'] then .ok (.literal (.boolean false))
  else match numericType? cs with
    | some type =>
      ((Literal.typed (String.ofList cs) type.datatype).mapError .value).map .literal
    | none => (parseName prefixes cs).map .iri

/-- A term without blanks around it; `text` is what a fault of form shows where the text only
starts as a variable. -/
def parseTrimmed (prefixes : Prefixes) (text : String) (cs : List Char) : Except TermFault Term :=
  match cs with
  | [] => .error (.form text)
  | '?' :: name =>
    if name.isEmpty then .error (.form text) else .ok (.var (.ofText (String.ofList name)))
  | '$' :: name =>
    if name.isEmpty then .error (.form text) else .ok (.var (.ofText (String.ofList name)))
  | '_' :: ':' :: _ :: _ => .ok (.var (.ofText (String.ofList cs)))
  | '"' :: _ => (parseQuoted prefixes cs).map .literal
  | _ =>
    match between? '<' '>' cs with
    | some inner => (parseIri inner).map .iri
    | none => parseBare prefixes cs

/-- The term that a text is. -/
def parse (prefixes : Prefixes) (text : String) : Except TermFault Term :=
  parseTrimmed prefixes text (Text.trim text.toList)

end Term

end SolutionAlgebra
