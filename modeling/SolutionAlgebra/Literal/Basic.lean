import SolutionAlgebra.Calendar.Moment
import SolutionAlgebra.Calendar.Reader
import SolutionAlgebra.LanguageTag
import SolutionAlgebra.Literal.NumericType
import SolutionAlgebra.Octets

/-! # Literals

A literal keeps the text it was written with, its datatype or language, and the value that the
datatype gives to the text: a number, a truth value, a moment, octets, or the string itself. Its
RDF text is the quoted text followed by the language or the datatype. -/

namespace SolutionAlgebra

/-- How octets are written. -/
inductive OctetNotation where
  /-- In hexadecimal. -/
  | hexadecimal
  /-- In base 64. -/
  | base64
deriving DecidableEq, Repr

/-- The value of a literal, by kind. -/
inductive LiteralKind where
  /-- A number. -/
  | numeric (value : Float) (type : NumericType)
  /-- The text itself. -/
  | string
  /-- A truth value. -/
  | boolean (value : Bool)
  /-- A point in time. -/
  | date (moment : Calendar.Moment)
  /-- Octets. -/
  | octets (octets : List UInt8) (notatedIn : OctetNotation)
deriving DecidableEq

/-- A literal. -/
structure Literal where
  /-- The text, unescaped. -/
  lexical : String
  /-- The datatype, if one is stated. -/
  datatype : Option Iri
  /-- The language, in lower case. -/
  language : Option String
  /-- The value. -/
  kind : LiteralKind
deriving DecidableEq

/-- Why a text is no IRI or literal. -/
inductive ValueFault where
  /-- The text is no IRI. -/
  | iri (text : String) (fault : Iri.Fault)
  /-- The text is not in the lexical space of the datatype. -/
  | literal (lexical : String) (datatype : Iri)
  /-- The text is no language tag. -/
  | languageTag (tag : String) (fault : LanguageTag.Fault)
deriving DecidableEq, Repr

/-- The text of a fault. -/
def ValueFault.message : ValueFault → String
  | iri text fault => "Invalid IRI: " ++ text ++ ": " ++ fault.message
  | literal lexical datatype =>
    "Invalid literal: \"" ++ lexical ++ "\" is not a valid <" ++ datatype.text ++ ">"
  | languageTag tag fault => "Invalid language tag: " ++ tag ++ ": " ++ fault.message

/-- The IRI that a text is, or the fault that it is none. -/
def Iri.ofText (text : String) : Except ValueFault Iri := (Iri.parse text).mapError (.iri text)

namespace Literal

/-! ## Making literals -/

/-- A plain string. -/
def plain (lexical : String) : Literal := ⟨lexical, none, none, .string⟩

/-- A string with a language. -/
def tagged (lexical tag : String) : Except ValueFault Literal :=
  match LanguageTag.parse tag with
  | .ok language => .ok ⟨lexical, none, some language, .string⟩
  | .error fault => .error (.languageTag tag fault)

/-- A computed number. -/
def numeric (value : Float) (type : NumericType) : Literal :=
  ⟨type.format value, some type.datatype, none, .numeric value type⟩

/-- A whole number. -/
def integer (value : Int) : Literal := numeric (Decimal.ofInt value) .integer

/-- A truth value. -/
def boolean (value : Bool) : Literal :=
  ⟨if value then "true" else "false", some Vocabulary.boolean, none, .boolean value⟩

/-- A point in time. -/
def dateTime (moment : Calendar.Moment) : Literal :=
  ⟨String.ofList moment.chars, some Vocabulary.dateTime, none, .date moment⟩

/-- Octets in hexadecimal. -/
def hexBinary (octets : List UInt8) : Literal :=
  ⟨String.ofList (Octets.toHex octets), some Vocabulary.hexBinary, none,
    .octets octets .hexadecimal⟩

/-! ## Parts of a literal -/

/-- The stated datatype, or the one that a string has without stating it. -/
def effectiveDatatype (l : Literal) : Iri :=
  match l.datatype, l.language with
  | some datatype, _ => datatype
  | none, some _ => Vocabulary.langString
  | none, none => Vocabulary.string

/-- The number, if the literal is one. -/
def number? (l : Literal) : Option (Float × NumericType) :=
  match l.kind with
  | .numeric value type => some (value, type)
  | _ => none

/-- The truth value, if the literal is one. -/
def truth? (l : Literal) : Option Bool :=
  match l.kind with
  | .boolean value => some value
  | _ => none

/-- The point in time, if the literal is one. -/
def moment? (l : Literal) : Option Calendar.Moment :=
  match l.kind with
  | .date moment => some moment
  | _ => none

/-- Whether the literal is a number. -/
def isNumeric (l : Literal) : Bool := l.number?.isSome

/-- Whether the literal is a string. -/
def isString (l : Literal) : Bool := l.kind = .string

/-- The effective boolean value: a truth value is its own, a number is true unless it is zero or
undefined, a string unless it is empty; other literals have none. -/
def effectiveTruth? (l : Literal) : Option Bool :=
  match l.kind with
  | .boolean value => some value
  | .numeric value _ => some (value != 0 && !value.isNaN)
  | .string => some (!l.lexical.isEmpty)
  | _ => none

/-- A string of the same language and datatype with another text; a plain string if the literal is
not a string. -/
def withLexical (l : Literal) (lexical : String) : Literal :=
  match l.kind with
  | .string => { l with lexical }
  | _ => plain lexical

/-! ## RDF text -/

/-- A character as it stands between quotation marks. -/
def escapeChar (c : Char) : List Char :=
  if c == '"' then ['\\', '"']
  else if c == '\\' then ['\\', '\\']
  else if c == '\n' then ['\\', 'n']
  else if c == '\r' then ['\\', 'r']
  else if c == '\t' then ['\\', 't']
  else [c]

/-- A text as it stands between quotation marks. -/
def escape (cs : List Char) : List Char := cs.flatMap escapeChar

/-- The empty text is escaped as itself. -/
@[simp] theorem escape_nil : escape [] = [] := rfl

/-- A text is escaped character by character. -/
@[simp] theorem escape_cons (c : Char) (cs : List Char) :
    escape (c :: cs) = escapeChar c ++ escape cs := rfl

/-- What follows the closing quotation mark. -/
def suffix (l : Literal) : String :=
  match l.language, l.datatype with
  | some language, _ => "@" ++ language
  | none, some datatype => "^^<" ++ datatype.text ++ ">"
  | none, none => ""

/-- The RDF text of a literal. -/
def rdf (l : Literal) : String :=
  "\"" ++ String.ofList (escape l.lexical.toList) ++ "\"" ++ l.suffix

/-! ## The value of a text under a datatype

A datatype gives values to some texts and refuses the others; blanks around the text do not count.
Under a datatype that is not known, any text is a string. -/

/-- The truth value that a text stands for. -/
def readTruth? (cs : List Char) : Option Bool :=
  if cs = ['t', 'r', 'u', 'e'] ∨ cs = ['1'] then some true
  else if cs = ['f', 'a', 'l', 's', 'e'] ∨ cs = ['0'] then some false
  else none

/-- The value of a text under a datatype, unless the datatype refuses the text. -/
def decode? (lexical : String) (datatype : Iri) : Option LiteralKind :=
  match NumericType.ofDatatype? datatype with
  | some type => (type.read? lexical).map fun value => .numeric value type
  | none =>
    let cs := Text.trim lexical.toList
    if datatype = Vocabulary.boolean then (readTruth? cs).map .boolean
    else if datatype = Vocabulary.dateTime ∨ datatype = Vocabulary.dateTimeStamp then
      (Calendar.readDateTime? cs).map .date
    else if datatype = Vocabulary.date then (Calendar.readDate? cs).map .date
    else if datatype = Vocabulary.time then (Calendar.readTime? cs).map .date
    else if datatype = Vocabulary.duration then (Calendar.readDurationMoment? cs).map .date
    else if datatype = Vocabulary.hexBinary then
      (Octets.ofHex? cs).map fun octets => .octets octets .hexadecimal
    else if datatype = Vocabulary.base64Binary then
      (Octets.ofBase64? cs).map fun octets => .octets octets .base64
    else some .string

/-- The literal of a text and a datatype. -/
def typed (lexical : String) (datatype : Iri) : Except ValueFault Literal :=
  match decode? lexical datatype with
  | some kind => .ok ⟨lexical, some datatype, none, kind⟩
  | none => .error (.literal lexical datatype)

/-- The literal of a text and an optional datatype and language; the language prevails. -/
def make (lexical : String) (datatype : Option Iri) (language : Option String) :
    Except ValueFault Literal :=
  match language, datatype with
  | some tag, _ => tagged lexical tag
  | none, some datatype => typed lexical datatype
  | none, none => .ok (plain lexical)

end Literal

end SolutionAlgebra
