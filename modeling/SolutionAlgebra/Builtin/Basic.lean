import SolutionAlgebra.Value

/-! # Built-in operations

The operations that an expression can name, their names, and how many arguments each takes. -/

namespace SolutionAlgebra

/-- A comparison of two terms. -/
inductive Comparison where
  /-- Equal in value. -/
  | equal
  /-- Not equal in value. -/
  | notEqual
  /-- Before in the order of terms. -/
  | less
  /-- Not after in the order of terms. -/
  | lessOrEqual
  /-- After in the order of terms. -/
  | greater
  /-- Not before in the order of terms. -/
  | greaterOrEqual
deriving DecidableEq, Repr

namespace Comparison

/-- How a comparison is written. -/
def symbol : Comparison → String
  | equal => "="
  | notEqual => "!="
  | less => "<"
  | lessOrEqual => "<="
  | greater => ">"
  | greaterOrEqual => ">="

/-- Whether two terms stand in the comparison. -/
def holds (c : Comparison) (a b : Term) : Bool :=
  match c with
  | equal => a.equal b
  | notEqual => !a.equal b
  | less => a.order b == .lt
  | lessOrEqual => a.order b != .gt
  | greater => a.order b == .gt
  | greaterOrEqual => a.order b != .lt

end Comparison

/-- A way to round a number to a whole one, or to drop its sign. -/
inductive Rounding where
  /-- Without the sign. -/
  | abs
  /-- To the nearest whole number, halves going up. -/
  | round
  /-- Up. -/
  | ceil
  /-- Down. -/
  | floor
deriving DecidableEq, Repr

/-- A whole number that a moment shows. -/
inductive MomentPart where
  /-- The year. -/
  | year
  /-- The month. -/
  | month
  /-- The day of the month. -/
  | day
  /-- The hour. -/
  | hours
  /-- The minute. -/
  | minutes
deriving DecidableEq, Repr

/-- A message digest. -/
inductive DigestAlgorithm where
  /-- MD5, 16 octets. -/
  | md5
  /-- SHA-1, 20 octets. -/
  | sha1
  /-- SHA-256, 32 octets. -/
  | sha256
  /-- SHA-384, 48 octets. -/
  | sha384
  /-- SHA-512, 64 octets. -/
  | sha512
deriving DecidableEq, Repr

/-- A question about a string and another. -/
inductive StringTest where
  /-- Whether the first starts with the second. -/
  | starts
  /-- Whether the first ends with the second. -/
  | ends
  /-- Whether the second occurs in the first. -/
  | contains
deriving DecidableEq, Repr

/-- A built-in operation. -/
inductive Builtin where
  /-- An arithmetic operator. -/
  | arithmetic (op : ArithmeticOperator)
  /-- A comparison. -/
  | comparison (c : Comparison)
  /-- Negation. -/
  | not
  /-- Conjunction. -/
  | and
  /-- Disjunction. -/
  | or
  /-- Whether an argument has a term for its value. -/
  | bound
  /-- Whether two terms have the same RDF text. -/
  | sameTerm
  /-- Whether the first argument equals one of the others. -/
  | among
  /-- Whether the first argument equals none of the others. -/
  | notAmong
  /-- The first argument that has a term for its value. -/
  | coalesce
  /-- The second or the third argument, as the first is true or false. -/
  | choice
  /-- Whether a term is an IRI. -/
  | isIri
  /-- Whether a term is a variable, which is how blank nodes are carried. -/
  | isBlank
  /-- Whether a term is a literal. -/
  | isLiteral
  /-- Whether a term is a number. -/
  | isNumeric
  /-- The bare text of an IRI or literal. -/
  | str
  /-- The language of a literal. -/
  | lang
  /-- The datatype of a literal. -/
  | datatype
  /-- The IRI that a text is. -/
  | iri
  /-- The literal of a text and a datatype. -/
  | strdt
  /-- The string of a text and a language. -/
  | strlang
  /-- An IRI that is like no other. -/
  | uuid
  /-- A text that is like no other. -/
  | struuid
  /-- The number of characters of a string. -/
  | strlen
  /-- A part of a string by position and length. -/
  | substr
  /-- A string in upper case. -/
  | ucase
  /-- A string in lower case. -/
  | lcase
  /-- A question about two strings. -/
  | stringTest (test : StringTest)
  /-- What stands in a string before another. -/
  | strbefore
  /-- What stands in a string after another. -/
  | strafter
  /-- A text in percent encoding. -/
  | encodeForUri
  /-- Strings joined. -/
  | concat
  /-- Whether a language falls in a range of languages. -/
  | langMatches
  /-- Whether a regular expression matches in a string. -/
  | regex
  /-- A string with the matches of a regular expression replaced. -/
  | replace
  /-- A number rounded. -/
  | rounding (r : Rounding)
  /-- A number from zero to below one, drawn at random. -/
  | rand
  /-- The present moment. -/
  | now
  /-- A part of a moment. -/
  | part (p : MomentPart)
  /-- The seconds of a moment, with their fraction. -/
  | seconds
  /-- The offset of a moment in hours. -/
  | tz
  /-- The digest of a text. -/
  | digest (a : DigestAlgorithm)
deriving DecidableEq, Repr

namespace Builtin

/-- The name of an operation. -/
def name : Builtin → String
  | arithmetic op => op.symbol
  | comparison c => c.symbol
  | not => "!"
  | and => "&&"
  | or => "||"
  | bound => "bound"
  | sameTerm => "sameterm"
  | among => "in"
  | notAmong => "notin"
  | coalesce => "coalesce"
  | choice => "if"
  | isIri => "isiri"
  | isBlank => "isblank"
  | isLiteral => "isliteral"
  | isNumeric => "isnumeric"
  | str => "str"
  | lang => "lang"
  | datatype => "datatype"
  | iri => "iri"
  | strdt => "strdt"
  | strlang => "strlang"
  | uuid => "uuid"
  | struuid => "struuid"
  | strlen => "strlen"
  | substr => "substr"
  | ucase => "ucase"
  | lcase => "lcase"
  | stringTest .starts => "strstarts"
  | stringTest .ends => "strends"
  | stringTest .contains => "contains"
  | strbefore => "strbefore"
  | strafter => "strafter"
  | encodeForUri => "encode_for_uri"
  | concat => "concat"
  | langMatches => "langmatches"
  | regex => "regex"
  | replace => "replace"
  | rounding .abs => "abs"
  | rounding .round => "round"
  | rounding .ceil => "ceil"
  | rounding .floor => "floor"
  | rand => "rand"
  | now => "now"
  | part .year => "year"
  | part .month => "month"
  | part .day => "day"
  | part .hours => "hours"
  | part .minutes => "minutes"
  | seconds => "seconds"
  | tz => "tz"
  | digest .md5 => "md5"
  | digest .sha1 => "sha1"
  | digest .sha256 => "sha256"
  | digest .sha384 => "sha384"
  | digest .sha512 => "sha512"

/-- All operations. -/
def all : List Builtin := [
  arithmetic .add, arithmetic .subtract, arithmetic .multiply, arithmetic .divide,
  comparison .equal, comparison .notEqual, comparison .less, comparison .lessOrEqual,
  comparison .greater, comparison .greaterOrEqual, not, and, or, bound, sameTerm, among, notAmong,
  coalesce, choice, isIri, isBlank, isLiteral, isNumeric, str, lang, datatype, iri, strdt, strlang,
  uuid, struuid, strlen, substr, ucase, lcase, stringTest .starts, stringTest .ends,
  stringTest .contains, strbefore, strafter, encodeForUri, concat, langMatches, regex, replace,
  rounding .abs, rounding .round, rounding .ceil, rounding .floor, rand, now, part .year,
  part .month, part .day, part .hours, part .minutes, seconds, tz, digest .md5, digest .sha1,
  digest .sha256, digest .sha384, digest .sha512]

/-- The operation with a name; two operations have a second name. -/
def named? (name : String) : Option Builtin :=
  if name = "isuri" then some isIri
  else if name = "uri" then some iri
  else all.find? fun b => b.name == name

/-- How many arguments an operation takes. -/
def count : Builtin → Count
  | arithmetic _ | comparison _ | and | or | sameTerm | strdt | strlang | stringTest _
  | strbefore | strafter | langMatches => .exactly 2
  | among | notAmong => .atLeast 1
  | coalesce | concat => .atLeast 0
  | choice => .exactly 3
  | uuid | struuid | rand | now => .exactly 0
  | substr | regex => .between 2 3
  | replace => .between 3 4
  | _ => .exactly 1

end Builtin

end SolutionAlgebra
