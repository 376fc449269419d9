import SolutionAlgebra.Builtin.Argument
import SolutionAlgebra.Literal.Basic
import SolutionAlgebra.Literal.Operations
import SolutionAlgebra.Octets
import SolutionAlgebra.Pattern.Reader
import SolutionAlgebra.Pattern.Replacement
import SolutionAlgebra.Text.Case

/-! # What the operations compute

An operation first checks how many arguments it has, then looks at them one after the other; the
first argument of a wrong kind makes the fault. -/

namespace SolutionAlgebra

namespace Term

/-- The number that a text stands for, undefined where it is none. -/
def looseNumber (t : Term) : Float :=
  (Decimal.readExtended? (Text.trim t.bareText.toList)).getD Decimal.undefined

/-- An arithmetic operator on two terms. Where one of them is no literal, `+` joins their bare
texts and the other operators compute with the numbers that the texts stand for. -/
def compute (op : ArithmeticOperator) (a b : Term) : Outcome Term :=
  match a, b with
  | literal x, literal y => ((Literal.apply op x y).mapError .arithmetic).map literal
  | _, _ =>
    if op = .add then .ok (literal (.plain (a.bareText ++ b.bareText)))
    else .ok (literal (.numeric (op.compute a.looseNumber b.looseNumber) .double))

end Term

namespace Builtin

/-- A truth value as a term. -/
def truthTerm (value : Bool) : Term := .literal (.boolean value)

/-- A plain string as a term. -/
def plainTerm (text : String) : Term := .literal (.plain text)

/-- Whether a value is a term, or a list with a term, that equals another. -/
def matchesTerm (needle : Term) : Option Value → Bool
  | some (.terms ts) => ts.any fun t => t.equal needle
  | some (.term t) => t.equal needle
  | _ => false

/-- Whether the first argument equals one of the others. -/
def isAmong (function : String) (args : Arguments) : Outcome Bool := do
  let needle ← args.term function 0
  return (args.drop 1).any (matchesTerm needle)

/-- The first argument that has a term for its value. -/
def firstTerm (args : Arguments) : Outcome Term :=
  match args.findSome? fun value => value.bind Value.term? with
  | some t => .ok t
  | none => .error (.unbound coalesce.name)

/-- Whether a condition is true. -/
def isTrue (condition : Term) : Outcome Bool :=
  match condition.effectiveTruth? with
  | some value => .ok value
  | none => .error (.mismatch choice.name .truth condition.rdf)

/-- The second or the third argument, as the first is true or false. -/
def choose (args : Arguments) : Outcome Term := do
  let condition ← args.term choice.name 0
  args.term choice.name (if ← isTrue condition then 1 else 2)

/-- The bare text of an IRI or literal. -/
def bareOf : Term → Outcome Term
  | .iri i => .ok (plainTerm i.text)
  | .literal l => .ok (plainTerm l.lexical)
  | other => .error (.mismatch str.name .iriOrLiteral other.rdf)

/-- The IRI that an IRI or literal gives. -/
def iriOf : Term → Outcome Term
  | .iri i => .ok (.iri i)
  | .literal l => ((Iri.ofText l.lexical).mapError .value).map .iri
  | other => .error (.mismatch iri.name .iriOrLiteral other.rdf)

/-- The IRI of a datatype. -/
def datatypeOf : Term → Outcome Iri
  | .iri i => .ok i
  | other => .error (.mismatch strdt.name .datatype other.rdf)

/-- A position or length as a number of characters: the nearest whole number, and zero for
what is negative or undefined; `none` is without end. -/
def characterCount (x : Float) : Option Nat :=
  if x.isInf && 0 < x then none else some ((Decimal.nearestInt? x).getD 0).toNat

/-- A part of a string by position and length. -/
def substring (args : Arguments) : Outcome Term := do
  let source ← args.string substr.name 0
  let (start, _) ← args.number substr.name 1
  if start.isNaN || start < 1 then throw (.refused substr.name (.startBelowOne start))
  let length ← if args.length = 3 then (args.number substr.name 2).map fun n => characterCount n.1
    else pure none
  match characterCount start with
  | some position => return .literal (source.substring position length)
  | none => return .literal (source.withLexical "")

/-- The answer to a question about two texts. -/
def testString : StringTest → List Char → List Char → Bool
  | .starts, cs, token => Text.startsWith token cs
  | .ends, cs, token => Text.endsWith token cs
  | .contains, cs, token => Text.occursIn token cs

/-- The strings that all the arguments are. -/
def strings (function : String) (args : Arguments) : Outcome (List Literal) :=
  (List.range args.length).mapM (args.string function)

/-- The flags that an argument gives, if it is there. -/
def flagsOf (function : String) (args : Arguments) (i : Nat) : Outcome (List Char) := do
  if i < args.length then return (← args.literal function i).chars else return []

/-- Sets the flags with some letters. The letter `q` sets none. -/
def setFlags (function : String) (flags : Pattern.Flags) : List Char → Outcome Pattern.Flags
  | [] => .ok flags
  | 'i' :: cs => setFlags function { flags with ignoreCase := true } cs
  | 'm' :: cs => setFlags function { flags with multiLine := true } cs
  | 's' :: cs => setFlags function { flags with dotAll := true } cs
  | 'x' :: cs => setFlags function { flags with extended := true } cs
  | 'q' :: cs => setFlags function flags cs
  | c :: _ => .error (.refused function (.unknownFlag c))

/-- The compiled form of a pattern under flags. With the flag `q` the pattern is quoted. -/
def compilePattern (function : String) (pattern flags : List Char) : Outcome Pattern.Machine := do
  let settings ← setFlags function {} flags
  match Pattern.compile? settings
      (if flags.contains 'q' then Pattern.quote pattern else pattern) with
  | some machine => return machine
  | none => throw (.refused function .invalidPattern)

/-- What an operation computes from arguments of the right number, at a present moment, and with a
number that is drawn if need be. -/
def compute (present : Calendar.Moment) (draw : Unit → Nat) (b : Builtin) (args : Arguments) :
    Outcome Term :=
  let name := b.name
  match b with
  | arithmetic op => do
    let left ← args.term name 0
    let right ← args.term name 1
    left.compute op right
  | comparison c => do
    let left ← args.term name 0
    let right ← args.term name 1
    return truthTerm (c.holds left right)
  | not => .ok (truthTerm ((args.truth? 0).any (!·)))
  | and => .ok (truthTerm (args.truth? 0 == some true && args.truth? 1 == some true))
  | or => .ok (truthTerm (match args.truth? 0, args.truth? 1 with
    | some x, some y => x || y
    | _, _ => false))
  | bound => .ok (truthTerm ((args.head?.bind id).bind Value.term?).isSome)
  | sameTerm => do
    let left ← args.term name 0
    let right ← args.term name 1
    return truthTerm (left.rdf == right.rdf)
  | among => do return truthTerm (← isAmong name args)
  | notAmong => do return truthTerm (!(← isAmong name args))
  | coalesce => firstTerm args
  | choice => choose args
  | isIri => do
    match ← args.term name 0 with
    | .iri _ => return truthTerm true
    | _ => return truthTerm false
  | isBlank => do
    match ← args.term name 0 with
    | .var _ => return truthTerm true
    | _ => return truthTerm false
  | isLiteral => do return truthTerm (← args.term name 0).literal?.isSome
  | isNumeric => do return truthTerm (← args.term name 0).isNumeric
  | str => do bareOf (← args.term name 0)
  | lang => do return plainTerm ((← args.literal name 0).language.getD "")
  | datatype => do return .iri (← args.literal name 0).effectiveDatatype
  | iri => do iriOf (← args.term name 0)
  | strdt => do
    let source ← args.string name 0
    let type ← datatypeOf (← args.term name 1)
    ((Literal.typed source.lexical type).mapError .value).map .literal
  | strlang => do
    let source ← args.string name 0
    let tag ← args.literal name 1
    ((Literal.tagged source.lexical tag.lexical).mapError .value).map .literal
  | uuid => .ok (.iri ⟨"urn:uuid:" ++ String.ofList (Unique.identifier (draw ()))⟩)
  | struuid => .ok (plainTerm (String.ofList (Unique.identifier (draw ()))))
  | strlen => do return .literal (.integer (← args.string name 0).chars.length)
  | substr => substring args
  | ucase => do
    let source ← args.string name 0
    return .literal (source.withChars (Text.uppercase source.chars))
  | lcase => do
    let source ← args.string name 0
    return .literal (source.withChars (Text.lowercase source.chars))
  | stringTest test => do
    let source ← args.string name 0
    let token ← args.string name 1
    return truthTerm (testString test source.chars token.chars)
  | strbefore => do
    let source ← args.string name 0
    let token ← args.string name 1
    return .literal (source.before token.chars)
  | strafter => do
    let source ← args.string name 0
    let token ← args.string name 1
    return .literal (source.after token.chars)
  | encodeForUri => do
    return plainTerm (String.ofList (Octets.percentEncode (← args.literal name 0).chars))
  | concat => do return .literal (Literal.join (← strings name args))
  | langMatches => do
    let tag ← args.literal name 0
    let range ← args.literal name 1
    return truthTerm
      (Literal.inLanguageRange (Text.lowercase range.chars) (Text.lowercase tag.chars))
  | regex => do
    let source ← args.string name 0
    let pattern ← args.literal name 1
    let machine ← compilePattern name pattern.chars (← flagsOf name args 2)
    return truthTerm (machine.matches? source.chars)
  | replace => do
    let source ← args.string name 0
    let pattern ← args.literal name 1
    let replacement ← args.literal name 2
    let machine ← compilePattern name pattern.chars (← flagsOf name args 3)
    return .literal (source.withChars (machine.replaceAll replacement.chars source.chars))
  | rounding r => do
    let (value, type) ← args.number name 0
    return .literal (.numeric (r.apply value) type)
  | rand => .ok (.literal (.numeric (Unique.fraction (draw ())) .double))
  | now => .ok (.literal (.dateTime present))
  | part p => do return .literal (.integer (p.of (← args.moment name 0)))
  | seconds => do return .literal (.numeric (← args.moment name 0).secondsNumber .decimal)
  | tz => do return .literal (← args.moment name 0).offsetHours
  | digest a => do
    let source ← args.literal name 0
    return .literal (.hexBinary (a.digest (Octets.utf8 source.chars)))

/-- What an operation computes from its arguments. -/
def apply (present : Calendar.Moment) (draw : Unit → Nat) (b : Builtin) (args : Arguments) :
    Outcome Term :=
  if b.count.admits args.length then b.compute present draw args
  else .error (.arity b.name b.count args.length)

end Builtin

end SolutionAlgebra
