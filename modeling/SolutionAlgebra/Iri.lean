import SolutionAlgebra.Decimal.Notation
import SolutionAlgebra.Text.CodePoints

/-! # IRIs

An IRI is an absolute identifier of RFC 3987, kept as it is written. A text is read from left to
right, component by component, and the first character that does not fit is the fault. A text that
does not start with a scheme is read as a relative reference, and only if it is one is the missing
scheme the fault. -/

namespace SolutionAlgebra

/-! ## Characters

The character classes of RFC 3987: the unreserved characters of any script, the delimiters that may
stand inside a component, and what paths, queries and fragments allow beyond them. -/

namespace Iri

/-- ASCII letters. -/
def isLetter (c : Char) : Bool := ('a' ≤ c && c ≤ 'z') || ('A' ≤ c && c ≤ 'Z')

/-- ASCII digits. -/
def isDigit (c : Char) : Bool := '0' ≤ c && c ≤ '9'

/-- Hexadecimal digits in both cases. -/
def isHex (c : Char) : Bool := isDigit c || ('a' ≤ c && c ≤ 'f') || ('A' ≤ c && c ≤ 'F')

/-- The characters of other scripts that need no escape. -/
def isUcs (c : Char) : Bool :=
  let n := c.toNat
  (0xA0 ≤ n && n ≤ 0xD7FF) || (0xF900 ≤ n && n ≤ 0xFDCF) || (0xFDF0 ≤ n && n ≤ 0xFFEF) ||
    (0x10000 ≤ n && n ≤ 0xDFFFD && n % 0x10000 ≤ 0xFFFD) || (0xE1000 ≤ n && n ≤ 0xEFFFD)

/-- The private-use characters, which only queries allow. -/
def isPrivate (c : Char) : Bool :=
  let n := c.toNat
  (0xE000 ≤ n && n ≤ 0xF8FF) || (0xF0000 ≤ n && n ≤ 0xFFFFD) || (0x100000 ≤ n && n ≤ 0x10FFFD)

/-- Unreserved characters of ASCII. -/
def isAsciiUnreserved (c : Char) : Bool :=
  isLetter c || isDigit c || c == '-' || c == '.' || c == '_' || c == '~'

/-- Delimiters that a component may hold. -/
def isSubDelimiter (c : Char) : Bool :=
  c == '!' || c == '$' || c == '&' || c == '\x27' || c == '(' || c == ')' || c == '*' || c == '+' ||
    c == ',' || c == ';' || c == '='

/-- What every component allows. -/
def isPlain (c : Char) : Bool := isAsciiUnreserved c || isUcs c || isSubDelimiter c

/-- What the part before `@` in an authority allows. -/
def isUserCharacter (c : Char) : Bool := isPlain c || c == ':'

/-- What the first segment of a path without a scheme allows. -/
def isFirstSegmentCharacter (c : Char) : Bool := isPlain c || c == '@'

/-- What a path allows. -/
def isPathCharacter (c : Char) : Bool := isPlain c || c == ':' || c == '@' || c == '/'

/-- What a fragment allows. -/
def isFragmentCharacter (c : Char) : Bool := isPathCharacter c || c == '?'

/-- What a query allows. -/
def isQueryCharacter (c : Char) : Bool := isFragmentCharacter c || isPrivate c

/-- What a scheme allows after its first letter. -/
def isSchemeCharacter (c : Char) : Bool :=
  isLetter c || isDigit c || c == '+' || c == '-' || c == '.'

/-! ## Addresses of version six

Eight groups of one to four hexadecimal digits with colons between them; a double colon once stands
for one or more groups of zeros, and the last two groups may be written as an address of version
four, though not before a double colon. -/

/-- An octet in decimal without leading zeros, and the rest. -/
def readOctet? (cs : List Char) : Option (List Char) :=
  let (digits, rest) := Decimal.spanDigits cs
  let leadingZero := digits.head? == some '0' && 1 < digits.length
  if digits.isEmpty || 3 < digits.length || leadingZero || 255 < Decimal.digitsValue digits then
    none
  else some rest

/-- Further octets of an address of version four, each after a point. -/
def readOctets? : Nat → List Char → Option (List Char)
  | 0, cs => some cs
  | n + 1, '.' :: cs => (readOctet? cs).bind (readOctets? n)
  | _ + 1, _ => none

/-- An address of version four, and the rest. -/
def readVersionFour? (cs : List Char) : Option (List Char) := (readOctet? cs).bind (readOctets? 3)

/-- A group of one to four hexadecimal digits, and the rest. -/
def readGroup? (cs : List Char) : Option (List Char) :=
  let digits := cs.takeWhile isHex
  if digits.isEmpty || 4 < digits.length then none else some (cs.drop digits.length)

/-- The text of a group: the first one stands alone, the others follow a colon. -/
def groupText? (first : Bool) (cs : List Char) : Option (List Char) :=
  if first then some cs else match cs with
    | ':' :: rest => some rest
    | _ => none

/-- Up to `limit` groups: how many there are, whether an address of version four ended them, and
the rest. -/
def readGroups (first : Bool) : Nat → List Char → Nat × Bool × List Char
  | 0, cs => (0, false, cs)
  | n + 1, cs =>
    match groupText? first cs with
    | none => (0, false, cs)
    | some body =>
      match if 1 ≤ n then readVersionFour? body else none with
      | some rest => (2, true, rest)
      | none =>
        match readGroup? body with
        | none => (0, false, cs)
        | some rest =>
          let (count, ended, rest) := readGroups false n rest
          (count + 1, ended, rest)

/-- Whether a text is an address of version six. -/
def isVersionSix (cs : List Char) : Bool :=
  match readGroups true 8 cs with
  | (8, _, rest) => rest.isEmpty
  | (_, true, _) => false
  | (count, false, ':' :: ':' :: rest) =>
    let (_, _, rest) := readGroups true (8 - (count + 1)) rest
    rest.isEmpty
  | _ => false

end Iri

/-! ## Components -/

/-- An absolute IRI. -/
structure Iri where
  /-- The text of the IRI. -/
  text : String
deriving DecidableEq, Repr

namespace Iri

/-- Why a text is not an IRI. -/
inductive Fault where
  /-- There is no scheme. -/
  | noScheme
  /-- A character that its component does not allow. -/
  | character (c : Char)
  /-- A percent sign without two hexadecimal digits after it. -/
  | escape (text : List Char)
  /-- A character of a port that is not a digit. -/
  | port (c : Char)
  /-- A character that does not fit a host in brackets. -/
  | host (c : Char)
  /-- A host in brackets that is no address of version six. -/
  | address
deriving DecidableEq, Repr

/-- The reason that a fault states. -/
def Fault.message : Fault → String
  | noScheme => "No scheme found in an absolute IRI"
  | character c => "Invalid IRI code point '" ++ c.toString ++ "'"
  | escape text => "Invalid IRI percent encoding '" ++ String.ofList text ++ "'"
  | port c => "Invalid character '" ++ c.toString ++ "'"
  | host c => "Invalid character '" ++ c.toString ++ "' in host"
  | address => "Invalid host IP (invalid IPv6 address syntax)"

/-- Reads allowed characters and escapes up to a character that stops the component; gives back the
text from there. -/
def scanWhile (allowed stops : Char → Bool) : List Char → Except Fault (List Char)
  | [] => .ok []
  | '%' :: high :: low :: cs =>
    if isHex high && isHex low then scanWhile allowed stops cs
    else .error (.escape ['%', high, low])
  | c :: cs =>
    if stops c then .ok (c :: cs)
    else if c == '%' then .error (.escape (c :: cs))
    else if allowed c then scanWhile allowed stops cs
    else .error (.character c)

/-- Reads a fragment. -/
def scanFragment (cs : List Char) : Except Fault Unit :=
  (scanWhile isFragmentCharacter (fun _ => false) cs).map fun _ => ()

/-- Reads a query and a fragment after it. -/
def scanQuery (cs : List Char) : Except Fault Unit := do
  match ← scanWhile isQueryCharacter (· == '#') cs with
  | [] => .ok ()
  | _ :: rest => scanFragment rest

/-- Reads what follows a path. -/
def scanAfterPath : List Char → Except Fault Unit
  | [] => .ok ()
  | '?' :: cs => scanQuery cs
  | _ :: cs => scanFragment cs

/-- Whether a character ends a path. -/
def endsPath (c : Char) : Bool := c == '?' || c == '#'

/-- Whether a character ends an authority. -/
def endsAuthority (c : Char) : Bool := c == '/' || c == '?' || c == '#'

/-- Reads a path and what follows. -/
def scanPath (cs : List Char) : Except Fault Unit := do
  scanAfterPath (← scanWhile isPathCharacter endsPath cs)

/-- Reads a path, query or fragment after an authority. -/
def scanAfterAuthority (cs : List Char) : Except Fault Unit :=
  match cs with
  | '/' :: rest => scanPath rest
  | _ => scanAfterPath cs

/-- Reads a port and what follows. -/
def scanPort : List Char → Except Fault Unit
  | [] => .ok ()
  | c :: cs =>
    if isDigit c then scanPort cs
    else if endsAuthority c then scanAfterAuthority (c :: cs)
    else .error (.port c)

/-- Reads the version and the rest of an address of a future version, past its `v`. -/
def scanFuture (cs : List Char) : Except Fault Unit :=
  let version := cs.takeWhile isHex
  match cs.drop version.length with
  | [] => .error (.host ']')
  | '.' :: body =>
    if version.isEmpty || body.isEmpty then .error (.host (body.head?.getD ']'))
    else match body.find? fun c => !(isAsciiUnreserved c || isSubDelimiter c || c == ':') with
      | some c => .error (.host c)
      | none => .ok ()
  | c :: _ => .error (.host c)

/-- Reads what stands between the brackets of a host. -/
def scanBracketed (cs : List Char) : Except Fault Unit :=
  match cs with
  | 'v' :: rest => scanFuture rest
  | 'V' :: rest => scanFuture rest
  | _ => if isVersionSix cs then .ok () else .error .address

/-- Reads what follows a host. -/
def scanAfterHost (cs : List Char) : Except Fault Unit :=
  match cs with
  | ':' :: rest => scanPort rest
  | _ => scanAfterAuthority cs

/-- Reads a host and what follows. -/
def scanHost (cs : List Char) : Except Fault Unit :=
  match cs with
  | '[' :: inner =>
    match Text.cutAt? ']' inner with
    | none => .error (.host '[')
    | some (bracketed, rest) => do
      scanBracketed bracketed
      match rest with
      | c :: _ => if c == ':' || endsAuthority c then scanAfterHost rest else .error (.host c)
      | [] => .ok ()
  | _ => do scanAfterHost (← scanWhile isPlain (fun c => c == ':' || endsAuthority c) cs)

/-- Reads an authority and what follows. -/
def scanAuthority (cs : List Char) : Except Fault Unit := do
  match ← scanWhile isUserCharacter (fun c => c == '@' || c == '[' || endsAuthority c) cs with
  | '@' :: rest => scanHost rest
  | _ => scanHost cs

/-- Reads what follows a scheme. -/
def scanHierarchy : List Char → Except Fault Unit
  | '/' :: '/' :: cs => scanAuthority cs
  | cs => scanPath cs

/-- Reads a relative reference. -/
def scanRelative (cs : List Char) : Except Fault Unit :=
  match cs with
  | '/' :: _ => scanHierarchy cs
  | _ => do
    scanAfterAuthority (← scanWhile isFirstSegmentCharacter endsAuthority cs)

/-- The text after the scheme and its colon. -/
def afterScheme? : List Char → Option (List Char)
  | [] => none
  | c :: cs =>
    if isLetter c then
      match cs.dropWhile isSchemeCharacter with
      | ':' :: rest => some rest
      | _ => none
    else none

/-- Reads an absolute IRI. -/
def scan (cs : List Char) : Except Fault Unit :=
  match cs with
  | ':' :: _ => .error .noScheme
  | _ =>
    match afterScheme? cs with
    | some rest => scanHierarchy rest
    | none => do
      scanRelative cs
      .error .noScheme

/-- The IRI that a text is. -/
def parse (text : String) : Except Fault Iri := (scan text.toList).map fun _ => ⟨text⟩

end Iri

end SolutionAlgebra
