import SolutionAlgebra.Pattern.ClassName
import SolutionAlgebra.Pattern.Flags

/-! # Escapes

What a backslash and the characters after it stand for: a character, a class of characters, or a
condition on a place. Also the pattern that stands for a given text and nothing else. -/

namespace SolutionAlgebra.Pattern

/-- Whether a character has a meaning of its own in patterns. -/
def isMeta (c : Char) : Bool :=
  ['\\', '.', '+', '*', '?', '(', ')', '|', '[', ']', '\x7b', '\x7d', '^', '$', '#', '&', '-',
    '~'].contains c

/-- The pattern that stands for a text, as long as blanks are not skipped. -/
def quote : List Char → List Char
  | [] => []
  | c :: cs => if isMeta c then '\\' :: c :: quote cs else c :: quote cs

/-- Whether a backslash before a character makes it stand for itself. -/
def isEscapable (c : Char) : Bool :=
  isMeta c || (c.toNat < 0x80 && !c.isAlphanum && c != '<' && c != '>')

/-- What an escape stands for. -/
inductive Escape where
  /-- A character. -/
  | char (c : Char)
  /-- A character of a class. -/
  | oneOf (points : Text.CodePoints)
  /-- A condition on a place. -/
  | look (condition : Look)

namespace Escape

/-- The character with a number. Without Unicode, numbers of two digits stand for bytes, of which
only those of ASCII are characters. -/
def numbered? (flags : Flags) (isByte : Bool) (n : Nat) : Option Escape :=
  if !n.isValidChar then none
  else if isByte && !flags.unicode && 0x80 ≤ n then none
  else some (char (Char.ofNat n))

/-- Reads a number of hexadecimal digits, after a number read so far. -/
def digits? (flags : Flags) : Nat → Nat → List Char → Option (Nat × List Char)
  | 0, n, cs => some (n, cs)
  | count + 1, n, cs =>
    match flags.skip cs with
    | [] => none
    | c :: cs => (Text.hexValue? c).bind fun d => digits? flags count (16 * n + d) cs

/-- Reads the hexadecimal number of a character: in braces, or with a given count of digits. -/
def number? (flags : Flags) (count : Nat) (cs : List Char) : Option (Escape × List Char) :=
  match flags.skip cs with
  | '\x7b' :: cs => do
    let (text, rest) ← flags.upToBrace? false cs
    if text.isEmpty then none
    let ds ← text.mapM Text.hexValue?
    let escape ← numbered? flags false (ds.foldl (fun n d => 16 * n + d) 0)
    return (escape, rest)
  | cs => do
    let (n, rest) ← digits? flags count 0 cs
    let escape ← numbered? flags (count == 2) n
    return (escape, rest)

/-- Reads the name of a class: a letter, or a name in braces. -/
def className? (flags : Flags) (cs : List Char) : Option (List Char × List Char) :=
  match flags.skip cs with
  | [] => none
  | '\x7b' :: cs => flags.upToBrace? false cs
  | '\\' :: _ => none
  | c :: cs => some ([c], cs)

/-- Reads a class of Unicode. -/
def class? (flags : Flags) (negated : Bool) (cs : List Char) : Option (Escape × List Char) := do
  if !flags.unicode then none
  let (name, rest) ← className? flags cs
  let points := flags.fold (← classPoints? name)
  return (oneOf (if negated then points.complement else points), rest)

/-- The class with a short name, in upper case if all but its characters are meant. Without Unicode
there is no such class, for its characters would be parts of characters. -/
def shortClass? (flags : Flags) (letter : Char) : Option Escape :=
  match Pattern.shortClass? flags.unicode letter.toLower with
  | none => none
  | some points =>
    if letter.isLower then some (oneOf points)
    else if flags.unicode then some (oneOf points.complement)
    else none

/-- The boundaries that have names. -/
def boundaries : List (String × (Bool → Look)) := [
  ("start", .wordStart), ("end", .wordEnd),
  ("start-half", .wordStartHalf), ("end-half", .wordEndHalf)]

/-- Reads what comes after the letter of a word boundary: the name of a boundary in braces, if there
are braces with something other than the bounds of a repetition. -/
def boundary? (flags : Flags) (cs : List Char) : Option (Escape × List Char) :=
  match cs with
  | '\x7b' :: inner =>
    match flags.skip inner with
    | [] => none
    | c :: _ =>
      if c.isAlpha || c == '-' then do
        let (name, rest) ← flags.upToBrace? false inner
        let boundary ← boundaries.lookup (String.ofList name)
        return (look (boundary flags.unicode), rest)
      else some (look (.wordBoundary flags.unicode), cs)
  | _ => some (look (.wordBoundary flags.unicode), cs)

/-- The escapes of one letter that stand for one character or condition. -/
def simple? (flags : Flags) (letter : Char) : Option Escape :=
  match letter with
  | 'a' => some (char '\x07')
  | 'f' => some (char '\x0c')
  | 't' => some (char '\t')
  | 'n' => some (char '\n')
  | 'r' => some (char '\r')
  | 'v' => some (char '\x0b')
  | 'A' => some (look .textStart)
  | 'z' => some (look .textEnd)
  | 'B' => some (look (.notWordBoundary flags.unicode))
  | '<' => some (look (.wordStart flags.unicode))
  | '>' => some (look (.wordEnd flags.unicode))
  | _ => none

/-- Reads an escape after its backslash. -/
def read? (flags : Flags) : List Char → Option (Escape × List Char)
  | [] => none
  | c :: cs =>
    if isEscapable c then some (char c, cs)
    else match c with
      | 'x' => number? flags 2 cs
      | 'u' => number? flags 4 cs
      | 'U' => number? flags 8 cs
      | 'p' => class? flags false cs
      | 'P' => class? flags true cs
      | 'b' => boundary? flags cs
      | _ => ((shortClass? flags c).or (simple? flags c)).map fun escape => (escape, cs)

end Escape

end SolutionAlgebra.Pattern
