import SolutionAlgebra.Pattern.Node
import SolutionAlgebra.Text.Basic
import SolutionAlgebra.Unicode.Folding

/-! # Flags

How a part of a pattern is to be read. A group may set flags for itself or, as in `(?i)`, for all
that comes after it in the group around it. In an extended pattern blanks stand for nothing, and so
do comments, which go from a number sign to the end of the line. -/

namespace SolutionAlgebra.Pattern

/-- How a part of a pattern is to be read. -/
structure Flags where
  /-- Characters that differ in case only are the same. -/
  ignoreCase : Bool := false
  /-- `^` and `$` hold at the ends of lines as well. -/
  multiLine : Bool := false
  /-- `.` stands for the end of a line as well. -/
  dotAll : Bool := false
  /-- Repetitions prefer to stop, unless a question mark follows them. -/
  swapGreed : Bool := false
  /-- Classes are those of Unicode and not those of ASCII. -/
  unicode : Bool := true
  /-- Carriage returns end lines as well. -/
  carriage : Bool := false
  /-- Blanks and comments stand for nothing. -/
  extended : Bool := false
deriving DecidableEq, Repr

namespace Flags

/-- Sets the flag with a letter. -/
def set? (flags : Flags) (letter : Char) (value : Bool) : Option Flags :=
  match letter with
  | 'i' => some { flags with ignoreCase := value }
  | 'm' => some { flags with multiLine := value }
  | 's' => some { flags with dotAll := value }
  | 'U' => some { flags with swapGreed := value }
  | 'u' => some { flags with unicode := value }
  | 'R' => some { flags with carriage := value }
  | 'x' => some { flags with extended := value }
  | _ => none

/-- Reads the letters of flags up to a colon or a closing parenthesis: the flags, the letters last
to first, and the rest. The letters after a hyphen are unset. Nothing may come twice, and a hyphen
may not come last. -/
def read? (flags : Flags) (seen : List Char) : List Char → Option (Flags × List Char × List Char)
  | [] => none
  | c :: cs =>
    if c == ':' || c == ')' then
      if seen.head? == some '-' then none else some (flags, seen, c :: cs)
    else if seen.contains c then none
    else if c == '-' then read? flags ('-' :: seen) cs
    else (flags.set? c (!seen.contains '-')).bind fun flags => read? flags (c :: seen) cs

/-! ## Case -/

/-- The set with both cases of the letters of ASCII in a set. -/
def foldAscii (points : Text.CodePoints) : Text.CodePoints :=
  points.union (.ofRanges (((List.range 26).filter fun i =>
    points.contains (0x41 + i) || points.contains (0x61 + i)).flatMap fun i =>
      [(0x41 + i, 0x41 + i), (0x61 + i, 0x61 + i)]))

/-- A set with all that differs from it in case only, if case does not matter. -/
def fold (flags : Flags) (points : Text.CodePoints) : Text.CodePoints :=
  if !flags.ignoreCase then points
  else if flags.unicode then Unicode.foldCase points else foldAscii points

/-! ## Blanks and comments -/

/-- The rest of a text after the blanks and comments at its start, or after the comment that it is
in. -/
def skipBlanks (inComment : Bool) : List Char → List Char
  | [] => []
  | c :: cs =>
    if inComment then skipBlanks (c != '\n') cs
    else if Text.isBlank c then skipBlanks false cs
    else if c == '#' then skipBlanks true cs
    else c :: cs

/-- The rest of a pattern after what stands for nothing. -/
def skip (flags : Flags) (cs : List Char) : List Char :=
  if flags.extended then skipBlanks false cs else cs

/-- The text up to a closing brace, less what stands for nothing, and the rest after the brace. -/
def upToBrace? (flags : Flags) (inComment : Bool) : List Char → Option (List Char × List Char)
  | [] => none
  | c :: cs =>
    if inComment then upToBrace? flags (c != '\n') cs
    else if c == '\x7d' then some ([], cs)
    else if flags.extended && Text.isBlank c then upToBrace? flags false cs
    else if flags.extended && c == '#' then upToBrace? flags true cs
    else (upToBrace? flags false cs).map fun (text, rest) => (c :: text, rest)

/-- Nothing is skipped unless the flag `x` is set. -/
@[simp] theorem skip_of_not_extended {flags : Flags} (h : flags.extended = false)
    (cs : List Char) : flags.skip cs = cs := by
  simp [skip, h]

end Flags

end SolutionAlgebra.Pattern
