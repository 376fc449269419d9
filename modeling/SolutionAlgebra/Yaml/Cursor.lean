/-! # Places in a YAML text

A place in a text is known by its line and column, for the columns at which things start tell what
belongs to what. Carriage returns, line feeds, both together, and three further characters end
lines. -/

namespace SolutionAlgebra.Yaml

/-- Whether a character ends a line. -/
def isBreak (c : Char) : Bool :=
  c == '\n' || c == '\r' || c == '\u0085' || c == '\u2028' || c == '\u2029'

/-- Whether a character is a blank within a line. -/
def isBlank (c : Char) : Bool := c == ' ' || c == '\t'

/-- Whether there is a character, and it is neither a blank nor the end of a line. -/
def isInk (c : Option Char) : Bool := c.any fun c => !(isBlank c || isBreak c)

/-- Whether a character may be part of a name. -/
def isNameChar (c : Char) : Bool := c.isAlphanum || c == '_' || c == '-'

/-- Whether a character may come in a text. -/
def isAllowed (c : Char) : Bool :=
  let n := c.toNat
  n == 9 || n == 0xA || n == 0xD || (0x20 ≤ n && n ≤ 0x7E) || n == 0x85 ||
    (0xA0 ≤ n && n ≤ 0xFFFD && n != 0xFEFF) || 0x10000 ≤ n

/-- A place in a text. -/
structure Cursor where
  /-- What comes from the place on. -/
  rest : List Char
  /-- The number of lines before. -/
  line : Nat := 0
  /-- The number of characters before in the line. -/
  column : Nat := 0
  /-- The number of characters before in the text. -/
  index : Nat := 0
deriving DecidableEq, Repr

namespace Cursor

/-- The character at the place. -/
def head? (cursor : Cursor) : Option Char := cursor.rest.head?

/-- The character after the one at the place. -/
def second? (cursor : Cursor) : Option Char := cursor.rest[1]?

/-- The place after a number of characters of the line. -/
def advance (cursor : Cursor) (n : Nat) : Cursor :=
  { cursor with
    rest := cursor.rest.drop n, column := cursor.column + n, index := cursor.index + n }

/-- The place after the character at the place. -/
def next (cursor : Cursor) : Cursor := cursor.advance 1

/-- The place at the start of a line, after some characters. -/
def startLine (cursor : Cursor) (rest : List Char) (n : Nat) : Cursor :=
  ⟨rest, cursor.line + 1, 0, cursor.index + n⟩

/-- The end of a line as it counts in a text, and the place after it. -/
def takeBreak (cursor : Cursor) : List Char × Cursor :=
  match cursor.rest with
  | '\r' :: '\n' :: rest => (['\n'], cursor.startLine rest 2)
  | c :: rest =>
    if c == '\u2028' || c == '\u2029' then ([c], cursor.startLine rest 1)
    else if isBreak c then (['\n'], cursor.startLine rest 1)
    else ([], cursor)
  | [] => ([], cursor)

/-- The characters of a class at the place, and the place after them. -/
def takeWhile (p : Char → Bool) (cursor : Cursor) : List Char × Cursor :=
  let cs := cursor.rest.takeWhile p
  (cs, cursor.advance cs.length)

/-- The place after the characters of a class. -/
def skipWhile (p : Char → Bool) (cursor : Cursor) : Cursor := (cursor.takeWhile p).2

/-- The place after a comment, if one starts at the place. -/
def skipComment (cursor : Cursor) : Cursor :=
  if cursor.head? == some '#' then cursor.skipWhile fun c => !isBreak c else cursor

/-- Whether a line starts at the place with a mark of three characters on its own. -/
def isMark (cursor : Cursor) (c : Char) : Bool :=
  cursor.column == 0 && cursor.rest.take 3 == [c, c, c] && !isInk cursor.rest[3]?

/-- Whether a mark of the start or the end of a document is at the place. -/
def atDocumentMark (cursor : Cursor) : Bool := cursor.isMark '-' || cursor.isMark '.'

end Cursor

end SolutionAlgebra.Yaml
