import SolutionAlgebra.Text.CodePoints
import SolutionAlgebra.Yaml.Cursor

/-! # Scalars

A scalar is written plainly, in quotes, or as a block of lines. In a plain or quoted scalar one end
of a line with the blanks around it counts as a blank, and of several the first counts for nothing.
The same goes for folded blocks, but there indented lines keep their ends. -/

namespace SolutionAlgebra.Yaml

/-- How a scalar is written. -/
inductive Style where
  /-- Without quotes. -/
  | plain
  /-- In single or double quotes. -/
  | quoted
  /-- As a block that keeps the ends of lines. -/
  | literal
  /-- As a block that folds lines. -/
  | folded
deriving DecidableEq, Repr

/-! ## Gaps -/

/-- What stands between two parts of a scalar. -/
inductive Gap where
  /-- Blanks in a line. -/
  | blanks (cs : List Char)
  /-- Ends of lines, of which the first may count for nothing in any case. -/
  | breaks (first further : List Char)

namespace Gap

/-- What a gap counts as. -/
def text : Gap → List Char
  | blanks cs => cs
  | breaks first further =>
    if first == ['\n'] then (if further.isEmpty then [' '] else further) else first ++ further

/-- A gap with a further end of a line. -/
def addBreak : Gap → List Char → Gap
  | blanks _, b => breaks b []
  | breaks first further, b => breaks first (further ++ b)

/-- Whether a gap has an end of a line. -/
def hasBreak : Gap → Bool
  | blanks _ => false
  | breaks _ _ => true

/-- Reads a gap. A tab may not come before a given column at the start of a line. -/
def read? (margin : Nat) : Nat → Gap → Cursor → Option (Gap × Cursor)
  | 0, gap, cursor => some (gap, cursor)
  | steps + 1, gap, cursor =>
    match cursor.head?, gap with
    | none, _ => some (gap, cursor)
    | some c, gap =>
      if isBreak c then
        let (b, cursor) := cursor.takeBreak
        read? margin steps (gap.addBreak b) cursor
      else if !isBlank c then some (gap, cursor)
      else match gap with
        | blanks cs => read? margin steps (blanks (cs ++ [c])) cursor.next
        | gap =>
          if c == '\t' && cursor.column < margin then none
          else read? margin steps gap cursor.next

end Gap

/-! ## Plain scalars -/

/-- The characters that end a plain scalar between braces. -/
def isFlowEnd (c : Char) : Bool := [',', '[', ']', '\x7b', '\x7d'].contains c

/-- Reads the part of a plain scalar up to a blank. Between braces a colon may not come before a
character that ends the scalar. -/
def plainRun? (inFlow : Bool) : List Char → Option (List Char)
  | [] => some []
  | c :: cs =>
    if !isInk (some c) || (c == ':' && !isInk cs.head?) || (inFlow && isFlowEnd c) then some []
    else if inFlow && c == ':' && cs.head?.any fun d => d == '?' || isFlowEnd d then none
    else (plainRun? inFlow cs).map (c :: ·)

/-- Reads the parts of a plain scalar after a gap: its text, whether a line has ended after it, and
the place after it. -/
def plainParts? (inFlow : Bool) (margin : Nat) :
    Nat → List Char → Gap → Cursor → Option (List Char × Bool × Cursor)
  | 0, text, gap, cursor => some (text, gap.hasBreak, cursor)
  | steps + 1, text, gap, cursor =>
    if cursor.atDocumentMark || cursor.head? == some '#' then some (text, gap.hasBreak, cursor)
    else do
      let run ← plainRun? inFlow cursor.rest
      if run.isEmpty then return (text, gap.hasBreak, cursor)
      let text := text ++ gap.text ++ run
      let (gap, cursor) ← Gap.read? margin cursor.rest.length (.blanks [])
        (cursor.advance run.length)
      if !inFlow && cursor.column < margin then return (text, gap.hasBreak, cursor)
      plainParts? inFlow margin steps text gap cursor

/-- Reads a plain scalar. -/
def plain? (inFlow : Bool) (margin : Nat) (cursor : Cursor) :
    Option (List Char × Bool × Cursor) :=
  plainParts? inFlow margin (cursor.rest.length + 1) [] (.blanks []) cursor

/-! ## Quoted scalars -/

/-- The characters that escapes of one letter stand for. -/
def escapes : List (Char × Char) := [
  ('0', '\x00'), ('a', '\x07'), ('b', '\x08'), ('t', '\t'), ('\t', '\t'), ('n', '\n'),
  ('v', '\x0b'), ('f', '\x0c'), ('r', '\r'), ('e', '\x1b'), (' ', ' '), ('"', '"'), ('/', '/'),
  ('\\', '\\'), ('N', '\u0085'), ('_', '\u00a0'), ('L', '\u2028'), ('P', '\u2029')]

/-- The number of digits after the letter of an escape by number. -/
def digitCounts : List (Char × Nat) := [('x', 2), ('u', 4), ('U', 8)]

/-- Reads an escape after its backslash: the character, and how long the escape is. -/
def escape? : List Char → Option (Char × Nat)
  | [] => none
  | c :: cs =>
    match escapes.lookup c, digitCounts.lookup c with
    | some d, _ => some (d, 1)
    | none, some count => do
      let ds ← (cs.take count).mapM Text.hexValue?
      let n := ds.foldl (fun n d => 16 * n + d) 0
      if ds.length = count ∧ n.isValidChar then return (Char.ofNat n, count + 1) else none
    | none, none => none

/-- Reads the part of a quoted scalar up to a blank or its closing quote: its text, whether an
escaped end of a line comes after it, and the place after it. -/
def quotedRun? (quote : Char) :
    Nat → List Char → Cursor → Option (List Char × Bool × Cursor)
  | 0, _, _ => none
  | steps + 1, text, cursor =>
    match cursor.rest with
    | [] => some (text, false, cursor)
    | c :: cs =>
      if !isInk (some c) then some (text, false, cursor)
      else if c == quote then
        if quote == '\x27' && cs.head? == some quote then
          quotedRun? quote steps (text ++ [quote]) (cursor.advance 2)
        else some (text, false, cursor)
      else if quote == '"' && c == '\\' then
        if cs.head?.any isBreak then some (text, true, cursor.next.takeBreak.2)
        else (escape? cs).bind fun (d, length) =>
          quotedRun? quote steps (text ++ [d]) (cursor.advance (length + 1))
      else quotedRun? quote steps (text ++ [c]) cursor.next

/-- Reads the parts of a quoted scalar after its opening quote. -/
def quotedParts? (quote : Char) : Nat → List Char → Cursor → Option (List Char × Cursor)
  | 0, _, _ => none
  | steps + 1, text, cursor =>
    if cursor.atDocumentMark || cursor.rest.isEmpty then none
    else do
      let (text, escaped, cursor) ← quotedRun? quote (cursor.rest.length + 1) text cursor
      if cursor.head? == some quote then return (text, cursor.next)
      let start := if escaped then Gap.breaks [] [] else Gap.blanks []
      let (gap, cursor) ← Gap.read? 0 cursor.rest.length start cursor
      quotedParts? quote steps (text ++ gap.text) cursor

/-- Reads a quoted scalar from its opening quote on. -/
def quoted? (quote : Char) (cursor : Cursor) : Option (List Char × Cursor) :=
  quotedParts? quote (cursor.rest.length + 1) [] cursor.next

/-! ## Blocks -/

/-- What becomes of the ends of lines at the end of a block. -/
inductive Chomping where
  /-- None is kept. -/
  | strip
  /-- One is kept. -/
  | clip
  /-- All are kept. -/
  | keep
deriving DecidableEq, Repr

/-- What a sign after the indicator of a block makes of the ends of lines. -/
def Chomping.ofSign? (sign : Char) : Option Chomping :=
  match sign with
  | '+' => some keep
  | '-' => some strip
  | _ => none

/-- Reads a digit, which may not be zero. -/
def indentDigit? (cursor : Cursor) : Option (Nat × Cursor) :=
  match cursor.head? with
  | some c =>
    if !c.isDigit then some (0, cursor)
    else if c == '0' then none
    else some (c.toNat - 48, cursor.next)
  | none => some (0, cursor)

/-- Reads the sign and the digit after the indicator of a block, in any order. The digit is zero if
there is none. -/
def blockHeader? (cursor : Cursor) : Option (Chomping × Nat × Cursor) := do
  match cursor.head?.bind Chomping.ofSign? with
  | some chomping =>
    let (digit, cursor) ← indentDigit? cursor.next
    return (chomping, digit, cursor)
  | none =>
    let (digit, after) ← indentDigit? cursor
    match if digit == 0 then none else after.head?.bind Chomping.ofSign? with
    | some chomping => return (chomping, digit, after.next)
    | none => return (.clip, digit, after)

/-- Reads empty lines and the indentation of the line after them: the ends of the lines, the
greatest column, and the place. Where the indentation is not known it goes as far as there are
blanks. -/
def blockBreaks? (indent : Option Nat) :
    Nat → List Char → Nat → Cursor → Option (List Char × Nat × Cursor)
  | 0, breaks, deepest, cursor => some (breaks, deepest, cursor)
  | steps + 1, breaks, deepest, cursor =>
    let blanks := (cursor.takeWhile (· == ' ')).1.length
    let cursor := cursor.advance (match indent with
      | none => blanks
      | some indent => min blanks (indent - cursor.column))
    let deepest := max deepest cursor.column
    if cursor.head? == some '\t' && indent.all (cursor.column < ·) then none
    else if cursor.head?.any isBreak then
      let (b, cursor) := cursor.takeBreak
      blockBreaks? indent steps (breaks ++ b) deepest cursor
    else some (breaks, deepest, cursor)

/-- A block that is being read. -/
structure Block where
  /-- The text so far. -/
  text : List Char := []
  /-- The end of the last line. -/
  lineEnd : List Char := []
  /-- The ends of the empty lines after it. -/
  breaks : List Char := []
  /-- Whether the last line is indented further. -/
  isIndented : Bool := false

namespace Block

/-- The text with what stands between the last line and the next. -/
def joined (block : Block) (folded isIndented : Bool) : List Char :=
  if folded && block.lineEnd == ['\n'] && !block.isIndented && !isIndented then
    block.text ++ (if block.breaks.isEmpty then [' '] else []) ++ block.breaks
  else block.text ++ block.lineEnd ++ block.breaks

/-- Reads the lines of a block, all of which have the same indentation. -/
def lines? (folded : Bool) (indent : Nat) : Nat → Block → Cursor → Option (Block × Cursor)
  | 0, block, cursor => some (block, cursor)
  | steps + 1, block, cursor =>
    if cursor.column != indent || cursor.rest.isEmpty then some (block, cursor)
    else do
      let isIndented := cursor.head?.any isBlank
      let (line, after) := cursor.takeWhile fun c => !isBreak c
      let (lineEnd, after) := after.takeBreak
      let (breaks, _, after) ← blockBreaks? (some indent) after.rest.length [] 0 after
      lines? folded indent steps
        ⟨block.joined folded isIndented ++ line, lineEnd, breaks, isIndented⟩ after

/-- The text of a block that has ended. -/
def close (block : Block) : Chomping → List Char
  | .strip => block.text
  | .clip => block.text ++ block.lineEnd
  | .keep => block.text ++ block.lineEnd ++ block.breaks

end Block

/-- Reads a block from its indicator on. It is indented further than what is around it, whose
content starts at the margin. -/
def block? (folded : Bool) (margin : Nat) (cursor : Cursor) : Option (List Char × Cursor) := do
  let (chomping, digit, cursor) ← blockHeader? cursor.next
  let cursor := (cursor.skipWhile isBlank).skipComment
  if !cursor.rest.isEmpty && !cursor.head?.any isBreak then none
  let cursor := cursor.takeBreak.2
  let given := if digit == 0 then none else some (margin - 1 + digit)
  let (breaks, deepest, cursor) ← blockBreaks? given (cursor.rest.length + 1) [] 0 cursor
  let indent := given.getD (max deepest (max margin 1))
  let (block, cursor) ← Block.lines? folded indent (cursor.rest.length + 1)
    { breaks := breaks } cursor
  return (block.close chomping, cursor)

end SolutionAlgebra.Yaml
