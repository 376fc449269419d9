import SolutionAlgebra.Yaml.Tag

/-! # Tokens and layout

The tokens of a YAML text. Outside of braces the columns at which things start make the tokens that
start and end mappings: a mapping starts where a key stands further to the right than what is around
it, and ends where something stands further to the left.

A key is known as such only by the colon after it. So each place where a key may have started is
remembered until the line ends, and the token of the key is put there once a colon comes. Settings
hold no sequences, and a text with one is refused. -/

namespace SolutionAlgebra.Yaml

/-- A token. -/
inductive Token where
  /-- A directive. -/
  | directive (directive : Directive)
  /-- The mark of the start of a document. -/
  | documentStart
  /-- The mark of the end of a document. -/
  | documentEnd
  /-- The start of a mapping by layout. -/
  | blockStart
  /-- The end of a mapping by layout. -/
  | blockEnd
  /-- The start of a mapping in braces. -/
  | flowStart
  /-- The end of a mapping in braces. -/
  | flowEnd
  /-- A comma between the entries of a mapping in braces. -/
  | comma
  /-- The start of a key. -/
  | key
  /-- The start of a value. -/
  | value
  /-- A reference to a node by name. -/
  | reference (name : List Char)
  /-- A name for the node to come. -/
  | anchor (name : List Char)
  /-- A tag for the node to come. -/
  | tag (tag : Tag)
  /-- A scalar. -/
  | scalar (text : List Char) (style : Style)
deriving DecidableEq, Repr

/-- A place where a key may have started. -/
structure KeyPlace where
  /-- The number of tokens before the key. -/
  position : Nat
  /-- Whether nothing but a key may be there. -/
  isRequired : Bool
  /-- Where the key starts. -/
  cursor : Cursor

/-- How far a text has been split into tokens. -/
structure Layout where
  /-- The place. -/
  cursor : Cursor
  /-- The tokens. -/
  tokens : Array Token := #[]
  /-- The column from which on the content of the innermost mapping starts, which is one more than
  the column of its keys, and zero outside of mappings. -/
  margin : Nat := 0
  /-- The margins of the mappings around it, from the inside out. -/
  outer : List Nat := []
  /-- Whether a key may start at the place. -/
  keyAllowed : Bool := true
  /-- Where a key may have started outside of braces, or between the innermost ones. -/
  keyPlace : Option KeyPlace := none
  /-- Where keys may have started between the braces around, from the inside out. -/
  outerPlaces : List (Option KeyPlace) := []

namespace Layout

/-- Whether the place is between braces. -/
def inFlow (layout : Layout) : Bool := !layout.outerPlaces.isEmpty

/-- Adds a token. -/
def add (layout : Layout) (token : Token) : Layout :=
  { layout with tokens := layout.tokens.push token }

/-- Adds a token, and goes on at a place. -/
def take (layout : Layout) (token : Token) (cursor : Cursor) : Layout :=
  { layout.add token with cursor := cursor }

/-- Puts a token at a position. -/
def insert (layout : Layout) (position : Nat) (token : Token) : Layout :=
  { layout with
    tokens := (layout.tokens.take position).push token ++ layout.tokens.drop position }

/-! ## Mappings by layout -/

/-- Starts a mapping at a position, if a column is further to the right than what is around it. -/
def indentTo (layout : Layout) (column position : Nat) : Layout :=
  if layout.inFlow || column < layout.margin then layout
  else
    { layout.insert position .blockStart with
      margin := column + 1, outer := layout.margin :: layout.outer }

/-- Ends the mappings whose margins lie to the right of a given one. -/
def endBlocks (margin : Nat) (inner : Nat) (tokens : Array Token) :
    List Nat → Nat × List Nat × Array Token
  | [] => (inner, [], tokens)
  | around :: outer =>
    if margin < inner then endBlocks margin around (tokens.push .blockEnd) outer
    else (inner, around :: outer, tokens)

/-- Ends the mappings whose margins lie to the right of a given one. Between braces layout does not
matter. -/
def unindentTo (layout : Layout) (margin : Nat) : Layout :=
  if layout.inFlow then layout
  else
    let (inner, outer, tokens) := endBlocks margin layout.margin layout.tokens layout.outer
    { layout with margin := inner, outer := outer, tokens := tokens }

/-! ## Keys -/

/-- Forgets where a key may have started. A key that is required is missed. -/
def forgetKey? (layout : Layout) : Option Layout :=
  match layout.keyPlace with
  | some place => if place.isRequired then none else some { layout with keyPlace := none }
  | none => some layout

/-- The length that a key may have. -/
def keyLimit : Nat := 1024

/-- Whether a place is out of reach for a colon: it is in an earlier line, or too far away. -/
def KeyPlace.isStale (place : KeyPlace) (cursor : Cursor) : Bool :=
  place.cursor.line < cursor.line || place.cursor.index + keyLimit < cursor.index

/-- Whether a required key is missed for good. -/
def missesKey (cursor : Cursor) (place : Option KeyPlace) : Bool :=
  place.any fun place => KeyPlace.isStale place cursor && place.isRequired

/-- Forgets the places that are out of reach. -/
def forgetStale? (layout : Layout) : Option Layout :=
  let places := layout.keyPlace :: layout.outerPlaces
  if places.any (missesKey layout.cursor) then none
  else
    let fresh (place : Option KeyPlace) := place.filter fun p => !KeyPlace.isStale p layout.cursor
    some { layout with
      keyPlace := fresh layout.keyPlace, outerPlaces := layout.outerPlaces.map fresh }

/-- Remembers that a key may start at the place. -/
def rememberKey? (layout : Layout) : Option Layout :=
  if !layout.keyAllowed then some layout
  else do
    let layout ← layout.forgetKey?
    let isRequired := !layout.inFlow && layout.margin == layout.cursor.column + 1
    return { layout with keyPlace := some ⟨layout.tokens.size, isRequired, layout.cursor⟩ }

/-! ## Tokens -/

/-- The place after blanks, comments and the ends of lines. Outside of braces a key may start in a
new line; where a key may start, tabs are no blanks. -/
def skipBlanks : Nat → Layout → Layout
  | 0, layout => layout
  | steps + 1, layout =>
    let isSkipped (c : Char) := c == ' ' || (c == '\t' && (layout.inFlow || !layout.keyAllowed))
    let cursor := (layout.cursor.skipWhile isSkipped).skipComment
    if cursor.head?.any isBreak then
      skipBlanks steps { layout with
        cursor := cursor.takeBreak.2, keyAllowed := layout.keyAllowed || !layout.inFlow }
    else { layout with cursor := cursor }

/-- Reads a mark of the start or end of a document. -/
def mark? (layout : Layout) (token : Token) : Option Layout := do
  let layout ← (layout.unindentTo 0).forgetKey?
  return { layout.take token (layout.cursor.advance 3) with keyAllowed := false }

/-- Reads a directive. -/
def readDirective? (layout : Layout) : Option Layout := do
  let layout ← (layout.unindentTo 0).forgetKey?
  let (directive, after) ← directive? layout.cursor
  return { layout.take (.directive directive) after with keyAllowed := false }

/-- Reads an opening brace. -/
def openBrace? (layout : Layout) : Option Layout := do
  let layout ← layout.rememberKey?
  return { layout.take .flowStart layout.cursor.next with
    keyAllowed := true
    keyPlace := none
    outerPlaces := layout.keyPlace :: layout.outerPlaces }

/-- Reads a closing brace. -/
def closeBrace? (layout : Layout) : Option Layout := do
  let layout ← layout.forgetKey?
  let layout := { layout.take .flowEnd layout.cursor.next with keyAllowed := false }
  match layout.outerPlaces with
  | [] => return layout
  | place :: places => return { layout with keyPlace := place, outerPlaces := places }

/-- Reads a comma. -/
def readComma? (layout : Layout) : Option Layout := do
  let layout ← layout.forgetKey?
  return { layout.take .comma layout.cursor.next with keyAllowed := true }

/-- Starts a mapping at the place, where a key has to be allowed. -/
def startHere? (layout : Layout) : Option Layout :=
  if layout.inFlow then some layout
  else if layout.keyAllowed then
    some (layout.indentTo layout.cursor.column layout.tokens.size)
  else none

/-- Reads the sign of a key. -/
def readKey? (layout : Layout) : Option Layout := do
  let layout ← (← layout.startHere?).forgetKey?
  return { layout.take .key layout.cursor.next with keyAllowed := !layout.inFlow }

/-- Reads the sign of a value. What comes before it is the key, if a key may have started there. -/
def readValue? (layout : Layout) : Option Layout := do
  match layout.keyPlace with
  | some place =>
    let layout := (layout.insert place.position .key).indentTo place.cursor.column place.position
    return { layout.take .value layout.cursor.next with keyPlace := none, keyAllowed := false }
  | none =>
    let layout ← layout.startHere?
    return { layout.take .value layout.cursor.next with keyAllowed := !layout.inFlow }

/-- The characters that may come after a name, besides blanks. -/
def nameEnds : List Char := ['?', ':', ',', ']', '\x7d', '%', '@', '\x60']

/-- Reads the name of a node or a reference to it. -/
def readName? (layout : Layout) (token : List Char → Token) : Option Layout := do
  let layout ← layout.rememberKey?
  let (name, after) := layout.cursor.next.takeWhile isNameChar
  if name.isEmpty || (isInk after.head? && !after.head?.any nameEnds.contains) then none
  return { layout.take (token name) after with keyAllowed := false }

/-- Reads a tag. -/
def readTag? (layout : Layout) : Option Layout := do
  let layout ← layout.rememberKey?
  let (tag, after) ← tag? layout.inFlow layout.cursor
  return { layout.take (.tag tag) after with keyAllowed := false }

/-- Reads a block. -/
def readBlock? (layout : Layout) (folded : Bool) : Option Layout := do
  let layout ← layout.forgetKey?
  let (text, after) ← block? folded layout.margin layout.cursor
  return { layout.take (.scalar text (if folded then .folded else .literal)) after with
    keyAllowed := true }

/-- Reads a quoted scalar. -/
def readQuoted? (layout : Layout) (quote : Char) : Option Layout := do
  let layout ← layout.rememberKey?
  let (text, after) ← quoted? quote layout.cursor
  return { layout.take (.scalar text .quoted) after with keyAllowed := false }

/-- Reads a plain scalar. A key may start after it if its line has ended. -/
def readPlain? (layout : Layout) : Option Layout := do
  let layout ← layout.rememberKey?
  let (text, brokeLine, after) ← plain? layout.inFlow layout.margin layout.cursor
  return { layout.take (.scalar text .plain) after with keyAllowed := brokeLine }

/-- The characters that no plain scalar starts with, unless ink comes after some of them. -/
def indicators : List Char :=
  ['-', '?', ':', ',', '[', ']', '\x7b', '\x7d', '#', '&', '*', '!', '|', '>', '\x27', '"', '%',
    '@', '\x60']

/-- Whether a plain scalar starts with a character that another comes after. -/
def startsPlain (inFlow : Bool) (c : Char) (after : Option Char) : Bool :=
  (isInk (some c) && !indicators.contains c) || (c == '-' && !after.any isBlank) ||
    (!inFlow && (c == '?' || c == ':') && isInk after)

/-- Reads a token that starts with a character. -/
def readToken? (layout : Layout) (c : Char) : Option Layout :=
  let after := layout.cursor.second?
  if layout.cursor.column == 0 && c == '%' then layout.readDirective?
  else if layout.cursor.isMark '-' then layout.mark? .documentStart
  else if layout.cursor.isMark '.' then layout.mark? .documentEnd
  else match c with
    | '\x7b' => layout.openBrace?
    | '\x7d' => layout.closeBrace?
    | ',' => layout.readComma?
    | '*' => layout.readName? .reference
    | '&' => layout.readName? .anchor
    | '!' => layout.readTag?
    | '\x27' | '"' => layout.readQuoted? c
    | _ =>
      if c == '?' && (layout.inFlow || !isInk after) then layout.readKey?
      else if c == ':' && (layout.inFlow || !isInk after) then layout.readValue?
      else if c == '-' && !isInk after then none
      else if c == '|' && !layout.inFlow then layout.readBlock? false
      else if c == '>' && !layout.inFlow then layout.readBlock? true
      else if startsPlain layout.inFlow c after then layout.readPlain?
      else none

/-- Goes on to the next token: past what stands for nothing, out of the mappings that have ended. -/
def settle? (layout : Layout) : Option Layout := do
  let layout ← (skipBlanks (layout.cursor.rest.length + 1) layout).forgetStale?
  return layout.unindentTo (layout.cursor.column + 1)

/-- Splits a text into tokens, of which each takes a character at least. -/
def tokens? : Nat → Layout → Option (Array Token)
  | 0, _ => none
  | steps + 1, layout => do
    let layout ← layout.settle?
    match layout.cursor.head? with
    | none => do return (← (layout.unindentTo 0).forgetKey?).tokens
    | some c => tokens? steps (← layout.readToken? c)

end Layout

/-- The tokens of a text. A byte order mark may come first. -/
def tokens? (cs : List Char) : Option (List Token) :=
  let cs := match cs with
    | '\ufeff' :: cs => cs
    | cs => cs
  if cs.all isAllowed then
    (Layout.tokens? (cs.length + 2) { cursor := ⟨cs, 0, 0, 0⟩ }).map Array.toList
  else none

end SolutionAlgebra.Yaml
