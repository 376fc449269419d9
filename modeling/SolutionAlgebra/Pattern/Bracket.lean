import SolutionAlgebra.Pattern.Escape

/-! # Bracketed classes

A class of characters in brackets: single characters, ranges, escapes, classes of ASCII such as
`[:alpha:]`, and further brackets. Sets of them are combined by `&&`, `--` and `~~`, from left to
right. -/

namespace SolutionAlgebra.Pattern

/-- A set of characters, and how deep the brackets are that describe it. -/
structure Nested where
  /-- The characters. -/
  points : Text.CodePoints
  /-- The depth of the description. -/
  depth : Nat := 0

/-- How two sets are combined. -/
inductive SetOperator where
  /-- What the sets share. -/
  | intersection
  /-- What the second set leaves of the first. -/
  | difference
  /-- What is in one of the sets only. -/
  | symmetricDifference
deriving DecidableEq, Repr

/-- The sets combined. -/
def SetOperator.apply : SetOperator → Text.CodePoints → Text.CodePoints → Text.CodePoints
  | intersection => .intersection
  | difference => .difference
  | symmetricDifference => .symmetricDifference

/-- A bracket that is being read. -/
structure Bracket where
  /-- Whether all but the characters of the class are meant. -/
  negated : Bool
  /-- The operand before the last operator, with that operator. -/
  left : Option (Nested × SetOperator) := none
  /-- The items since, last to first. -/
  items : List Nested := []
  /-- Whether nothing but hyphens has been read. -/
  isFresh : Bool := true

namespace Bracket

/-- Adds an item. -/
def add (bracket : Bracket) (item : Nested) : Bracket :=
  { bracket with items := item :: bracket.items, isFresh := false }

/-- The items in one set. -/
def union : List Nested → Nested
  | [] => ⟨.empty, 0⟩
  | [item] => item
  | items => ⟨.unions (items.map Nested.points), (items.foldl (fun d i => max d i.depth) 0) + 1⟩

/-- The set that a bracket describes so far, before it is negated. -/
def operand (flags : Flags) (bracket : Bracket) : Nested :=
  let right := union bracket.items
  match bracket.left with
  | none => right
  | some (left, op) =>
    ⟨op.apply (flags.fold left.points) (flags.fold right.points), max left.depth right.depth + 1⟩

/-- Reads an operator. -/
def operate (flags : Flags) (bracket : Bracket) (op : SetOperator) : Bracket :=
  { bracket with left := some (bracket.operand flags, op), items := [], isFresh := false }

/-- The set that a bracket describes. -/
def close? (flags : Flags) (bracket : Bracket) : Option Nested :=
  let set := bracket.operand flags
  let points := flags.fold set.points
  if !bracket.negated then some ⟨points, set.depth + 1⟩
  else if flags.unicode then some ⟨points.complement, set.depth + 1⟩
  else none

/-- The bracket that starts after an opening bracket, and the rest. -/
def open_ (flags : Flags) (cs : List Char) : Bracket × List Char :=
  match flags.skip cs with
  | '^' :: rest => (⟨true, none, [], true⟩, rest)
  | rest => (⟨false, none, [], true⟩, rest)

/-! ## Items -/

/-- Reads a single item: an escape or a character. -/
def item? (flags : Flags) : List Char → Option (Escape × List Char)
  | [] => none
  | '\\' :: cs => Escape.read? flags cs
  | c :: cs => some (.char c, cs)

/-- The code point of a character of a class. Without Unicode it has to be one of ASCII. -/
def code? (flags : Flags) (c : Char) : Option Nat :=
  if flags.unicode || c.toNat < 0x80 then some c.toNat else none

/-- The set that a single item describes. -/
def itemPoints? (flags : Flags) : Escape → Option Text.CodePoints
  | .char c => (code? flags c).map .single
  | .oneOf points => some points
  | .look _ => none

/-- The character that decides whether a hyphen stands in a range, from those after the hyphen. Of a
comment it is the first one that is not blank. -/
def peek? (flags : Flags) (cs : List Char) : Option Char :=
  if !flags.extended then cs.head?
  else match Text.trimStart cs with
    | '#' :: comment => (Text.trimStart comment).head?
    | cs => cs.head?

/-- Reads an item or a range. -/
def range? (flags : Flags) (cs : List Char) : Option (Text.CodePoints × List Char) := do
  let (first, rest) ← item? flags cs
  match flags.skip rest with
  | [] => none
  | '-' :: after =>
    if peek? flags after == some ']' || peek? flags after == some '-' then
      return (← itemPoints? flags first, '-' :: after)
    let (last, rest) ← item? flags (flags.skip after)
    match first, last with
    | .char a, .char b =>
      let low ← code? flags a
      let high ← code? flags b
      if low ≤ high then return (⟨#[(low, high)]⟩, rest) else none
    | _, _ => none
  | rest => return (← itemPoints? flags first, rest)

/-- Reads a class of ASCII after its opening bracket: its characters, whether all but these are
meant, and the rest. -/
def asciiClass? : List Char → Option (Text.CodePoints × Bool × List Char)
  | ':' :: '^' :: cs => (named? cs).map fun (points, rest) => (points, true, rest)
  | ':' :: cs => (named? cs).map fun (points, rest) => (points, false, rest)
  | _ => none
where
  /-- Reads the name of a class and what closes it. -/
  named? (cs : List Char) : Option (Text.CodePoints × List Char) := do
    match ← Text.cutAt? ':' cs with
    | (name, ']' :: rest) => return (← asciiPoints? (String.ofList name), rest)
    | _ => none

/-! ## Reading -/

/-- What reading a part of a class comes to. -/
inductive Step where
  /-- There is more to read: the innermost bracket, those around it, and the rest. -/
  | more (bracket : Bracket) (outer : List Bracket) (rest : List Char)
  /-- The class has ended. -/
  | ended (set : Nested) (rest : List Char)

/-- Reads a part of a class, where nothing is left to skip. -/
def step? (flags : Flags) (bracket : Bracket) (outer : List Bracket) :
    List Char → Option Step
  | [] => none
  | '[' :: cs =>
    match asciiClass? cs with
    | some (points, false, rest) =>
      some (.more (bracket.add ⟨flags.fold points, 0⟩) outer rest)
    | some (points, true, rest) =>
      if flags.unicode then
        some (.more (bracket.add ⟨(flags.fold points).complement, 0⟩) outer rest)
      else none
    | none =>
      let (inner, rest) := open_ flags cs
      some (.more inner ({ bracket with isFresh := false } :: outer) rest)
  | ']' :: cs =>
    if bracket.isFresh && bracket.items.isEmpty then
      some (.more (bracket.add ⟨.single 0x5D, 0⟩) outer cs)
    else do
      let set ← bracket.close? flags
      match outer with
      | [] => return .ended set cs
      | around :: outer => return .more (around.add set) outer cs
  | '-' :: cs =>
    if bracket.isFresh then
      some (.more { bracket.add ⟨.single 0x2D, 0⟩ with isFresh := true } outer cs)
    else match cs with
      | '-' :: rest => some (.more (bracket.operate flags .difference) outer rest)
      | _ => item ('-' :: cs)
  | '&' :: '&' :: cs => some (.more (bracket.operate flags .intersection) outer cs)
  | '~' :: '~' :: cs => some (.more (bracket.operate flags .symmetricDifference) outer cs)
  | cs => item cs
where
  /-- Reads an item or a range. -/
  item (cs : List Char) : Option Step :=
    (range? flags cs).map fun (points, rest) => .more (bracket.add ⟨points, 0⟩) outer rest

/-- Reads a class, of which each step reads a character at least. -/
def readSteps? (flags : Flags) : Nat → Bracket → List Bracket → List Char →
    Option (Nested × List Char)
  | 0, _, _, _ => none
  | steps + 1, bracket, outer, cs =>
    match step? flags bracket outer (flags.skip cs) with
    | none => none
    | some (.ended set rest) => some (set, rest)
    | some (.more bracket outer rest) => readSteps? flags steps bracket outer rest

/-- Reads a class after its opening bracket. -/
def read? (flags : Flags) (cs : List Char) : Option (Nested × List Char) :=
  let (bracket, rest) := open_ flags cs
  readSteps? flags (rest.length + 1) bracket [] rest

end Bracket

end SolutionAlgebra.Pattern
