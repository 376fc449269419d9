import SolutionAlgebra.Pattern.Bracket
import SolutionAlgebra.Pattern.Flags
import SolutionAlgebra.Pattern.Program

/-! # Reading patterns

A pattern is read from left to right, one character, escape, bracketed class or sign after the
other. The groups that are open are kept on a stack. -/

namespace SolutionAlgebra.Pattern

/-! ## Repetitions

How often something may come: the signs `?`, `*` and `+`, and bounds in braces, as in `{2,3}`. A
question mark after them reverses whether the repetition prefers to go on. -/

/-- How often something may come. -/
structure Repetition where
  /-- The least number of times. -/
  least : Nat
  /-- The greatest number of times, if there is one. -/
  most : Option Nat
deriving DecidableEq, Repr

namespace Repetition

/-- The number that is written between blanks. It has 32 bits. -/
def bound? (cs : List Char) : Option Nat :=
  let ds := Text.trim cs
  if ds.isEmpty || !ds.all Char.isDigit then none
  else
    let n := ds.foldl (fun n c => 10 * n + (c.toNat - 48)) 0
    if n < Nat.pow 2 32 then some n else none

/-- The repetition with bounds as they are written between braces. -/
def ofBounds? (cs : List Char) : Option Repetition :=
  match Text.cutAt? ',' cs with
  | none => (bound? cs).map fun n => ⟨n, some n⟩
  | some (least, []) => (bound? least).map fun n => ⟨n, none⟩
  | some (least, most) => do
    let n ← bound? least
    let m ← bound? most
    if n ≤ m then return ⟨n, some m⟩ else none

/-- Reads the question mark that makes a repetition prefer to stop: whether there is none, and the
rest. -/
def readGreed : List Char → Bool × List Char
  | '?' :: cs => (false, cs)
  | cs => (true, cs)

end Repetition

/-! ## Parts and groups -/

/-- A part of a pattern that has been read. -/
structure Part where
  /-- What the part means. -/
  node : Node
  /-- How deep its groups, repetitions, classes, sequences and alternatives are. -/
  depth : Nat := 0
  /-- Whether the part sets flags and means nothing. -/
  isSetting : Bool := false

namespace Part

/-- The greatest depth of some parts. -/
def depths (parts : List Part) : Nat := parts.foldl (fun d part => max d part.depth) 0

/-- Parts one after the other. -/
def sequence : List Part → Part
  | [] => ⟨.empty, 0, false⟩
  | [part] => part
  | parts => ⟨Node.sequence (parts.map Part.node), depths parts + 1, false⟩

/-- One of some parts. -/
def alternatives : List Part → Part
  | [] => ⟨.empty, 0, false⟩
  | [part] => part
  | parts => ⟨Node.alternatives (parts.map Part.node), depths parts + 1, false⟩

end Part

/-- A group that is open, or the whole pattern. -/
structure Level where
  /-- The alternatives that have ended, last to first. -/
  branches : List Part := []
  /-- The parts of the alternative that has not, last to first. -/
  parts : List Part := []
  /-- The flags at the place that reading has come to. -/
  flags : Flags

namespace Level

/-- Adds a part. -/
def add (level : Level) (part : Part) : Level := { level with parts := part :: level.parts }

/-- Ends an alternative. -/
def branch (level : Level) : Level :=
  { level with branches := .sequence level.parts.reverse :: level.branches, parts := [] }

/-- The level as one part. -/
def close (level : Level) : Part := .alternatives level.branch.branches.reverse

/-- Repeats the last part. There has to be one, and it may not set flags. -/
def repeatLast? (level : Level) (repetition : Repetition) (greedy : Bool) : Option Level :=
  match level.parts with
  | [] => none
  | part :: parts =>
    if part.isSetting then none
    else
      let node := part.node.repeatNode repetition.least repetition.most
        (greedy != level.flags.swapGreed)
      some { level with parts := ⟨node, part.depth + 1, false⟩ :: parts }

end Level

/-- How far a pattern has been read. -/
structure Reading where
  /-- The innermost group. -/
  level : Level
  /-- The groups around it, from the inside out: the number that the group inside has, if it has
  one, and the level. -/
  outer : List (Option Nat × Level) := []
  /-- The number of groups that have numbers. -/
  count : Nat := 0
  /-- The groups that have names. -/
  names : List (String × Nat) := []

/-- The characters that start names of groups, besides the underscore. -/
def nameStartPoints : Text.CodePoints := Unicode.Property.points .alphabetic

/-- The characters of names of groups, besides the underscore and some signs. -/
def namePoints : Text.CodePoints :=
  nameStartPoints.union (.unions ([.decimalNumber, .letterNumber, .otherNumber].map
    Unicode.Category.points))

/-- Whether a text is the name of a group. -/
def isGroupName : List Char → Bool
  | [] => false
  | c :: cs =>
    (c == '_' || nameStartPoints.contains c.toNat) && cs.all fun c =>
      c == '_' || c == '.' || c == '[' || c == ']' || namePoints.contains c.toNat

namespace Reading

/-- Adds a part, after which a rest is left. -/
def add (reading : Reading) (part : Part) (rest : List Char) : Reading × List Char :=
  ({ reading with level := reading.level.add part }, rest)

/-- Opens a group. -/
def openGroup (reading : Reading) (number : Option Nat) (flags : Flags) : Reading :=
  { reading with
    level := ⟨[], [], flags⟩
    outer := (number, reading.level) :: reading.outer }

/-- Opens the group with the next number. -/
def openNumbered (reading : Reading) : Reading :=
  { reading.openGroup (some (reading.count + 1)) reading.level.flags with
    count := reading.count + 1 }

/-- Opens the group with the next number and a name, which no other group may have. -/
def openNamed? (reading : Reading) (cs : List Char) : Option (Reading × List Char) := do
  let (name, rest) ← Text.cutAt? '>' cs
  if !isGroupName name then none
  let name := String.ofList name
  if (reading.names.lookup name).isSome then none
  return ({ reading.openNumbered with names := reading.names ++ [(name, reading.count + 1)] }, rest)

/-- Reads flags, which are for a group, or for the rest of the group around them. -/
def setFlags? (reading : Reading) (cs : List Char) : Option (Reading × List Char) := do
  match ← reading.level.flags.read? [] cs with
  | (flags, _, ':' :: rest) => return (reading.openGroup none flags, rest)
  | (flags, seen, _ :: rest) =>
    if seen.isEmpty then none
    let level := { reading.level with flags := flags }
    return ({ reading with level := level.add ⟨.empty, 0, true⟩ }, rest)
  | (_, _, []) => none

/-- Reads the start of a group after its opening parenthesis. Conditions on what comes before or
after are refused. -/
def startGroup? (reading : Reading) (cs : List Char) : Option (Reading × List Char) :=
  match reading.level.flags.skip cs with
  | '?' :: '=' :: _ | '?' :: '!' :: _ | '?' :: '<' :: '=' :: _ | '?' :: '<' :: '!' :: _ => none
  | '?' :: 'P' :: '<' :: rest | '?' :: '<' :: rest => reading.openNamed? rest
  | '?' :: rest => reading.setFlags? rest
  | rest => some (reading.openNumbered, rest)

/-- Closes the innermost group, if one is open. -/
def closeGroup? (reading : Reading) : Option Reading :=
  match reading.outer with
  | [] => none
  | (number, level) :: outer =>
    let part := reading.level.close
    let node := match number with
      | some number => .group number part.node
      | none => part.node
    some { reading with level := level.add ⟨node, part.depth + 1, false⟩, outer := outer }

/-- Repeats the last part. -/
def repeatLast? (reading : Reading) (repetition : Repetition) (cs : List Char) :
    Option (Reading × List Char) := do
  let (greedy, rest) := Repetition.readGreed cs
  let level ← reading.level.repeatLast? repetition greedy
  return ({ reading with level := level }, rest)

/-- Repeats the last part as bounds in braces say. -/
def repeatBounded? (reading : Reading) (cs : List Char) : Option (Reading × List Char) := do
  let flags := reading.level.flags
  let (bounds, rest) ← flags.upToBrace? false cs
  reading.repeatLast? (← Repetition.ofBounds? bounds) (flags.skip rest)

/-- What an escape outside of brackets means. -/
def ofEscape (flags : Flags) : Escape → Node
  | .char c => .oneOf (flags.fold (.single c.toNat))
  | .oneOf points => .oneOf points
  | .look condition => .look condition

/-- The characters that a point stands for. Without Unicode it would stand for parts of
characters. -/
def anyPoints? (flags : Flags) : Option Text.CodePoints :=
  if !flags.unicode then none
  else if flags.dotAll then some Text.CodePoints.empty.complement
  else if flags.carriage then some (Text.CodePoints.ofRanges [(0xA, 0xA), (0xD, 0xD)]).complement
  else some (Text.CodePoints.single 0xA).complement

/-- The condition of a circumflex. -/
def startLook (flags : Flags) : Look :=
  if !flags.multiLine then .textStart else if flags.carriage then .anyLineStart else .lineStart

/-- The condition of a dollar sign. -/
def endLook (flags : Flags) : Look :=
  if !flags.multiLine then .textEnd else if flags.carriage then .anyLineEnd else .lineEnd

/-- Reads a part of a pattern that starts with a character. -/
def step? (reading : Reading) (c : Char) (cs : List Char) : Option (Reading × List Char) :=
  let flags := reading.level.flags
  match c with
  | '(' => reading.startGroup? cs
  | ')' => (closeGroup? reading).map fun reading => (reading, cs)
  | '|' => some ({ reading with level := reading.level.branch }, cs)
  | '[' => (Bracket.read? flags cs).map fun (set, rest) =>
    reading.add ⟨.oneOf set.points, set.depth, false⟩ rest
  | '?' => reading.repeatLast? ⟨0, some 1⟩ cs
  | '*' => reading.repeatLast? ⟨0, none⟩ cs
  | '+' => reading.repeatLast? ⟨1, none⟩ cs
  | '\x7b' => reading.repeatBounded? cs
  | '\\' => (Escape.read? flags cs).map fun (escape, rest) =>
    reading.add ⟨ofEscape flags escape, 0, false⟩ rest
  | '.' => (anyPoints? flags).map fun points => reading.add ⟨.oneOf points, 0, false⟩ cs
  | '^' => some (reading.add ⟨.look (startLook flags), 0, false⟩ cs)
  | '$' => some (reading.add ⟨.look (endLook flags), 0, false⟩ cs)
  | c => some (reading.add ⟨ofEscape flags (.char c), 0, false⟩ cs)

/-- Reads a pattern to its end, where each step reads a character at least. -/
def steps? : Nat → Reading → List Char → Option Reading
  | count, reading, cs =>
    match reading.level.flags.skip cs, count with
    | [], _ => some reading
    | _ :: _, 0 => none
    | c :: cs, count + 1 =>
      (reading.step? c cs).bind fun (reading, rest) => steps? count reading rest

end Reading

/-- The depth that a pattern may have. -/
def depthLimit : Nat := 250

/-- Reads a pattern: what it means, and the groups that have names. All its groups have to be
closed. -/
def read? (flags : Flags) (cs : List Char) : Option (Node × List (String × Nat)) := do
  let reading ← Reading.steps? cs.length ⟨⟨[], [], flags⟩, [], 0, []⟩ cs
  if !reading.outer.isEmpty then none
  let part := reading.level.close
  if depthLimit < part.depth then none
  if Node.weightLimit < part.node.weight then none
  return (part.node, reading.names)

/-- The compiled form of a pattern. -/
def compile? (flags : Flags) (cs : List Char) : Option Machine :=
  (read? flags cs).map fun (node, names) => .ofNode node names

end SolutionAlgebra.Pattern
