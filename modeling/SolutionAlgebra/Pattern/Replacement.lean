import SolutionAlgebra.Pattern.Search

/-! # Replacing

Every match of a pattern is replaced by a text in which `$` with a number or name stands for the
text of a group, and `$$` for a dollar sign. A name without braces is as long as it can be. -/

namespace SolutionAlgebra.Pattern

/-- A part of a replacement. -/
inductive Replacement where
  /-- A character. -/
  | char (c : Char)
  /-- The text of a group. -/
  | group (name : List Char)
deriving DecidableEq, Repr

/-- The number that a text stands for, which may have a plus sign. -/
def groupNumber? (name : List Char) : Option Nat :=
  let ds := match name with
    | '+' :: ds => ds
    | ds => ds
  if ds.isEmpty || !ds.all Char.isDigit then none
  else some (ds.foldl (fun n c => 10 * n + (c.toNat - 48)) 0)

/-- Whether a character can be part of a name without braces. -/
def isBareNameChar (c : Char) : Bool := c.isAlphanum || c == '_'

namespace Replacement

/-- Where reading a replacement has come to. -/
inductive Position where
  /-- Among characters that stand for themselves. -/
  | plain
  /-- After a dollar sign. -/
  | dollar
  /-- In a name without braces, last character first. -/
  | bare (name : List Char)
  /-- In a name in braces, last character first. -/
  | braced (name : List Char)

/-- Reads a replacement. A dollar sign stands for itself if it starts no name, as before a brace
that is not closed. -/
def read (position : Position) : List Char → List Replacement
  | [] => match position with
    | .plain => []
    | .dollar => [char '$']
    | .bare name => [group name.reverse]
    | .braced name => [group name.reverse]
  | c :: cs => match position with
    | .plain => if c == '$' then read .dollar cs else char c :: read .plain cs
    | .dollar =>
      if c == '$' then char '$' :: read .plain cs
      else if c == '\x7b' && cs.contains '\x7d' then read (.braced []) cs
      else if isBareNameChar c then read (.bare [c]) cs
      else char '$' :: char c :: read .plain cs
    | .bare name =>
      if isBareNameChar c then read (.bare (c :: name)) cs
      else if c == '$' then group name.reverse :: read .dollar cs
      else group name.reverse :: char c :: read .plain cs
    | .braced name =>
      if c == '\x7d' then group name.reverse :: read .plain cs else read (.braced (c :: name)) cs

/-- The text of a part of a replacement, given the texts of the groups by number. -/
def expand (names : List (String × Nat)) (groupText : Nat → List Char) : Replacement → List Char
  | char c => [c]
  | group name =>
    match (groupNumber? name).or (names.lookup (String.ofList name)) with
    | some number => groupText number
    | none => []

end Replacement

/-- The text of a group in a match. A group that has not taken part has none. -/
def Marks.groupText (marks : Marks) (text : List Char) (number : Nat) : List Char :=
  match marks.lookup (2 * number), marks.lookup (2 * number + 1) with
  | some start, some stop => (text.drop start).take (stop - start)
  | _, _ => []

namespace Machine

/-- The match of a text at a place, and where it ends. A match does not start before the end of the
last one, nor is it empty there. -/
def matchHere? (machine : Machine) (before : Option Char) (index : Nat) (last : Option Nat)
    (cs : List Char) : Option (Marks × Nat) := do
  if last.any (index < ·) then none
  let marks ← machine.matchAt before index cs
  let stop ← marks.lookup 1
  if stop = index ∧ last = some index then none
  return (marks, stop)

/-- Replaces the matches of a text from a place on, where the last match may have ended later. -/
def replaceFrom (machine : Machine) (expand : Marks → List Char) (before : Option Char)
    (index : Nat) (last : Option Nat) : List Char → List Char
  | [] =>
    match machine.matchHere? before index last [] with
    | some (marks, _) => expand marks
    | none => []
  | c :: cs =>
    match machine.matchHere? before index last (c :: cs) with
    | some (marks, stop) =>
      expand marks ++ (if stop = index then [c] else []) ++
        replaceFrom machine expand (some c) (index + 1) (some stop) cs
    | none =>
      (if last.any (index < ·) then [] else [c]) ++
        replaceFrom machine expand (some c) (index + 1) last cs

/-- Replaces all matches of a text. -/
def replaceAll (machine : Machine) (replacement text : List Char) : List Char :=
  let parts := Replacement.read .plain replacement
  machine.replaceFrom
    (fun marks => parts.flatMap (Replacement.expand machine.names (marks.groupText text)))
    none 0 none text

end Machine

end SolutionAlgebra.Pattern
