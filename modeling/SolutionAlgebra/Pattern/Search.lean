import SolutionAlgebra.Pattern.Program
import SolutionAlgebra.Unicode.Property

/-! # Searching

A compiled expression is run from a place in a text by following all ways at once, in order of
preference; a way that comes to a state where a preferred way already is, is dropped. The match of a
text is the one that starts first, and among these the preferred one. -/

namespace SolutionAlgebra.Pattern

/-- Whether a character is a word character of Unicode, or of ASCII. -/
def isWord (unicode : Bool) (c : Char) : Bool :=
  if c.toNat < 0x80 then c.isAlphanum || c == '_'
  else unicode && Unicode.Property.wordPoints.contains c.toNat

/-- Whether a condition holds between two characters, of which either may be missing. -/
def Look.holds (condition : Look) (before after : Option Char) : Bool :=
  match condition with
  | textStart => before.isNone
  | textEnd => after.isNone
  | lineStart => before.all (· == '\n')
  | lineEnd => after.all (· == '\n')
  | anyLineStart => before.all fun c => c == '\n' || (c == '\r' && after != some '\n')
  | anyLineEnd => after.all fun c => c == '\r' || (c == '\n' && before != some '\r')
  | wordBoundary unicode => before.any (isWord unicode) != after.any (isWord unicode)
  | notWordBoundary unicode => before.any (isWord unicode) == after.any (isWord unicode)
  | wordStart unicode => !before.any (isWord unicode) && after.any (isWord unicode)
  | wordEnd unicode => before.any (isWord unicode) && !after.any (isWord unicode)
  | wordStartHalf unicode => !before.any (isWord unicode)
  | wordEndHalf unicode => !after.any (isWord unicode)

/-- The marked places, by slot. -/
abbrev Marks : Type := List (Nat × Nat)

/-- Marks a place in a slot. -/
def Marks.set (marks : Marks) (slot place : Nat) : Marks :=
  (slot, place) :: marks.filter fun mark => mark.1 != slot

/-- A way that waits for a character or has matched. -/
inductive Way where
  /-- A way that waits for a character of a set, and the state after it. -/
  | waiting (points : Text.CodePoints) (next : Nat) (marks : Marks)
  /-- A way that has matched. -/
  | matched (marks : Marks)

/-- The ways found so far, last to first, and the states that were visited. -/
structure Ways where
  /-- Whether each state was visited. -/
  visited : Array Bool
  /-- The ways, last to first. -/
  found : List Way

/-- Where a text is being searched: the characters before and after the place, and its number. -/
structure Place where
  /-- The character before. -/
  before : Option Char
  /-- The character after. -/
  after : Option Char
  /-- The number of characters before the place. -/
  index : Nat

/-- Follows a way from a state up to the characters that it waits for. The first argument bounds
the states in a row, of which none comes twice. -/
def follow (program : Program) (place : Place) : Nat → Nat → Marks → Ways → Ways
  | 0, _, _, ways => ways
  | bound + 1, state, marks, ways =>
    if ways.visited.getD state true then ways
    else
      let ways := { ways with visited := ways.visited.setIfInBounds state true }
      match program[state]? with
      | none | some .fail => ways
      | some .accept => { ways with found := .matched marks :: ways.found }
      | some (.consume points next) =>
        { ways with found := .waiting points next marks :: ways.found }
      | some (.test condition next) =>
        if condition.holds place.before place.after then
          follow program place bound next marks ways
        else ways
      | some (.mark slot next) =>
        follow program place bound next (marks.set slot place.index) ways
      | some (.branch preferred other) =>
        follow program place bound other marks (follow program place bound preferred marks ways)

/-- The ways before the first that has matched, and the marks of that one. -/
def untilMatched : List Way → List Way × Option Marks
  | [] => ([], none)
  | .matched marks :: _ => ([], some marks)
  | way :: ways =>
    let (waiting, marks) := untilMatched ways
    (way :: waiting, marks)

/-- The ways from some states on. -/
def followAll (program : Program) (place : Place) (starts : List (Nat × Marks)) : List Way :=
  let none_ : Ways := ⟨Array.replicate program.size false, []⟩
  (starts.foldl (fun ways (state, marks) =>
    follow program place (program.size + 1) state marks ways) none_).found.reverse

/-- The states after those ways that wait for a character. -/
def advance (c : Char) (ways : List Way) : List (Nat × Marks) :=
  ways.filterMap fun way => match way with
    | .waiting points next marks => if points.contains c.toNat then some (next, marks) else none
    | .matched _ => none

/-- Runs ways through a text. The last match that a way has found counts, since the ways that are
left then are preferred to it. -/
def run (program : Program) (before : Option Char) (index : Nat) (starts : List (Nat × Marks))
    (best : Option Marks) : List Char → Option Marks
  | [] =>
    let (_, marks) := untilMatched (followAll program ⟨before, none, index⟩ starts)
    marks.or best
  | c :: cs =>
    let (waiting, marks) := untilMatched (followAll program ⟨before, some c, index⟩ starts)
    match advance c waiting with
    | [] => marks.or best
    | starts => run program (some c) (index + 1) starts (marks.or best) cs

namespace Machine

/-- The marks of the match of a text that starts at a place. -/
def matchAt (machine : Machine) (before : Option Char) (index : Nat) (cs : List Char) :
    Option Marks :=
  run machine.program before index [(machine.entry, [])] none cs

/-- The marks of the first match of a text from a place on. -/
def find (machine : Machine) (before : Option Char) (index : Nat) : List Char → Option Marks
  | [] => machine.matchAt before index []
  | c :: cs => (machine.matchAt before index (c :: cs)).or (find machine (some c) (index + 1) cs)

/-- Whether a text has a match. -/
def matches? (machine : Machine) (cs : List Char) : Bool := (machine.find none 0 cs).isSome

end Machine

end SolutionAlgebra.Pattern
