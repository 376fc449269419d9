import SolutionAlgebra.Text.CodePoints

/-! # Regular expressions

A regular expression as a tree. Which of several matches counts is a matter of preference: of two
alternatives the first is preferred, and a repetition prefers to go on if it is greedy, else to
stop. -/

namespace SolutionAlgebra.Pattern

/-- A condition on a place in a text. Where word characters matter, `unicode` tells whether they are
those of Unicode or those of ASCII. -/
inductive Look where
  /-- The start of the text. -/
  | textStart
  /-- The end of the text. -/
  | textEnd
  /-- The start of a line. -/
  | lineStart
  /-- The end of a line. -/
  | lineEnd
  /-- The start of a line, where carriage returns end lines as well. -/
  | anyLineStart
  /-- The end of a line, where carriage returns end lines as well. -/
  | anyLineEnd
  /-- Between a word character and another, or an end of the text. -/
  | wordBoundary (unicode : Bool)
  /-- Not between a word character and another. -/
  | notWordBoundary (unicode : Bool)
  /-- Before a word character and not after one. -/
  | wordStart (unicode : Bool)
  /-- After a word character and not before one. -/
  | wordEnd (unicode : Bool)
  /-- Not after a word character. -/
  | wordStartHalf (unicode : Bool)
  /-- Not before a word character. -/
  | wordEndHalf (unicode : Bool)
deriving DecidableEq, Repr

/-- A regular expression. -/
inductive Node where
  /-- The empty text. -/
  | empty
  /-- One character of a set. -/
  | oneOf (points : Text.CodePoints)
  /-- The empty text where a condition holds. -/
  | look (condition : Look)
  /-- One expression after the other. -/
  | seq (first second : Node)
  /-- One of two expressions. -/
  | either (preferred other : Node)
  /-- A group with a number, whose text is kept. -/
  | group (index : Nat) (body : Node)
  /-- An expression repeated. -/
  | repeated (body : Node) (least : Nat) (most : Option Nat) (greedy : Bool)

namespace Node

/-- Expressions one after the other. -/
def sequence : List Node → Node
  | [] => empty
  | [node] => node
  | node :: nodes => seq node (sequence nodes)

/-- One of some expressions. -/
def alternatives : List Node → Node
  | [] => empty
  | [node] => node
  | node :: nodes => either node (alternatives nodes)

/-- Whether an expression can match the empty text. -/
def canBeEmpty : Node → Bool
  | empty => true
  | oneOf _ => false
  | look _ => true
  | seq first second => first.canBeEmpty && second.canBeEmpty
  | either preferred other => preferred.canBeEmpty || other.canBeEmpty
  | group _ body => body.canBeEmpty
  | repeated body least _ _ => least == 0 || body.canBeEmpty

/-- Whether an expression can match nothing but the empty text. -/
def isAlwaysEmpty : Node → Bool
  | empty => true
  | oneOf _ => false
  | look _ => true
  | seq first second => first.isAlwaysEmpty && second.isAlwaysEmpty
  | either preferred other => preferred.isAlwaysEmpty && other.isAlwaysEmpty
  | group _ body => body.isAlwaysEmpty
  | repeated body _ most _ => most == some 0 || body.isAlwaysEmpty

/-- An expression repeated. To repeat what is always empty more than once is to repeat it once. -/
def repeatNode (body : Node) (least : Nat) (most : Option Nat) (greedy : Bool) : Node :=
  if body.isAlwaysEmpty then repeated body (min least 1) (some ((most.getD 1).min 1)) greedy
  else repeated body least most greedy

/-! ## Size

How large an expression is once it is compiled is a matter of the machine that it is compiled to,
which is not described here. Its weight is an estimate of the size, near enough to tell the
expressions that come up from those that are refused because they repeat too much. -/

/-- The estimated weight of a set of characters in a compiled expression. -/
def pointsWeight (points : Text.CodePoints) : Nat :=
  match points.ranges.toList with
  | [(_, last)] => if last < 0x80 then 32 else 128
  | ranges => if ranges.all fun r => r.2 < 0x80 then 32 + 8 * ranges.length
    else 64 * ranges.length + 256

/-- The estimated weight of an expression once it is compiled. -/
def weight : Node → Nat
  | empty => 32
  | oneOf points => pointsWeight points
  | look _ => 32
  | seq first second => first.weight + second.weight
  | either preferred other => 40 + preferred.weight + other.weight
  | group _ body => 64 + body.weight
  | repeated body least most _ =>
    let again := match most with
      | none => if least == 0 then body.weight + 80 else 40
      | some most => (most - least) * (body.weight + 40)
    least * body.weight + again

/-- The weight that an expression may have. -/
def weightLimit : Nat := 10 * 1024 * 1024

end Node

end SolutionAlgebra.Pattern
