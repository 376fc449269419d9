import SolutionAlgebra.Text.Quoted

/-! # Expressions

An expression is a tree over texts: leaves name terms or variables, and inner nodes name an
operation, an aggregation or an extension function. Nothing is looked up before the tree is
compiled. -/

namespace SolutionAlgebra

/-- An expression. -/
inductive Expression where
  /-- A term or variable. -/
  | term (text : String)
  /-- A list of terms and variables. -/
  | list (texts : List String)
  /-- An operation on arguments. -/
  | operation (operator : String) (args : List Expression)
  /-- An aggregation over the values of an expression in a group, of which only the first of equal
  values count if `distinct`. -/
  | aggregate (aggregation : String) (target : Expression) (distinct : Bool)
      (separator : Option String)
  /-- A call of an extension function. -/
  | call (function : String) (args : List Expression)

namespace Expression

mutual

/-- Whether two expressions are the same tree. -/
def same : Expression → Expression → Bool
  | term a, term b => a == b
  | list a, list b => a == b
  | operation f as, operation g bs => f == g && sameAll as bs
  | aggregate f a d s, aggregate g b e t => f == g && same a b && d == e && s == t
  | call f as, call g bs => f == g && sameAll as bs
  | _, _ => false

/-- Whether two lists hold the same trees. -/
def sameAll : List Expression → List Expression → Bool
  | [], [] => true
  | a :: as, b :: bs => same a b && sameAll as bs
  | _, _ => false

end

/-! ## Display

The display form of an expression names every constructor and field, with texts in quoted display:
`Node(Operation \x7b operator: "+", args: [Term("?x"), Term("1")] \x7d)`. -/

/-- Items between brackets. -/
def bracketed (items : List String) : String := "[" ++ String.intercalate ", " items ++ "]"

/-- An inner node by the name of its kind and the display forms of its fields. -/
def displayNode (kind : String) (fields : List (String × String)) : String :=
  "Node(" ++ kind ++ " \x7b " ++
    String.intercalate ", " (fields.map fun (name, value) => name ++ ": " ++ value) ++ " \x7d)"

/-- A separator in display form. -/
def displaySeparator : Option String → String
  | none => "None"
  | some text => "Some(" ++ Text.display text ++ ")"

mutual

/-- The display form of an expression. -/
def display : Expression → String
  | term text => "Term(" ++ Text.display text ++ ")"
  | list texts => "Array(" ++ bracketed (texts.map Text.display) ++ ")"
  | operation operator args =>
    displayNode "Operation"
      [("operator", Text.display operator), ("args", bracketed (displayAll args))]
  | aggregate aggregation target distinct separator =>
    displayNode "Aggregate"
      [("aggregation", Text.display aggregation), ("expression", display target),
        ("distinct", if distinct then "true" else "false"),
        ("separator", displaySeparator separator)]
  | call function args =>
    displayNode "FunctionCall"
      [("function", Text.display function), ("args", bracketed (displayAll args))]

/-- The display forms of several expressions. -/
def displayAll : List Expression → List String
  | [] => []
  | e :: es => display e :: displayAll es

end

end Expression

end SolutionAlgebra
