import SolutionAlgebra.Expression.Basic
import SolutionAlgebra.Json

/-! # Expressions as JSON

A leaf is a string, a list an array of strings. An inner node is an object whose member `type` tells
its kind and whose other members are its fields; members that are no field do not count, but none
of the fields may be repeated. An inner node may also be an array that starts with the kind and goes
on with the fields in order. The kind is a name or its number. -/

namespace SolutionAlgebra.Expression

/-- A kind of inner node. -/
inductive NodeKind where
  /-- An operation. -/
  | operation
  /-- An aggregation. -/
  | aggregate
  /-- A call of an extension function. -/
  | call
deriving DecidableEq, Repr

/-- The name of a kind. -/
def NodeKind.name : NodeKind → String
  | operation => "operation"
  | aggregate => "aggregate"
  | call => "functionCall"

/-! ## Writing -/

/-- An inner node of a kind with its fields. -/
def nodeJson (kind : NodeKind) (fields : List (String × Json)) : Json :=
  .object (("type", .string kind.name) :: fields)

/-- The field that a separator makes, if there is one. -/
def separatorField : Option String → List (String × Json)
  | none => []
  | some text => [("separator", .string text)]

mutual

/-- An expression as JSON. -/
def toJson : Expression → Json
  | term text => .string text
  | list texts => .array (texts.map .string)
  | operation operator args =>
    nodeJson .operation [("operator", .string operator), ("args", .array (toJsonAll args))]
  | aggregate aggregation target distinct separator =>
    nodeJson .aggregate ([("aggregation", .string aggregation), ("expression", toJson target),
      ("distinct", .bool distinct)] ++ separatorField separator)
  | call function args =>
    nodeJson .call [("function", .string function), ("args", .array (toJsonAll args))]

/-- Several expressions as JSON. -/
def toJsonAll : List Expression → List Json
  | [] => []
  | e :: es => toJson e :: toJsonAll es

end

/-! ## Reading -/

/-- A value together with what it is as an expression and as a list of expressions. -/
structure Reading where
  /-- The value. -/
  value : Json
  /-- The expression that the value is. -/
  expression : Option Expression
  /-- The list of expressions that the value is. -/
  expressions : Option (List Expression)

namespace Reading

/-- The text that a value is. -/
def text? (r : Reading) : Option String := r.value.text?

/-- The truth value that a value is. -/
def truth? (r : Reading) : Option Bool :=
  match r.value with
  | .bool value => some value
  | _ => none

/-- The separator that a value is; `null` is none. -/
def separator? (r : Reading) : Option (Option String) :=
  match r.value with
  | .null => some none
  | .string text => some (some text)
  | _ => none

/-- The kind of node that a value is. -/
def kind? (r : Reading) : Option NodeKind :=
  match r.value with
  | .string text =>
    if text = "operation" then some .operation
    else if text = "aggregate" then some .aggregate
    else if text = "functionCall" then some .call
    else none
  | .number text =>
    if text = "0" then some .operation
    else if text = "1" then some .aggregate
    else if text = "2" then some .call
    else none
  | _ => none

end Reading

/-- The value of a field that must be there once. -/
def field? (members : List (String × Reading)) (name : String) : Option Reading :=
  match members.filter fun member => member.1 == name with
  | [member] => some member.2
  | _ => none

/-- The value of a field that may be there once. -/
def optionalField? (members : List (String × Reading)) (name : String) : Option (Option Reading) :=
  match members.filter fun member => member.1 == name with
  | [] => some none
  | [member] => some (some member.2)
  | _ => none

/-- The aggregation that some fields make. -/
def aggregateOf? (aggregation target : Reading) (distinct separator : Option Reading) :
    Option Expression := do
  let name ← aggregation.text?
  let target ← target.expression
  let distinct ← match distinct with
    | none => some false
    | some r => r.truth?
  let separator ← match separator with
    | none => some none
    | some r => r.separator?
  return aggregate name target distinct separator

/-- The inner node that the members of an object make. -/
def ofMembers? (members : List (String × Reading)) : Option Expression := do
  match ← (← field? members "type").kind? with
  | .operation =>
    return operation (← (← field? members "operator").text?)
      (← (← field? members "args").expressions)
  | .aggregate =>
    aggregateOf? (← field? members "aggregation") (← field? members "expression")
      (← optionalField? members "distinct") (← optionalField? members "separator")
  | .call =>
    return call (← (← field? members "function").text?) (← (← field? members "args").expressions)

/-- The inner node that the items of an array make. -/
def ofItems? : List Reading → Option Expression
  | [] => none
  | kind :: fields => do
    match ← kind.kind?, fields with
    | .operation, [operator, args] => return operation (← operator.text?) (← args.expressions)
    | .aggregate, [aggregation, target] => aggregateOf? aggregation target none none
    | .aggregate, [aggregation, target, distinct] =>
      aggregateOf? aggregation target (some distinct) none
    | .aggregate, [aggregation, target, distinct, separator] =>
      aggregateOf? aggregation target (some distinct) (some separator)
    | .call, [function, args] => return call (← function.text?) (← args.expressions)
    | _, _ => none

/-- The expression that an array makes: a list if all its items are strings, else a node. -/
def ofArray? (items : List Json) (readings : List Reading) : Option Expression :=
  match Json.texts? items with
  | some texts => some (list texts)
  | none => ofItems? readings

mutual

/-- What a value is as an expression and as a list of expressions. -/
def reading : Json → Reading
  | .string text => ⟨.string text, some (term text), none⟩
  | .array items =>
    let readings := readingAll items
    ⟨.array items, ofArray? items readings, readings.mapM Reading.expression⟩
  | .object members => ⟨.object members, ofMembers? (readingMembers members), none⟩
  | value => ⟨value, none, none⟩

/-- What several values are. -/
def readingAll : List Json → List Reading
  | [] => []
  | item :: items => reading item :: readingAll items

/-- What the values of several members are. -/
def readingMembers : List (String × Json) → List (String × Reading)
  | [] => []
  | (name, value) :: members => (name, reading value) :: readingMembers members

end

/-- The expression that a value is. -/
def ofJson? (value : Json) : Option Expression := (reading value).expression

/-- The expression that a JSON text is. -/
def read? (text : String) : Option Expression := (Json.read? text).bind ofJson?

end SolutionAlgebra.Expression
