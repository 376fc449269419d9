import SolutionAlgebra.Json.Token

/-! # JSON

The values of JSON, how they are printed and how they are read. Numbers keep their text, and objects
keep their members in order, repeated names included. -/

namespace SolutionAlgebra

/-- A JSON value. -/
inductive Json where
  /-- The value `null`. -/
  | null
  /-- A truth value. -/
  | bool (value : Bool)
  /-- A number, as it is written. -/
  | number (text : String)
  /-- A string. -/
  | string (text : String)
  /-- An array. -/
  | array (items : List Json)
  /-- An object. -/
  | object (members : List (String × Json))

namespace Json

/-- The text that a string is. -/
def text? : Json → Option String
  | string text => some text
  | _ => none

/-- The texts that an array of strings holds. -/
def texts? (items : List Json) : Option (List String) := items.mapM text?

/-! ## Printing

A value is printed as its tokens without blanks between them. -/

/-- Several sequences of tokens with commas between them. -/
def separated : List (List Token) → List Token
  | [] => []
  | [tokens] => tokens
  | tokens :: rest => tokens ++ .comma :: separated rest

mutual

/-- The tokens of a value. -/
def tokens : Json → List Token
  | null => [.word "null"]
  | bool value => [.word (if value then "true" else "false")]
  | number text => [.number text]
  | string text => [.string text]
  | array items => .openArray :: separated (itemTokens items) ++ [.closeArray]
  | object members => .openObject :: separated (memberTokens members) ++ [.closeObject]

/-- The tokens of each item. -/
def itemTokens : List Json → List (List Token)
  | [] => []
  | item :: items => tokens item :: itemTokens items

/-- The tokens of each member. -/
def memberTokens : List (String × Json) → List (List Token)
  | [] => []
  | (name, value) :: members =>
    (.string name :: .colon :: tokens value) :: memberTokens members

end

/-- The text of a value. -/
def text (value : Json) : String := String.ofList ((tokens value).flatMap Token.chars)

/-! ## Reading

Tokens are read one after the other; the arrays and objects that are open are kept on a stack, of
which at most 127 may be open at once. -/

/-- An array or object that is open and awaits a value. -/
inductive Frame where
  /-- An array, with its items so far. -/
  | array (items : List Json)
  /-- An object, with its members so far and the name of the value to come. -/
  | object (members : List (String × Json)) (name : String)

/-- What is to come. -/
inductive Awaited where
  /-- A value. -/
  | value
  /-- The first item of an array, or its end. -/
  | firstItem
  /-- The first name of an object, or its end. -/
  | firstName
  /-- A further item of an array, after a comma, or its end. -/
  | moreItems (items : List Json)
  /-- A further member of an object, after a comma, or its end. -/
  | moreMembers (members : List (String × Json))
  /-- A name of an object. -/
  | name (members : List (String × Json))
  /-- The colon after a name. -/
  | colon (members : List (String × Json)) (name : String)
  /-- Nothing but the end of the text. -/
  | nothing (whole : Json)

/-- The number of arrays and objects that may be open at once. -/
def depthLimit : Nat := 127

/-- What is to come after a value, and what is open then. -/
def afterValue (value : Json) : List Frame → Awaited × List Frame
  | [] => (.nothing value, [])
  | .array items :: open_ => (.moreItems (items ++ [value]), open_)
  | .object members name :: open_ => (.moreMembers (members ++ [(name, value)]), open_)

/-- The value of a word. -/
def wordValue (text : String) : Json :=
  if text = "true" then .bool true else if text = "false" then .bool false else .null

/-- What a token does where a value is to come. -/
def startValue? (token : Token) (open_ : List Frame) : Option (Awaited × List Frame) :=
  match token with
  | .string text => some (afterValue (.string text) open_)
  | .number text => some (afterValue (.number text) open_)
  | .word text => some (afterValue (wordValue text) open_)
  | .openArray => if open_.length < depthLimit then some (.firstItem, open_) else none
  | .openObject => if open_.length < depthLimit then some (.firstName, open_) else none
  | _ => none

/-- What a token does. -/
def accept? (awaited : Awaited) (open_ : List Frame) (token : Token) :
    Option (Awaited × List Frame) :=
  match awaited, token with
  | .value, token => startValue? token open_
  | .firstItem, .closeArray => some (afterValue (.array []) open_)
  | .firstItem, token => startValue? token (.array [] :: open_)
  | .firstName, .closeObject => some (afterValue (.object []) open_)
  | .firstName, .string name => some (.colon [] name, open_)
  | .moreItems items, .closeArray => some (afterValue (.array items) open_)
  | .moreItems items, .comma => some (.value, .array items :: open_)
  | .moreMembers members, .closeObject => some (afterValue (.object members) open_)
  | .moreMembers members, .comma => some (.name members, open_)
  | .name members, .string name => some (.colon members name, open_)
  | .colon members name, .colon => some (.value, .object members name :: open_)
  | _, _ => none

/-- The value that tokens make from a point on. -/
def assemble? (awaited : Awaited) (open_ : List Frame) : List Token → Option Json
  | [] => match awaited with
    | .nothing whole => some whole
    | _ => none
  | token :: tokens => do
    let (awaited, open_) ← accept? awaited open_ token
    assemble? awaited open_ tokens

/-- The value that a text is. -/
def read? (text : String) : Option Json := (tokens? text.toList).bind (assemble? .value [])

end Json

end SolutionAlgebra
