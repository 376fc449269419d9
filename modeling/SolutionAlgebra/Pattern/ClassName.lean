import SolutionAlgebra.Unicode.Category
import SolutionAlgebra.Unicode.Property
import SolutionAlgebra.Unicode.Script

/-! # Names of character classes

The names that patterns give to sets of characters: the properties, categories and scripts of
Unicode, which are compared without regard to case, blanks, hyphens and underscores, and the classes
of ASCII. -/

namespace SolutionAlgebra.Pattern

/-- Whether a character does not matter in the name of a property. -/
def isNameFiller (c : Char) : Bool := c == ' ' || c == '_' || c == '-' || 0x80 ≤ c.toNat

/-- The name of a property in the form in which names are compared. An `is` at the start is dropped,
but `isc` is a name. -/
def plainName (name : List Char) : List Char :=
  let plain (cs : List Char) := (cs.filter fun c => !isNameFiller c).map Char.toLower
  match name with
  | i :: s :: rest =>
    if i.toLower == 'i' && s.toLower == 's' then
      if plain rest == ['c'] then ['i', 's', 'c'] else plain rest
    else plain name
  | _ => plain name

/-- The code points of the categories that a plain name stands for. -/
def categoryPoints? (name : String) : Option Text.CodePoints :=
  if name == "any" then some Text.CodePoints.empty.complement
  else if name == "assigned" then some Unicode.Category.assignedPoints
  else if name == "ascii" then some (.ofRanges [(0, 0x7F)])
  else (Unicode.Category.named? name).map fun categories =>
    .unions (categories.map Unicode.Category.points)

/-- Names that are those of categories, although there is a property with the same name. -/
def categoryFirst : List String := ["cf", "sc", "lc"]

/-- The code points that a single name stands for: a property, else a category, else a script. -/
def namedPoints? (name : String) : Option Text.CodePoints :=
  match if categoryFirst.contains name then none else Unicode.Property.named? name with
  | some property => some property.points
  | none => (categoryPoints? name).or (Unicode.Script.named? name)

/-- The code points with a value of a property that has several. -/
def valuePoints? (property value : String) : Option Text.CodePoints :=
  if ["gc", "generalcategory"].contains property then categoryPoints? value
  else if ["sc", "script"].contains property then Unicode.Script.named? value
  else none

/-- The parts of a text before and after the sign between a property and its value. -/
def cutAtSign? (name : List Char) : Option (List Char × List Char) :=
  (cutNotEqual? name).or ((Text.cutAt? ':' name).or (Text.cutAt? '=' name))
where
  /-- The parts before and after an exclamation mark with an equals sign. -/
  cutNotEqual? : List Char → Option (List Char × List Char)
    | '!' :: '=' :: rest => some ([], rest)
    | [] => none
    | c :: cs => (cutNotEqual? cs).map fun (before, after) => (c :: before, after)

/-- The code points that the name of a class stands for. Between a property and its value all signs
mean the same. -/
def classPoints? (name : List Char) : Option Text.CodePoints :=
  match cutAtSign? name with
  | some (property, value) =>
    valuePoints? (String.ofList (plainName property)) (String.ofList (plainName value))
  | none => namedPoints? (String.ofList (plainName name))

/-- The classes of ASCII. -/
def asciiClasses : List (String × List (Nat × Nat)) := [
  ("alnum", [(0x30, 0x39), (0x41, 0x5A), (0x61, 0x7A)]),
  ("alpha", [(0x41, 0x5A), (0x61, 0x7A)]),
  ("ascii", [(0, 0x7F)]),
  ("blank", [(9, 9), (0x20, 0x20)]),
  ("cntrl", [(0, 0x1F), (0x7F, 0x7F)]),
  ("digit", [(0x30, 0x39)]),
  ("graph", [(0x21, 0x7E)]),
  ("lower", [(0x61, 0x7A)]),
  ("print", [(0x20, 0x7E)]),
  ("punct", [(0x21, 0x2F), (0x3A, 0x40), (0x5B, 0x60), (0x7B, 0x7E)]),
  ("space", [(9, 0xD), (0x20, 0x20)]),
  ("upper", [(0x41, 0x5A)]),
  ("word", [(0x30, 0x39), (0x41, 0x5A), (0x5F, 0x5F), (0x61, 0x7A)]),
  ("xdigit", [(0x30, 0x39), (0x41, 0x46), (0x61, 0x66)])]

/-- The code points of a class of ASCII. -/
def asciiPoints? (name : String) : Option Text.CodePoints :=
  (asciiClasses.lookup name).map Text.CodePoints.ofRanges

/-- The decimal digits of all scripts. -/
def digitPoints : Text.CodePoints := Unicode.Category.points .decimalNumber

/-- The blanks of Unicode. -/
def blankPoints : Text.CodePoints := Unicode.Property.points .whiteSpace

/-- The code points of a class with a short name: digits, blanks or word characters. -/
def shortClass? (unicode : Bool) (letter : Char) : Option Text.CodePoints :=
  match letter with
  | 'd' => if unicode then some digitPoints else asciiPoints? "digit"
  | 's' => if unicode then some blankPoints else asciiPoints? "space"
  | 'w' => if unicode then some Unicode.Property.wordPoints else asciiPoints? "word"
  | _ => none

end SolutionAlgebra.Pattern
