import SolutionAlgebra.Octets
import SolutionAlgebra.Text.CodePoints

/-! # Language tags

The tags of BCP 47. A tag is put into lower case first and then read subtag by subtag: a language,
up to three extended languages, a script, a region, variants, extensions and a private-use part,
each optional and only in this order. A tag that starts with `x-` is private use as a whole, and
the grandfathered tags are accepted as they are. -/

namespace SolutionAlgebra.LanguageTag

/-- Why a text is not a language tag. -/
inductive Fault where
  /-- A subtag without characters. -/
  | emptySubtag
  /-- A subtag of more than eight octets. -/
  | longSubtag
  /-- A first subtag that is no language. -/
  | language
  /-- More than three extended languages. -/
  | manyExtended
  /-- An extension without subtags. -/
  | emptyExtension
  /-- A private-use part without subtags. -/
  | emptyPrivate
  /-- A subtag that fits nothing that may stand in its place. -/
  | subtag
deriving DecidableEq, Repr

/-- The reason that a fault states. -/
def Fault.message : Fault → String
  | emptySubtag => "A subtag should not be empty"
  | longSubtag => "A subtag may be eight characters in length at maximum"
  | language => "The given language subtag is invalid"
  | manyExtended => "At maximum three extlangs are allowed"
  | emptyExtension => "If an extension subtag is present, it must not be empty"
  | emptyPrivate => "If the `x` subtag is present, it must not be empty"
  | subtag => "A subtag fails to parse, it does not match any other subtags"

/-- The tags that were registered before the present grammar and do not follow it. -/
def grandfathered : List String :=
  ["art-lojban", "cel-gaulish", "en-gb-oed", "i-ami", "i-bnn", "i-default", "i-enochian", "i-hak",
    "i-klingon", "i-lux", "i-mingo", "i-navajo", "i-pwn", "i-tao", "i-tay", "i-tsu", "no-bok",
    "no-nyn", "sgn-be-fr", "sgn-be-nl", "sgn-ch-de", "zh-guoyu", "zh-hakka", "zh-min", "zh-min-nan",
    "zh-xiang"]

/-- How far the reading of a tag has come. -/
inductive Stage where
  /-- After a language of two or three letters and so many extended languages. -/
  | language (extended : Nat)
  /-- After a language that takes no extended language. -/
  | longLanguage
  /-- After a script. -/
  | script
  /-- After a region or a variant. -/
  | region
  /-- In an extension, which may have no subtag yet. -/
  | extension (pending : Bool)
  /-- In the private-use part. -/
  | privateUse (pending : Bool)
deriving DecidableEq, Repr

/-- Whether all characters are ASCII letters. -/
def isAlphabetic (cs : List Char) : Bool := cs.all Char.isAlpha

/-- Whether all characters are ASCII letters or digits. -/
def isAlphanumeric (cs : List Char) : Bool := cs.all Char.isAlphanum

/-- Whether all characters are ASCII digits. -/
def isNumeric (cs : List Char) : Bool := cs.all Char.isDigit

/-- Whether a subtag may be a region: two letters or three digits. -/
def isRegion (cs : List Char) : Bool :=
  (cs.length == 2 && isAlphabetic cs) || (cs.length == 3 && isNumeric cs)

/-- Whether a subtag may be a variant: five to eight characters, or four that start with a digit. -/
def isVariant (cs : List Char) : Bool :=
  isAlphanumeric cs && (5 ≤ cs.length || (4 ≤ cs.length && (cs.head?.any Char.isDigit)))

/-- Whether a script may follow. -/
def Stage.takesScript : Stage → Bool
  | language _ => true
  | longLanguage => true
  | _ => false

/-- Whether a region may follow. -/
def Stage.takesRegion : Stage → Bool
  | script => true
  | stage => stage.takesScript

/-- Whether a variant may follow. -/
def Stage.takesVariant : Stage → Bool
  | region => true
  | stage => stage.takesRegion

/-- The stage after a subtag that is neither empty nor too long. -/
def Stage.next (stage : Stage) (subtag : List Char) : Except Fault Stage :=
  match stage with
  | privateUse _ => if isAlphanumeric subtag then .ok (privateUse false) else .error .subtag
  | _ =>
    if subtag.length == 1 && isAlphanumeric subtag then
      if stage == extension true then .error .emptyExtension
      else if subtag == ['x'] then .ok (privateUse true)
      else .ok (extension true)
    else match stage with
      | extension _ => if isAlphanumeric subtag then .ok (extension false) else .error .subtag
      | _ =>
        match stage, subtag.length == 3 && isAlphabetic subtag with
        | language extended, true =>
          if extended == 3 then .error .manyExtended else .ok (language (extended + 1))
        | _, _ =>
          if stage.takesScript && subtag.length == 4 && isAlphabetic subtag then .ok script
          else if stage.takesRegion && isRegion subtag then .ok region
          else if stage.takesVariant && isVariant subtag then .ok region
          else .error .subtag

/-- Refuses a subtag by its length, counted in octets. -/
def checkLength (subtag : List Char) : Except Fault Unit :=
  if subtag.isEmpty then .error .emptySubtag
  else if 8 < Octets.utf8Length subtag then .error .longSubtag
  else .ok ()

/-- Reads the subtags after the language. -/
def readSubtags (stage : Stage) : List (List Char) → Except Fault Unit
  | [] =>
    if stage == .extension true then .error .emptyExtension
    else if stage == .privateUse true then .error .emptyPrivate
    else .ok ()
  | subtag :: rest => do
    checkLength subtag
    readSubtags (← stage.next subtag) rest

/-- Reads a tag that starts with a language. -/
def readLanguage : List (List Char) → Except Fault Unit
  | [] => .error .emptySubtag
  | subtag :: rest => do
    checkLength subtag
    if subtag.length < 2 || !isAlphabetic subtag then .error .language
    else readSubtags (if subtag.length < 4 then .language 0 else .longLanguage) rest

/-- Checks a tag in lower case. A tag that is private use as a whole is held to subtags of one to
eight letters and digits, as the private-use part of any other tag is. -/
def check (cs : List Char) : Except Fault Unit :=
  if grandfathered.contains (String.ofList cs) then .ok ()
  else match cs with
    | 'x' :: '-' :: rest =>
      if rest.isEmpty then .error .emptyPrivate
      else readSubtags (.privateUse true) (Text.splitOn '-' rest)
    | _ => readLanguage (Text.splitOn '-' cs)

/-- The tag that a text is, in lower case. -/
def parse (text : String) : Except Fault String :=
  let tag := text.toList.map Char.toLower
  (check tag).map fun _ => String.ofList tag

end SolutionAlgebra.LanguageTag
