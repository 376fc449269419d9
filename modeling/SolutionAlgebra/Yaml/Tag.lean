import SolutionAlgebra.Yaml.Scalar

/-! # Tags and directives

A tag names the type of a node. It is written in full, or as a handle with a suffix; directives at
the start of a document say what further handles stand for. -/

namespace SolutionAlgebra.Yaml

/-- A tag as it is written. -/
structure Tag where
  /-- The handle. It is empty if the suffix is the tag in full. -/
  handle : List Char
  /-- What comes after the handle. -/
  suffix : List Char
deriving DecidableEq, Repr

/-- What a handle stands for. -/
structure TagHandle where
  /-- The handle. -/
  handle : List Char
  /-- The start of the tags with the handle. -/
  start : List Char
deriving DecidableEq, Repr

/-- The handles that need no directive. -/
def standardHandles : List TagHandle := [
  ⟨['!'], ['!']⟩, ⟨['!', '!'], "tag:yaml.org,2002:".toList⟩]

/-- The tag in full, if its handle is known. -/
def Tag.resolve? (handles : List TagHandle) (tag : Tag) : Option (List Char) :=
  if tag.handle.isEmpty then some tag.suffix
  else (handles.find? (·.handle == tag.handle)).map fun handle => handle.start ++ tag.suffix

/-- Whether a character may come in a tag, written in full or not. -/
def isTagChar (inFull : Bool) (c : Char) : Bool :=
  isNameChar c ||
    [';', '/', '?', ':', '@', '&', '=', '+', '$', '.', '!', '~', '*', '\x27', '(',
      ')'].contains c ||
    (inFull && [',', '[', ']'].contains c)

/-- The octet that a percent sign and two digits stand for. -/
def octet? : List Char → Option Nat
  | '%' :: a :: b :: _ => do return 16 * (← Text.hexValue? a) + (← Text.hexValue? b)
  | _ => none

/-- The number of octets in the encoding of a character, by the first of them. -/
def octetCount? (lead : Nat) : Option Nat :=
  if lead < 0x80 then some 1
  else if 0xC0 ≤ lead && lead < 0xE0 then some 2
  else if 0xE0 ≤ lead && lead < 0xF0 then some 3
  else if 0xF0 ≤ lead && lead < 0xF8 then some 4
  else none

/-- Reads a character by its octets: what it counts as, and how long it is. A character that is not
one of ASCII counts as it is written. -/
def octets? (cs : List Char) : Option (List Char × Nat) := do
  let lead ← octet? cs
  let count ← octetCount? lead
  let trailing ← (List.range (count - 1)).mapM fun i => octet? (cs.drop (3 * (i + 1)))
  if !trailing.all fun octet => 0x80 ≤ octet && octet < 0xC0 then none
  return (if count = 1 then [Char.ofNat lead] else cs.take (3 * count), 3 * count)

/-- Reads the characters of a tag. -/
def tagChars? (inFull : Bool) : Nat → List Char → Cursor → Option (List Char × Cursor)
  | 0, text, cursor => some (text, cursor)
  | steps + 1, text, cursor =>
    match cursor.rest with
    | [] => some (text, cursor)
    | c :: cs =>
      if c == '%' then (octets? (c :: cs)).bind fun (d, length) =>
        tagChars? inFull steps (text ++ d) (cursor.advance length)
      else if isTagChar inFull c then tagChars? inFull steps (text ++ [c]) cursor.next
      else some (text, cursor)

/-- Reads the characters of a tag, of which there has to be one. -/
def tagText? (inFull : Bool) (cursor : Cursor) : Option (List Char × Cursor) := do
  let (text, cursor) ← tagChars? inFull cursor.rest.length [] cursor
  if text.isEmpty then none else return (text, cursor)

/-- Reads a handle: an exclamation mark, and then perhaps a name and a further exclamation mark. -/
def handle? (cursor : Cursor) : Option (List Char × Cursor) :=
  if cursor.head? != some '!' then none
  else
    let (name, after) := cursor.next.takeWhile isNameChar
    if after.head? == some '!' then some ('!' :: name ++ ['!'], after.next)
    else some ('!' :: name, after)

/-- Reads a tag that is not written in full. -/
def shorthand? (cursor : Cursor) : Option (Tag × Cursor) := do
  let (handle, after) ← handle? cursor
  if 2 ≤ handle.length && handle.getLast? == some '!' then
    let (suffix, after) ← tagText? false after
    return (⟨handle, suffix⟩, after)
  let (suffix, after) ← tagChars? false after.rest.length handle.tail after
  return (if suffix.isEmpty then ⟨[], ['!']⟩ else ⟨['!'], suffix⟩, after)

/-- Reads a tag. A blank has to come after it, or between braces a comma. -/
def tag? (inFlow : Bool) (cursor : Cursor) : Option (Tag × Cursor) := do
  let (tag, after) ←
    if cursor.second? == some '<' then do
      let (text, after) ← tagText? true (cursor.advance 2)
      if after.head? == some '>' then some ((⟨[], text⟩ : Tag), after.next) else none
    else shorthand? cursor
  if isInk after.head? && !(inFlow && after.head? == some ',') then none
  return (tag, after)

/-! ## Directives -/

/-- What a directive says. -/
inductive Directive where
  /-- The text is written in a known version. -/
  | version
  /-- A handle stands for the start of a tag. -/
  | handle (handle : TagHandle)
deriving DecidableEq, Repr

/-- Reads a number of at most nine digits. -/
def versionNumber? (cursor : Cursor) : Option (Nat × Cursor) :=
  let (ds, after) := cursor.takeWhile Char.isDigit
  if ds.isEmpty || 9 < ds.length then none
  else some (ds.foldl (fun n d => 10 * n + (d.toNat - 48)) 0, after)

/-- Reads the number of a version, which has to be 1.1 or 1.2. -/
def version? (cursor : Cursor) : Option Cursor := do
  let (major, after) ← versionNumber? cursor
  if after.head? != some '.' then none
  let (minor, after) ← versionNumber? after.next
  if major = 1 ∧ (minor = 1 ∨ minor = 2) then return after else none

/-- Reads a handle and what it stands for. -/
def tagHandle? (cursor : Cursor) : Option (TagHandle × Cursor) := do
  let (handle, after) ← handle? cursor
  if handle != ['!'] && handle.getLast? != some '!' then none
  if !after.head?.any isBlank then none
  let (start, after) ← tagText? true (after.skipWhile isBlank)
  if isInk after.head? then none
  return (⟨handle, start⟩, after)

/-- Reads a directive and the rest of its line. -/
def directive? (cursor : Cursor) : Option (Directive × Cursor) := do
  let (name, after) := cursor.next.takeWhile isNameChar
  if isInk after.head? then none
  let after := after.skipWhile isBlank
  let (directive, after) ←
    if name == "YAML".toList then (version? after).map fun after => (Directive.version, after)
    else if name == "TAG".toList then
      (tagHandle? after).map fun (handle, after) => (Directive.handle handle, after)
    else none
  let after := (after.skipWhile isBlank).skipComment
  if !after.rest.isEmpty && !after.head?.any isBreak then none
  return (directive, after.takeBreak.2)

end SolutionAlgebra.Yaml
