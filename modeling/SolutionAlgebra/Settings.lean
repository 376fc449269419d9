import SolutionAlgebra.Aggregation
import SolutionAlgebra.Entries
import SolutionAlgebra.Yaml.Node

/-! # Settings

What a user may set: the separator of concatenations, whether faults in filters and extensions are
errors, how many solutions a batch holds, how much is logged, and further prefixes. -/

namespace SolutionAlgebra

/-- The settings of an engine. -/
structure Settings where
  /-- The separator of concatenations that name none. -/
  separator : String := defaultSeparator
  /-- Whether a fault in a filter or an extension is an error. -/
  strict : Bool := false
  /-- The number of solutions in a batch. -/
  batchSize : Nat := 1024
  /-- How much is logged. -/
  logLevel : String := "info"
  /-- Further prefixes, in the order of their names. -/
  prefixes : List (String × String) := []
deriving DecidableEq, Repr

/-- Why settings cannot be used. -/
inductive SettingsFault where
  /-- A batch would hold nothing. -/
  | emptyBatch
  /-- No log level has the name. -/
  | logLevel (name : String)
deriving DecidableEq, Repr

/-- The text of a fault. -/
def SettingsFault.message : SettingsFault → String
  | emptyBatch => "Invalid configuration: batch_size must be positive"
  | logLevel name => "Invalid configuration: unknown log_level '" ++ name ++ "'"

namespace Settings

/-- The names of the log levels. -/
def logLevels : List String := ["error", "warn", "info", "debug", "trace"]

/-- Whether a text names a log level, in any case of ASCII letters. -/
def isLogLevel (name : String) : Bool :=
  logLevels.contains (String.ofList (name.toList.map Char.toLower))

/-- The settings, if they can be used. -/
def check (settings : Settings) : Except SettingsFault Settings :=
  if settings.batchSize = 0 then .error .emptyBatch
  else if isLogLevel settings.logLevel then .ok settings
  else .error (.logLevel settings.logLevel)

/-- The settings with a further prefix, which takes its place in the order of names. -/
def withPrefix (settings : Settings) (name space : String) : Settings :=
  { settings with
    prefixes := (Entries.set name space settings.prefixes).mergeSort fun a b => decide (a.1 ≤ b.1) }

end Settings

/-! ## Reading settings

Settings are written in YAML as a mapping from their names. What is left out has its default, and so
has everything in an empty text. -/

/-- Why settings cannot be read. -/
inductive SettingsReadFault where
  /-- The text is not the text of settings. -/
  | malformed
  /-- The settings cannot be used. -/
  | unusable (fault : SettingsFault)
deriving DecidableEq, Repr

/-- The tag of truth values. -/
def truthTag : String := "tag:yaml.org,2002:bool"

/-- The tag of whole numbers. -/
def integerTag : String := "tag:yaml.org,2002:int"

namespace Yaml.Node

/-- The text of a scalar, whatever it looks like. -/
def text? : Node → Option String
  | scalar text _ _ => some (String.ofList text)
  | mapping _ => none

/-- The entries of a mapping. Where nothing is written there are none. -/
def entries? : Node → Option (List (Node × Node))
  | scalar text style _ => if text.isEmpty && style == .plain then some [] else none
  | mapping entries => some entries

/-- The text of a scalar that may be of a type other than text: a plain one, or a block with the tag
of that type. -/
def typedText? (type : String) : Node → Option (List Char)
  | scalar text .plain _ => some text
  | scalar text .literal tag => if tag == some type.toList then some text else none
  | _ => none

/-- The truth value that a node is. -/
def truth? (node : Node) : Option Bool :=
  (node.typedText? truthTag).bind fun text =>
    if ["true", "True", "TRUE"].contains (String.ofList text) then some true
    else if ["false", "False", "FALSE"].contains (String.ofList text) then some false
    else none

end Yaml.Node

namespace Settings

/-- The number that digits of a base stand for. -/
def digitsNumber? (base : Nat) (ds : List Char) : Option Nat := do
  if ds.isEmpty then none
  let values ← ds.mapM Text.hexValue?
  if values.all (· < base) then return values.foldl (fun n d => base * n + d) 0 else none

/-- The whole number that a text stands for, of at most 64 bits. It may have a plus sign, and is
decimal unless it starts with `0x`, `0o` or `0b`. A decimal number has no further digits after a
zero at its start. -/
def count? (text : List Char) : Option Nat := do
  let digits := match text with
    | '+' :: ds => ds
    | ds => ds
  let n ← match digits with
    | '0' :: 'x' :: ds => digitsNumber? 16 ds
    | '0' :: 'o' :: ds => digitsNumber? 8 ds
    | '0' :: 'b' :: ds => digitsNumber? 2 ds
    | '0' :: _ :: _ => none
    | ds => digitsNumber? 10 ds
  if n < Nat.pow 2 64 then return n else none

/-- Reads prefixes. Of several with the same name the last counts. -/
def prefixes? (settings : Settings) (node : Yaml.Node) : Option Settings := do
  (← node.entries?).foldlM (fun settings (name, space) => do
    return settings.withPrefix (← name.text?) (← space.text?)) { settings with prefixes := [] }

/-- Reads the setting with a name. -/
def set? (settings : Settings) (name : String) (node : Yaml.Node) : Option Settings :=
  match name with
  | "group_concat_separator" => node.text?.map fun text => { settings with separator := text }
  | "strict_errors" => node.truth?.map fun value => { settings with strict := value }
  | "batch_size" =>
    ((node.typedText? integerTag).bind count?).map fun n => { settings with batchSize := n }
  | "log_level" => node.text?.map fun text => { settings with logLevel := text }
  | "prefixes" => prefixes? settings node
  | _ => none

/-- Reads the entries of a mapping as settings, given the names that have come before. No name may
come twice. -/
def ofEntries? (settings : Settings) (seen : List String) :
    List (Yaml.Node × Yaml.Node) → Option Settings
  | [] => some settings
  | (key, node) :: entries => do
    let name ← key.text?
    if seen.contains name then none
    ofEntries? (← settings.set? name node) (name :: seen) entries

/-- Reads settings from a text that need not be usable. -/
def read? (text : String) : Option Settings := do
  match ← Yaml.Node.ofText? text.toList with
  | none => return {}
  | some node => ofEntries? {} [] (← node.entries?)

/-- The settings that a text describes. -/
def ofYaml (text : String) : Except SettingsReadFault Settings :=
  match read? text with
  | none => .error .malformed
  | some settings => settings.check.mapError .unusable

end Settings

end SolutionAlgebra
