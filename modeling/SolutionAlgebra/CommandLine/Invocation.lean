/-! # Arguments of the command line

What the arguments ask for. Options come before or after the command `eval`; those of both places
are read one by one, and no option but `--group-by` may come twice in one place. An option has its
value in the argument after it, or after an equals sign. -/

namespace SolutionAlgebra.CommandLine

/-! ## What the command line says of itself

The name and the version of the program, and the texts that explain its arguments. -/

/-- The name of the program. -/
def programName : String := "samyama-sparql"

/-- The version of the program. -/
def version : String := "1.0.0"

/-- Lines as a text. -/
def unlines (lines : List String) : String := String.join (lines.map fun line => line ++ "\n")

/-- The explanation of the program. -/
def mainHelp : String := unlines [
  "SPARQL expression evaluator",
  "",
  "Usage: " ++ programName ++ " [OPTIONS] <COMMAND>",
  "",
  "Commands:",
  "  eval  Evaluate an expression against every solution (or group)",
  "  help  Print this message or the help of the given subcommand(s)",
  "",
  "Options:",
  "      --config <CONFIG>  YAML engine configuration",
  "      --format <FORMAT>  Output format [default: text] [possible values: text, json]",
  "  -h, --help             Print help",
  "  -V, --version          Print version"]

/-- The explanation of an evaluation. -/
def evaluationHelp : String := unlines [
  "Evaluate an expression against every solution (or group)",
  "",
  "Usage: " ++ programName ++ " eval [OPTIONS] --expr <EXPR> --bindings <BINDINGS>",
  "",
  "Options:",
  "      --config <CONFIG>      YAML engine configuration",
  "      --expr <EXPR>          JSON file with the expression tree",
  "      --bindings <BINDINGS>  JSON file with the input solutions",
  "      --format <FORMAT>      Output format [default: text] [possible values: text, json]",
  "      --group-by <GROUP_BY>  Group by these variables before evaluating",
  "      --bind <BIND>          Bind the result to this variable and print whole solutions",
  "      --aggregate            Group the whole input even without --group-by",
  "  -h, --help                 Print help"]

/-- The explanation of explanations. -/
def helpHelp : String := unlines [
  "Print this message or the help of the given subcommand(s)",
  "",
  "Usage: " ++ programName ++ " help [COMMAND]...",
  "",
  "Arguments:",
  "  [COMMAND]...  Print help for the subcommand(s)"]

/-- What is said of arguments that make no sense. -/
def misuseText : String := "error: unusable arguments; for more information, try '--help'."

/-! ## Options and commands -/

/-- How results are printed. -/
inductive Format where
  /-- As text. -/
  | text
  /-- As JSON. -/
  | json
deriving DecidableEq, Repr

/-- What an evaluation is to do. -/
structure Evaluation where
  /-- The file with the settings. -/
  settings : Option String
  /-- How results are printed. -/
  format : Format
  /-- The file with the expression. -/
  expression : String
  /-- The file with the solutions. -/
  solutions : String
  /-- The variables to group by. -/
  groupBy : List String
  /-- The variable to bind to the value of the expression. -/
  bind : Option String
  /-- Whether all solutions make one group if there is no variable to group by. -/
  aggregate : Bool
deriving DecidableEq, Repr

/-- What arguments ask for. -/
inductive Invocation where
  /-- An evaluation. -/
  | evaluate (evaluation : Evaluation)
  /-- An explanation. -/
  | explain (text : String)
  /-- The version. -/
  | version
  /-- Nothing that makes sense. -/
  | misuse
deriving DecidableEq, Repr

/-- An argument by its form. -/
inductive Argument where
  /-- An option with a long name, and the value after an equals sign. -/
  | long (name : String) (value : Option String)
  /-- Options of one letter. -/
  | short (letters : List Char)
  /-- Two hyphens, after which nothing is an option. -/
  | stop
  /-- Anything else. -/
  | plain (text : String)
deriving DecidableEq, Repr

/-- Splits the name of an option from its value. -/
def splitOption : List Char → List Char × Option (List Char)
  | [] => ([], none)
  | c :: cs =>
    if c == '=' then ([], some cs)
    else
      let (name, value) := splitOption cs
      (c :: name, value)

/-- The form of an argument. A single hyphen is no option. -/
def Argument.ofString (argument : String) : Argument :=
  match argument.toList with
  | ['-', '-'] => stop
  | '-' :: '-' :: cs =>
    let (name, value) := splitOption cs
    long (String.ofList name) (value.map String.ofList)
  | '-' :: c :: cs => short (c :: cs)
  | _ => plain argument

/-- The options read so far. -/
structure Options where
  /-- Whether the command has been read. -/
  hasCommand : Bool := false
  /-- The names of the options in the present place that may not come again. -/
  seen : List String := []
  /-- The file with the settings. -/
  settings : Option String := none
  /-- How results are printed. -/
  format : Format := .text
  /-- The file with the expression. -/
  expression : Option String := none
  /-- The file with the solutions. -/
  solutions : Option String := none
  /-- The variables to group by. -/
  groupBy : List String := []
  /-- The variable to bind. -/
  bind : Option String := none
  /-- Whether all solutions make one group. -/
  aggregate : Bool := false

namespace Options

/-- The options after the command. -/
def enterCommand (options : Options) : Options := { options with hasCommand := true, seen := [] }

/-- Notes that an option has come. -/
def note? (options : Options) (name : String) : Option Options :=
  if options.seen.contains name then none else some { options with seen := name :: options.seen }

/-- Notes an option with the name of a file, which may not be empty. -/
def noteFile? (options : Options) (name value : String) : Option Options :=
  if value.isEmpty then none else options.note? name

/-- Whether an option wants a value. -/
def wantsValue (options : Options) (name : String) : Bool :=
  ["config", "format"].contains name ||
    (options.hasCommand && ["expr", "bindings", "group-by", "bind"].contains name)

/-- Sets an option that wants a value. -/
def set? (options : Options) (name value : String) : Option Options :=
  if !options.wantsValue name then none
  else match name with
    | "config" => (options.noteFile? name value).map fun o => { o with settings := some value }
    | "expr" => (options.noteFile? name value).map fun o => { o with expression := some value }
    | "bindings" => (options.noteFile? name value).map fun o => { o with solutions := some value }
    | "group-by" => some { options with groupBy := options.groupBy ++ [value] }
    | "bind" => (options.note? name).map fun o => { o with bind := some value }
    | _ =>
      match value with
      | "text" => (options.note? name).map fun o => { o with format := .text }
      | "json" => (options.note? name).map fun o => { o with format := .json }
      | _ => none

/-- What the options ask for when there are no more. -/
def finish (options : Options) : Invocation :=
  match options.hasCommand, options.expression, options.solutions with
  | true, some expression, some solutions =>
    .evaluate ⟨options.settings, options.format, expression, solutions, options.groupBy,
      options.bind, options.aggregate⟩
  | _, _, _ => .misuse

/-- What an option without a value asks for, if it ends the reading. -/
def explain (options : Options) : Invocation :=
  .explain (if options.hasCommand then evaluationHelp else mainHelp)

/-- What is explained of some commands. -/
def explainCommands : List String → Invocation
  | [] => .explain mainHelp
  | ["eval"] => .explain evaluationHelp
  | ["help"] => .explain helpHelp
  | _ => .misuse

/-- What letters ask for. The first decides. -/
def ofLetters (options : Options) (letters : List Char) : Invocation :=
  match letters.head? with
  | some 'h' => options.explain
  | some 'V' => if options.hasCommand then .misuse else .version
  | _ => .misuse

/-- Reads arguments. -/
def read (options : Options) : List String → Invocation
  | [] => options.finish
  | argument :: rest =>
    match Argument.ofString argument with
    | .stop => if rest.isEmpty then options.finish else .misuse
    | .short letters => options.ofLetters letters
    | .plain text =>
      if options.hasCommand then .misuse
      else if text == "eval" then options.enterCommand.read rest
      else if text == "help" then explainCommands rest
      else .misuse
    | .long name (some value) =>
      match options.set? name value with
      | some options => options.read rest
      | none => .misuse
    | .long name none =>
      if name == "help" then options.explain
      else if name == "version" && !options.hasCommand then .version
      else if name == "aggregate" && options.hasCommand then
        match options.note? name with
        | some options => { options with aggregate := true }.read rest
        | none => .misuse
      else match rest with
        | [] => .misuse
        | value :: rest =>
          match Argument.ofString value, options.set? name value with
          | .plain _, some options => options.read rest
          | _, _ => .misuse

end Options

/-- What arguments ask for. -/
def Invocation.ofArguments (arguments : List String) : Invocation := ({} : Options).read arguments

end SolutionAlgebra.CommandLine
