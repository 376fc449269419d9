import SolutionAlgebra.CommandLine.Invocation
import SolutionAlgebra.Engine
import SolutionAlgebra.Json
import SolutionAlgebra.Settings

/-! # Running the command line

An evaluation reads the settings, the expression and the solutions from files, groups the solutions
if it is asked to, and prints a line for each value, or for each solution with the value bound. How
files are read and the memory in which solutions are collected are left to the caller. Where the
memory has no room for a batch, the run stops before it prints anything. -/

namespace SolutionAlgebra

/-- The texts of a fault, from the outside in: each repeats those of its causes. -/
def EngineFault.texts (fault : EngineFault) : List String :=
  match fault with
  | parse cause => [fault.message, cause.message]
  | compile (.term cause) =>
    [fault.message, (CompileFault.term cause).message, cause.message]
  | compile cause => [fault.message, cause.message]
  | execution (.evaluation cause) =>
    [fault.message, (ExecutionFault.evaluation cause).message, cause.message]
  | execution cause => [fault.message, cause.message]

namespace CommandLine

/-- Why an evaluation fails. -/
inductive RunFault where
  /-- The file with the settings cannot be read. -/
  | settingsFile (file reason : String)
  /-- The settings are at fault. -/
  | settings (file : String) (fault : SettingsReadFault)
  /-- A file cannot be read. -/
  | unreadable (file reason : String)
  /-- The text of a file is no expression. -/
  | expression (file : String)
  /-- The text of a file is no list of solutions. -/
  | solutions (file : String)
  /-- A solution has a term that is none. -/
  | solution (index : Nat) (fault : EngineFault)
  /-- The engine fails. -/
  | engine (fault : EngineFault)

/-- The texts of a fault, from the outside in. -/
def RunFault.texts : RunFault → List String
  | settingsFile file reason => ["loading config " ++ file, "IO error: " ++ reason, reason]
  | settings file .malformed => ["loading config " ++ file, "YAML error"]
  | settings file (.unusable fault) => ["loading config " ++ file, fault.message]
  | unreadable file reason => ["reading " ++ file, reason]
  | expression file => ["parsing expression tree " ++ file]
  | solutions file => ["parsing solutions " ++ file]
  | solution index fault => ("solution " ++ toString index) :: fault.texts
  | engine fault => fault.texts

/-- The text of a fault. -/
def RunFault.message (fault : RunFault) : String := String.intercalate ": " fault.texts

/-! ## Solutions in files -/

/-- The names and texts that an object holds, in the order of names. Of several with the same name
the last counts. -/
def rowOfMembers? (members : List (String × Json)) : Option (List (String × String)) := do
  let pairs ← members.mapM fun (name, value) => value.text?.map fun text => (name, text)
  return (Entries.ofList pairs).mergeSort fun a b => decide (a.1 ≤ b.1)

/-- The rows that a text of JSON holds. -/
def rows? (text : String) : Option (List (List (String × String))) := do
  match ← Json.read? text with
  | .array items => items.mapM fun item => match item with
    | .object members => rowOfMembers? members
    | _ => none
  | _ => none

/-- The solutions that rows make, from the one with a given number on. -/
def solutionsOf (index : Nat) :
    List (List (String × String)) → ExceptT RunFault (StateM Engine) (List Solution)
  | [] => return []
  | row :: rows => do
    let s ← ExceptT.adapt (RunFault.solution index) (Engine.solution row)
    let rest ← solutionsOf (index + 1) rows
    return s :: rest

/-! ## Lines -/

/-- The text of a value. -/
def valueText : Option Value → String
  | none => "UNBOUND"
  | some (.term t) => t.rdf
  | some (.terms ts) => "(" ++ String.intercalate ", " (ts.map Term.rdf) ++ ")"
  | some (.solution s) => s.text

/-- The line for a value. -/
def valueLine (format : Format) (value : Option Value) : String :=
  match format, value with
  | .text, value => valueText value
  | .json, none => Json.null.text
  | .json, value => (Json.string (valueText value)).text

/-- The line for the value of an expression, or for a fault in its place. -/
def outcomeLine (format : Format) : Outcome (Option Value) → String
  | .ok value => valueLine format value
  | .error fault => match format with
    | .text => "ERROR " ++ fault.message
    | .json => (Json.object [("error", .string fault.message)]).text

/-- The line for a solution. In JSON its variables are in the order of their names. -/
def solutionLine (format : Format) (s : Solution) : String :=
  match format with
  | .text => s.text
  | .json =>
    let members := s.entries.map fun (v, t) => (v.name, Json.string t.rdf)
    (Json.object ((Entries.ofList members).mergeSort fun a b => decide (a.1 ≤ b.1))).text

/-! ## Evaluations -/

/-- The lines for an expression and solutions, where the solutions of a plan are collected in some
way. -/
def linesBy {m : Type → Type} [Monad m] [MonadLiftT Engine.Task m]
    (collect : Plan → m (List Solution)) (ambient : Ambient) (evaluation : Evaluation)
    (e : Expression) (rows : List Solution) : m (List String) := do
  let rows ← if evaluation.aggregate || !evaluation.groupBy.isEmpty then do
      collect (← Engine.groupByPlan rows evaluation.groupBy)
    else pure rows
  match evaluation.bind with
  | some name => do
    let rows ← collect (← Engine.extendPlan rows name e)
    return rows.map (solutionLine evaluation.format)
  | none => do
    let compiled ← Engine.compile e
    return rows.map fun s => outcomeLine evaluation.format (compiled.evaluate ambient s)

/-- The lines for an expression and solutions. -/
def lines (ambient : Ambient) (evaluation : Evaluation) (e : Expression) (rows : List Solution) :
    Engine.Task (List String) :=
  linesBy (Engine.solutions ambient) ambient evaluation e rows

/-- The lines for an expression and solutions, which are collected in a memory. -/
def linesIn (memory : Memory) (ambient : Ambient) (evaluation : Evaluation) (e : Expression)
    (rows : List Solution) : Engine.Run (List String) :=
  linesBy (Engine.solutionsIn memory ambient) ambient evaluation e rows

/-- The lines for the texts of an expression and of solutions, from an engine with given settings.
It is `none` where the run stops. -/
def linesOf (memory : Memory) (ambient : Ambient) (evaluation : Evaluation) (settings : Settings)
    (e : Expression) (rows : List (List (String × String))) :
    Option (Except RunFault (List String)) :=
  match ((solutionsOf 0 rows).run).run (Engine.ofSettings settings) with
  | (.error fault, _) => some (.error fault)
  | (.ok rows, engine) =>
    (((linesIn memory ambient evaluation e rows).run).run engine).map fun found =>
      found.1.mapError .engine

variable {m : Type → Type} [Monad m]

/-- How files are read: the text of the file with a name, or the reason why there is none. -/
abbrev FileReader (m : Type → Type) : Type := String → m (Except String String)

/-- The settings that an evaluation names. -/
def readSettings (readFile : FileReader m) : Option String → ExceptT RunFault m Settings
  | none => return {}
  | some file => do
    match ← readFile file with
    | .error reason => throw (.settingsFile file reason)
    | .ok text =>
      match Settings.ofYaml text with
      | .ok settings => return settings
      | .error fault => throw (.settings file fault)

/-- The text of a file. -/
def readText (readFile : FileReader m) (file : String) : ExceptT RunFault m String := do
  match ← readFile file with
  | .ok text => return text
  | .error reason => throw (.unreadable file reason)

/-- The lines that an evaluation prints, or `none` where it stops. -/
def evaluate (readFile : FileReader m) (memory : Memory) (ambient : Ambient)
    (evaluation : Evaluation) : ExceptT RunFault m (Option (List String)) := do
  let settings ← readSettings readFile evaluation.settings
  let source ← readText readFile evaluation.expression
  let some e := Expression.read? source | throw (.expression evaluation.expression)
  let source ← readText readFile evaluation.solutions
  let some rows := rows? source | throw (.solutions evaluation.solutions)
  match linesOf memory ambient evaluation settings e rows with
  | none => return none
  | some (.ok lines) => return some lines
  | some (.error fault) => throw fault

/-- How a run ends. -/
structure Ending where
  /-- The number that tells whether the run has failed. -/
  code : Nat
  /-- What is printed. -/
  output : String
  /-- What is said of a failure. -/
  complaint : String := ""

/-- How a run ends that stops for want of room. -/
def Ending.stopped : Ending := { code := 101, output := "", complaint := "capacity overflow" }

/-- Runs the command line. -/
def run (readFile : FileReader m) (ambient : Ambient) (arguments : List String)
    (memory : Memory := .addressable) : m Ending := do
  match Invocation.ofArguments arguments with
  | .version => return { code := 0, output := unlines [programName ++ " " ++ version] }
  | .explain text => return { code := 0, output := text }
  | .misuse => return { code := 2, output := "", complaint := misuseText }
  | .evaluate evaluation =>
    match ← (evaluate readFile memory ambient evaluation).run with
    | .ok (some lines) => return { code := 0, output := unlines lines }
    | .ok none => return .stopped
    | .error fault => return { code := 1, output := "", complaint := "Error: " ++ fault.message }

end CommandLine

end SolutionAlgebra
