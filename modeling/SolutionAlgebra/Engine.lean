import SolutionAlgebra.Expression.Compile
import SolutionAlgebra.Expression.Json
import SolutionAlgebra.Plan
import SolutionAlgebra.Settings

/-! # The engine

An engine holds settings and what names stand for: the variables seen so far, the prefixes of IRIs
and the extension functions. Reading terms and compiling expressions makes it see variables; it
groups, filters and extends solutions. -/

namespace SolutionAlgebra

/-- An engine. -/
structure Engine where
  /-- The settings. -/
  settings : Settings
  /-- The variables seen so far. -/
  known : VariableTable
  /-- The prefixes of IRIs. -/
  prefixes : Prefixes
  /-- The extension functions. -/
  functions : Functions

/-- Why the engine has no answer. -/
inductive EngineFault where
  /-- A text is no term. -/
  | parse (fault : TermFault)
  /-- An expression has no compiled form. -/
  | compile (fault : CompileFault)
  /-- Running over solutions fails. -/
  | execution (fault : ExecutionFault)

/-- The text of a fault. -/
def EngineFault.message : EngineFault → String
  | parse fault => "Parse error: " ++ fault.message
  | compile fault => "Compile error: " ++ fault.message
  | execution fault => "Execution error: " ++ fault.message

namespace Engine

/-- The engine of given settings. -/
def ofSettings (settings : Settings) : Engine where
  settings := settings
  known := .empty
  prefixes := settings.prefixes.foldl (fun table (name, space) => table.add name space)
    Prefixes.common
  functions := .empty

/-- A step that an engine takes. It may see variables even where it fails. -/
abbrev Task (α : Type) : Type := ExceptT EngineFault (StateM Engine) α

/-- Adds a prefix. -/
def addPrefix (engine : Engine) (name space : String) : Engine :=
  { engine with prefixes := engine.prefixes.add name space }

/-- Registers an extension function. -/
def register (engine : Engine) (name : String) (f : Extension) : Engine :=
  { engine with functions := engine.functions.register name f }

/-- The variable of a name that may have a sign. -/
def variableNamed (name : String) : Task Variable :=
  modifyGet fun engine =>
    let (v, known) := engine.known.intern name
    (v, { engine with known })

/-- The variables of some names. -/
def variablesNamed : List String → Task (List Variable)
  | [] => return []
  | name :: names => do
    let v ← variableNamed name
    let vs ← variablesNamed names
    return v :: vs

/-- The term that a text is. -/
def parseTerm (text : String) : Task Term := do
  match Term.parse (← get).prefixes text with
  | .error fault => throw (.parse fault)
  | .ok (.var v) => do
    modify fun engine => { engine with known := engine.known.insert v }
    return .var v
  | .ok t => return t

/-- Variables with terms, each read from its name and its text. -/
def readPairs : List (String × String) → Task (List (Variable × Term))
  | [] => return []
  | (name, text) :: pairs => do
    let v ← variableNamed name
    let t ← parseTerm text
    let rest ← readPairs pairs
    return (v, t) :: rest

/-- The solution that binds names to texts of terms. -/
def solution (pairs : List (String × String)) : Task Solution := do
  return Solution.ofList (← readPairs pairs)

/-- The compiled form of an expression. -/
def compile (e : Expression) : Task Compiled := do
  let engine ← get
  let scope : Scope := ⟨engine.prefixes, engine.functions, engine.settings.separator⟩
  let (result, progress) := (e.compile scope).run ⟨engine.known, 0⟩
  set { engine with known := progress.known }
  match result with
  | .ok compiled => return compiled
  | .error fault => throw (.compile fault)

/-! ## Plans -/

/-- The plan of grouping solutions by some variables. -/
def groupByPlan (rows : List Solution) (names : List String) : Task Plan := do
  return .groupBy (.values rows) (← variablesNamed names)

/-- The plan of keeping the solutions for which an expression is true. -/
def filterPlan (rows : List Solution) (predicate : Expression) : Task Plan := do
  let compiled ← compile predicate
  return .filter (.values rows) compiled (← get).settings.strict

/-- The plan of binding a variable to the value of an expression. -/
def extendPlan (rows : List Solution) (name : String) (e : Expression) : Task Plan := do
  let compiled ← compile e
  let v ← variableNamed name
  return .extend (.values rows) v compiled (← get).settings.strict

/-- All solutions of a plan. -/
def solutions (ambient : Ambient) (plan : Plan) : Task (List Solution) := do
  match plan.solutions ambient (← get).settings.batchSize with
  | .ok rows => return rows
  | .error fault => throw (.execution fault)

/-- The groups of solutions by some variables. -/
def groupBy (ambient : Ambient) (rows : List Solution) (names : List String) :
    Task (List Solution) := do
  solutions ambient (← groupByPlan rows names)

/-- The solutions for which an expression is true. -/
def filter (ambient : Ambient) (rows : List Solution) (predicate : Expression) :
    Task (List Solution) := do
  solutions ambient (← filterPlan rows predicate)

/-- The solutions with a variable bound to the value of an expression. -/
def extend (ambient : Ambient) (rows : List Solution) (name : String) (e : Expression) :
    Task (List Solution) := do
  solutions ambient (← extendPlan rows name e)

/-! ## Runs in a memory -/

/-- A step that an engine takes in a memory. It stops, with `none`, where room is missing. -/
abbrev Run (α : Type) : Type := ExceptT EngineFault (StateT Engine Option) α

/-- A step that needs no room for batches never stops. -/
instance : MonadLift Task Run := ⟨fun task engine => some (task engine)⟩

/-- All solutions of a plan, collected in a memory. -/
def solutionsIn (memory : Memory) (ambient : Ambient) (plan : Plan) : Run (List Solution) :=
  fun engine => do
    let found ← plan.solutionsIn memory ambient engine.settings.batchSize
    return (found.mapError .execution, engine)

/-- The groups of solutions by some variables, collected in a memory. -/
def groupByIn (memory : Memory) (ambient : Ambient) (rows : List Solution) (names : List String) :
    Run (List Solution) := do
  solutionsIn memory ambient (← groupByPlan rows names)

/-- The solutions for which an expression is true, collected in a memory. -/
def filterIn (memory : Memory) (ambient : Ambient) (rows : List Solution)
    (predicate : Expression) : Run (List Solution) := do
  solutionsIn memory ambient (← filterPlan rows predicate)

/-- The solutions with a variable bound to the value of an expression, collected in a memory. -/
def extendIn (memory : Memory) (ambient : Ambient) (rows : List Solution) (name : String)
    (e : Expression) : Run (List Solution) := do
  solutionsIn memory ambient (← extendPlan rows name e)

end Engine

end SolutionAlgebra
