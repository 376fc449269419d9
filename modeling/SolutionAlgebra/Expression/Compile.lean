import SolutionAlgebra.Compiled
import SolutionAlgebra.Expression.Basic
import SolutionAlgebra.Term.Parser
import SolutionAlgebra.Text.Case

/-! # Compilation

Compiling an expression looks up its names and reads its leaves. A node's own name comes first,
then its arguments from left to right; the first name or leaf that fails decides the fault. Every
variable that is read joins the table of variables, even where the compilation fails later on. -/

namespace SolutionAlgebra

/-- Why a node has no compiled form although its name is known. -/
inductive Unsupported where
  /-- A choice without exactly three arguments. -/
  | choice
  /-- An aggregation over all members of a group that only counting without `distinct` allows. -/
  | allRows (aggregation : String) (distinct : Bool)
  /-- An aggregation over a term that is no variable. -/
  | constant (aggregation : String) (t : Term)
  /-- An aggregation over an expression that is no leaf. -/
  | nested (aggregation : String) (target : Expression)

/-- The text of a cause. -/
def Unsupported.message : Unsupported → String
  | choice => "if requires exactly 3 arguments"
  | allRows aggregation distinct =>
    aggregation ++ "(" ++ (if distinct then "DISTINCT " else "") ++ "*)"
  | constant aggregation t => aggregation ++ " over non-variable " ++ t.rdf
  | nested aggregation target => aggregation ++ " over " ++ target.display

/-- Why an expression has no compiled form. -/
inductive CompileFault where
  /-- No operation has the name. -/
  | operator (name : String)
  /-- No aggregation has the name. -/
  | aggregation (name : String)
  /-- No extension function has the name. -/
  | function (name : String)
  /-- A node without a compiled form. -/
  | unsupported (cause : Unsupported)
  /-- A leaf that is no term. -/
  | term (fault : TermFault)

/-- The text of a fault. -/
def CompileFault.message : CompileFault → String
  | operator name => "Unknown operator: " ++ name
  | aggregation name => "Unknown aggregation: " ++ name
  | function name => "Unknown function: " ++ name
  | unsupported cause => "Unsupported expression: " ++ cause.message
  | term fault => "Invalid term: " ++ fault.message

/-- What names stand for. -/
structure Scope where
  /-- The prefixes of IRIs. -/
  prefixes : Prefixes
  /-- The extension functions. -/
  functions : Functions
  /-- The separator of concatenations that name none. -/
  separator : String

/-- What changes in the course of a compilation. -/
structure Progress where
  /-- The variables read so far. -/
  known : VariableTable
  /-- The number of operations met so far. -/
  places : Nat

/-- A step of a compilation. -/
abbrev Compilation (α : Type) : Type := ExceptT CompileFault (StateM Progress) α

namespace Compilation

/-- Puts a variable into the table. -/
def see (v : Variable) : Compilation Unit :=
  modify fun p => { p with known := p.known.insert v }

/-- The place of a further operation. -/
def nextPlace : Compilation Nat :=
  modifyGet fun p => (p.places, { p with places := p.places + 1 })

/-- Reads a leaf. -/
def readTerm (scope : Scope) (text : String) : Compilation Term :=
  match Term.parse scope.prefixes text with
  | .error fault => throw (.term fault)
  | .ok (.var v) => do
    see v
    return .var v
  | .ok t => return t

/-- Reads several leaves. -/
def readTerms (scope : Scope) : List String → Compilation (List Term)
  | [] => return []
  | text :: texts => do
    let t ← readTerm scope text
    let ts ← readTerms scope texts
    return t :: ts

end Compilation

namespace Expression

/-- A text in lower case. -/
def lowerName (name : String) : String := String.ofList (Text.lowercase name.toList)

/-- What an aggregation over a leaf collects. -/
def collectedOf (scope : Scope) (a : Aggregation) (name : String) (distinct : Bool)
    (text : String) : Compilation Collected := do
  if Text.trim text.toList = ['*'] then
    if a ≠ .count || distinct then throw (.unsupported (.allRows name distinct))
    return .rows
  match ← Compilation.readTerm scope text with
  | .var v => return .values v
  | other => throw (.unsupported (.constant name other))

/-- The node of an operation, of which choice and `coalesce` evaluate their arguments themselves. -/
def nodeOf (b : Builtin) (place : Nat) (args : List Compiled) : Compilation Compiled :=
  match b with
  | .choice => match args with
    | [condition, yes, no] => return .choose condition yes no
    | _ => throw (.unsupported .choice)
  | .coalesce => return .coalesce args
  | _ => return .apply b place args

mutual

/-- The compiled form of an expression. -/
def compile (scope : Scope) : Expression → Compilation Compiled
  | term text => do
    match ← Compilation.readTerm scope text with
    | .var v => return .lookup v
    | t => return .constant t
  | list texts => do return .list (← Compilation.readTerms scope texts)
  | operation operator args => do
    match Builtin.named? (lowerName operator) with
    | none => throw (.operator operator)
    | some b => do
      let place ← Compilation.nextPlace
      let args ← compileAll scope args
      nodeOf b place args
  | aggregate aggregation target distinct separator => do
    match Aggregation.named? (lowerName aggregation) with
    | none => throw (.aggregation aggregation)
    | some a => do
      let collected ← match target with
        | term text => collectedOf scope a aggregation distinct text
        | other => throw (.unsupported (.nested aggregation other))
      return .aggregate a collected distinct (separator.getD scope.separator)
  | call function args => do
    match scope.functions.find? function with
    | none => throw (.function function)
    | some f => return .call f (← compileAll scope args)

/-- The compiled forms of several expressions. -/
def compileAll (scope : Scope) : List Expression → Compilation (List Compiled)
  | [] => return []
  | e :: es => do
    let compiled ← compile scope e
    let rest ← compileAll scope es
    return compiled :: rest

end

end Expression

end SolutionAlgebra
