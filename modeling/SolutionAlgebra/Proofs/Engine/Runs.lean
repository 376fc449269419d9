import SolutionAlgebra.Engine
import SolutionAlgebra.Proofs.Fallible
import SolutionAlgebra.Proofs.Operator.Events

/-! # Runs of an engine

What the steps of an engine give when they are run, and the engine that they leave: reading a term
and naming variables make it see variables, compiling an expression those of the expression, and
running a plan none.

* **`Engine.parseTerm_run`**, **`Engine.variablesNamed_run`**, **`Engine.compile_run`**,
  **`Engine.solutions_run`** — the steps one by one.
* **`Engine.groupByPlan_run`**, **`Engine.filterPlan_run`**, **`Engine.extendPlan_run`** — the plans
  that the engine makes.
* **`Engine.Compiles`** — that a node of an expression has a compiled form for an engine.
* **`Engine.groupByIn_run`**, **`Engine.filterIn_run`**, **`Engine.extendIn_run`** — memory makes no
  difference to an engine where it has room for a batch. -/

namespace SolutionAlgebra.Engine

variable {engine : Engine}

/-- Asking for the engine leaves it as it is. -/
theorem get_run (engine : Engine) : ((get : Task Engine).run).run engine = (.ok engine, engine) :=
  rfl

/-! ## Terms and variables -/

/-- An engine that reads a literal or an IRI sees no variable. -/
theorem parseTerm_run {text : String} {t : Term} (h : Term.parse engine.prefixes text = .ok t)
    (hvar : ∀ v, t ≠ .var v) : ((parseTerm text).run).run engine = (.ok t, engine) := by
  rw [parseTerm, run_bind, get_run]
  simp only [h]
  cases t with
  | iri i => rfl
  | var v => exact absurd rfl (hvar v)
  | literal l => rfl

/-- An engine that reads a variable sees it. -/
theorem parseTerm_run_var {text : String} {v : Variable}
    (h : Term.parse engine.prefixes text = .ok (.var v)) :
    ((parseTerm text).run).run engine =
      (.ok (.var v), { engine with known := engine.known.insert v }) := by
  rw [parseTerm, run_bind, get_run]
  simp only [h]
  rfl

/-- What an engine reads is the term that the text is. -/
theorem parse_of_parseTerm_run {engine' : Engine} {text : String} {t : Term}
    (h : ((parseTerm text).run).run engine = (.ok t, engine')) :
    Term.parse engine.prefixes text = .ok t := by
  rw [parseTerm, run_bind, get_run] at h
  cases hparse : Term.parse engine.prefixes text with
  | error fault =>
    simp only [hparse] at h
    cases h
  | ok u =>
    simp only [hparse] at h
    cases u <;> cases h <;> rfl

/-- An engine that names a variable sees it. -/
theorem variableNamed_run (name : String) (engine : Engine) :
    ((variableNamed name).run).run engine =
      (.ok (.ofText name), { engine with known := (engine.known.intern name).2 }) := by
  rw [← engine.known.intern_fst name]
  rfl

/-- An engine that names variables sees them one after the other. -/
theorem variablesNamed_run (names : List String) (engine : Engine) :
    ((variablesNamed names).run).run engine =
      (.ok (names.map .ofText), { engine with
        known := names.foldl (fun table name => (table.intern name).2) engine.known }) := by
  induction names generalizing engine with
  | nil => rfl
  | cons name names ih =>
      rw [variablesNamed, run_bind, variableNamed_run]
      simp only [run_bind, ih]
      rfl

/-! ## Expressions -/

/-- What names stand for in the expressions of an engine. -/
def scope (engine : Engine) : Scope :=
  ⟨engine.prefixes, engine.functions, engine.settings.separator⟩

/-- An engine that compiles an expression sees the variables that the compilation reads. -/
theorem compile_run (e : Expression) (engine : Engine) :
    ((compile e).run).run engine =
      ((((e.compile engine.scope).run).run ⟨engine.known, 0⟩).1.mapError .compile, { engine with
        known := (((e.compile engine.scope).run).run ⟨engine.known, 0⟩).2.known }) := by
  rw [compile, run_bind, get_run]
  dsimp only [StateT.run, scope]
  generalize (e.compile ⟨engine.prefixes, engine.functions, engine.settings.separator⟩).run
    ⟨engine.known, 0⟩ = found
  obtain ⟨result, progress⟩ := found
  cases result <;> rfl

/-- That a node of an expression has a compiled form for an engine, however far the compilation of
the whole has come. -/
def Compiles (engine : Engine) (e : Expression) (compiled : Compiled) : Prop :=
  ∃ progress : Progress, (((e.compile engine.scope).run).run progress).1 = .ok compiled

/-- What an engine makes of an expression is its compiled form. -/
theorem compiles_of_compile {e : Expression} {compiled : Compiled}
    (h : (((compile e).run).run engine).1 = .ok compiled) : engine.Compiles e compiled := by
  rw [compile_run] at h
  exact ⟨⟨engine.known, 0⟩, mapError_eq_ok_iff.1 h⟩

/-! ## Plans -/

/-- An engine plans to group solutions by the variables of some names. -/
theorem groupByPlan_run (rows : List Solution) (names : List String) (engine : Engine) :
    ((groupByPlan rows names).run).run engine =
      (.ok (.groupBy (.values rows) (names.map .ofText)), { engine with
        known := names.foldl (fun table name => (table.intern name).2) engine.known }) := by
  rw [groupByPlan, run_bind, variablesNamed_run]
  rfl

/-- An engine plans to filter by what it makes of an expression. -/
theorem filterPlan_run {e : Expression} {compiled : Compiled} {engine' : Engine}
    (h : ((compile e).run).run engine = (.ok compiled, engine')) (rows : List Solution) :
    ((filterPlan rows e).run).run engine =
      (.ok (.filter (.values rows) compiled engine'.settings.strict), engine') := by
  rw [filterPlan, run_bind, h]
  rfl

/-- An engine plans to bind the variable of a name to what it makes of an expression. -/
theorem extendPlan_run {e : Expression} {compiled : Compiled} {engine' : Engine}
    (h : ((compile e).run).run engine = (.ok compiled, engine')) (rows : List Solution)
    (name : String) :
    ((extendPlan rows name e).run).run engine =
      (.ok (.extend (.values rows) (.ofText name) compiled engine'.settings.strict),
        { engine' with known := (engine'.known.intern name).2 }) := by
  rw [extendPlan, run_bind, h]
  simp only [run_bind, variableNamed_run]
  rfl

/-- An engine runs a plan in batches of the size that its settings say. -/
theorem solutions_run (ambient : Ambient) (plan : Plan) (engine : Engine) :
    ((solutions ambient plan).run).run engine =
      ((plan.solutions ambient engine.settings.batchSize).mapError .execution, engine) := by
  rw [solutions, run_bind, get_run]
  cases hplan : plan.solutions ambient engine.settings.batchSize with
  | error fault =>
      simp only [hplan]
      rfl
  | ok rows =>
      simp only [hplan]
      rfl

/-! ## Runs in a memory -/

/-- An engine collects a plan as it does without regard to memory where there is room for its
batches, and stops where there is none. -/
theorem solutionsIn_run (memory : Memory) (ambient : Ambient) (plan : Plan) (engine : Engine) :
    ((solutionsIn memory ambient plan).run).run engine =
      if memory.holds (max engine.settings.batchSize 1)
      then some (((solutions ambient plan).run).run engine) else none := by
  show (plan.solutionsIn memory ambient engine.settings.batchSize).bind
    (fun found => some (found.mapError EngineFault.execution, engine)) = _
  rw [solutions_run, Plan.solutionsIn, Operator.collectIn_eq]
  split <;> rfl

/-- Making the plan first needs no memory. -/
theorem solutionsIn_bind_run {memory : Memory} {task : Task Plan}
    (hroom : memory.holds (max engine.settings.batchSize 1) = true)
    (hsettings : ((task.run).run engine).2.settings = engine.settings) (ambient : Ambient) :
    ((do solutionsIn memory ambient (← task) : Run (List Solution)).run).run engine =
      some (((do solutions ambient (← task) : Task (List Solution)).run).run engine) := by
  have hlift : ((liftM task : Run Plan).run).run engine = some ((task.run).run engine) := rfl
  rw [run_bind, ExceptT.run_bind, StateT.run_bind, hlift]
  cases hrun : (task.run).run engine with
  | mk result after =>
      rw [hrun] at hsettings
      cases result with
      | error fault => rfl
      | ok plan =>
          have hafter : memory.holds (max after.settings.batchSize 1) = true := by
            rwa [show after.settings = engine.settings from hsettings]
          exact (solutionsIn_run memory ambient plan after).trans (if_pos hafter)

variable {memory : Memory} (hroom : memory.holds (max engine.settings.batchSize 1) = true)

include hroom

/-- With room for its batches, an engine groups as it does without regard to memory. -/
theorem groupByIn_run (ambient : Ambient) (rows : List Solution) (names : List String) :
    ((groupByIn memory ambient rows names).run).run engine =
      some (((groupBy ambient rows names).run).run engine) := by
  refine solutionsIn_bind_run hroom ?_ ambient
  rw [groupByPlan_run]

/-- So it filters. -/
theorem filterIn_run (ambient : Ambient) (rows : List Solution) (e : Expression) :
    ((filterIn memory ambient rows e).run).run engine =
      some (((filter ambient rows e).run).run engine) := by
  refine solutionsIn_bind_run hroom ?_ ambient
  -- neither a compiled expression nor a fault changes the settings
  rw [filterPlan, run_bind, compile_run]
  cases (((e.compile engine.scope).run).run ⟨engine.known, 0⟩).1 <;> rfl

/-- So it extends. -/
theorem extendIn_run (ambient : Ambient) (rows : List Solution) (name : String) (e : Expression) :
    ((extendIn memory ambient rows name e).run).run engine =
      some (((extend ambient rows name e).run).run engine) := by
  refine solutionsIn_bind_run hroom ?_ ambient
  rw [extendPlan, run_bind, compile_run]
  cases (((e.compile engine.scope).run).run ⟨engine.known, 0⟩).1 <;> rfl

end SolutionAlgebra.Engine
