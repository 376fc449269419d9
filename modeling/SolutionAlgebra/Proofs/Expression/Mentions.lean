import SolutionAlgebra.CommandLine.Run
import SolutionAlgebra.Proofs.Expression.Reads
import SolutionAlgebra.Proofs.Expression.Resolution
import SolutionAlgebra.Proofs.Term.VariableTable

/-! # Variables that a compilation sees

A compilation puts the variables that it reads into a table, in the order of the text: those of the
leaves, of the members of lists and of what aggregates collect. Where it fails, it has read what
stands before the first demand that is not met. Nothing else changes the table: an evaluation does
not see it.

* **`Demand.seen`** — the variables that are read up to the first demand that is not met.
* **`Expression.known_compile`** — these join the table, whether or not the compilation succeeds.
* **`Expression.leaves`**, **`Expression.mentions`** — the texts that an expression has for terms,
  and the variables that they are.
* **`Engine.compile_grows`** — what an engine knows after it has compiled an expression, and however
  often it evaluates it then. -/

namespace SolutionAlgebra

/-! ## Demands and variables -/

namespace Demand

/-- The variable that a compilation reads where a demand is met, if there is one. -/
def variableRead? (prefixes : Prefixes) : Demand → Option Variable
  | leaf text => Expression.variableOf? prefixes text
  | target _ (.term text) _ => Expression.variableOf? prefixes text
  | _ => none

/-- The variables that a compilation reads up to the first demand that is not met. -/
def seen (scope : Scope) (ds : List Demand) : List Variable :=
  (ds.takeWhile fun d => (d.fault? scope).isNone).filterMap (variableRead? scope.prefixes)

variable {scope : Scope} {d : Demand} {ds es : List Demand}

/-- A demand that is met lets the others follow. -/
theorem seen_cons_of_met (h : d.fault? scope = none) :
    seen scope (d :: ds) = (d.variableRead? scope.prefixes).toList ++ seen scope ds := by
  rw [seen, List.takeWhile_cons_of_pos (by rw [h]; rfl), List.filterMap_cons]
  cases d.variableRead? scope.prefixes <;> rfl

/-- Nothing is read from a demand on that is not met. -/
theorem seen_cons_of_unmet {fault : CompileFault} (h : d.fault? scope = some fault) :
    seen scope (d :: ds) = [] := by
  rw [seen, List.takeWhile_cons_of_neg (by rw [h]; exact Bool.false_ne_true)]
  rfl

/-- Demands that are all met let others follow. -/
theorem seen_append_of_met (h : ds.findSome? (·.fault? scope) = none) :
    seen scope (ds ++ es) = seen scope ds ++ seen scope es := by
  induction ds with
  | nil => rfl
  | cons d ds ih =>
      rw [List.findSome?_eq_none_iff, List.forall_mem_cons, ← List.findSome?_eq_none_iff] at h
      rw [List.cons_append, seen_cons_of_met h.1, seen_cons_of_met h.1, ih h.2, List.append_assoc]

/-- Demands of which one is not met let no others follow. -/
theorem seen_append_of_unmet {fault : CompileFault}
    (h : ds.findSome? (·.fault? scope) = some fault) : seen scope (ds ++ es) = seen scope ds := by
  induction ds with
  | nil => cases h
  | cons d ds ih =>
      cases hd : d.fault? scope with
      | some _ => rw [List.cons_append, seen_cons_of_unmet hd, seen_cons_of_unmet hd]
      | none =>
          rw [List.findSome?_cons, hd] at h
          rw [List.cons_append, seen_cons_of_met hd, seen_cons_of_met hd, ih h]

/-- Where all demands are met, all of their variables are read. -/
theorem seen_of_met (h : ds.findSome? (·.fault? scope) = none) :
    seen scope ds = ds.filterMap (variableRead? scope.prefixes) := by
  induction ds with
  | nil => rfl
  | cons d ds ih =>
      rw [List.findSome?_eq_none_iff, List.forall_mem_cons, ← List.findSome?_eq_none_iff] at h
      rw [seen_cons_of_met h.1, ih h.2, List.filterMap_cons]
      cases d.variableRead? scope.prefixes <;> rfl

/-- The variables that are read are the first ones. -/
theorem seen_prefix : seen scope ds <+: ds.filterMap (variableRead? scope.prefixes) :=
  (List.takeWhile_prefix _).filterMap _

/-- Demands without variables have nothing to be read. -/
theorem seen_eq_nil (h : ∀ d ∈ ds, d.variableRead? scope.prefixes = none) : seen scope ds = [] := by
  rw [← List.prefix_nil, ← List.filterMap_eq_nil_iff.2 h]
  exact seen_prefix

end Demand

namespace Expression

open Demand

/-! ## The table that a compilation leaves -/

variable {scope : Scope} {progress : Progress}

/-- One computation after another: what the first one reads joins the table, and then what the
second one reads if the first one succeeds. -/
theorem known_run_bind {α β : Type} {x : Compilation α} {f : α → Compilation β}
    {ds es : List Demand}
    (hfault : faultOf? ((x.run).run progress).1 = ds.findSome? (·.fault? scope))
    (hknown : ((x.run).run progress).2.known = progress.known.insertAll (seen scope ds))
    (hf : ∀ a next, (x.run).run progress = (.ok a, next) →
      (((f a).run).run next).2.known = next.known.insertAll (seen scope es)) :
    (((x >>= f).run).run progress).2.known =
      progress.known.insertAll (seen scope (ds ++ es)) := by
  rw [run_bind]
  cases hrun : (x.run).run progress with
  | mk r next =>
      rw [hrun] at hfault hknown
      cases r with
      | error fault =>
          rw [seen_append_of_unmet hfault.symm]
          exact hknown
      | ok a =>
          rw [seen_append_of_met hfault.symm, VariableTable.insertAll_append, ← hknown]
          exact hf a next hrun

/-- A computation whose result is changed leaves the table of the computation. -/
theorem known_run_bind_pure {α β : Type} {x : Compilation α} {g : α → β} :
    (((x >>= fun a => pure (g a)).run).run progress).2.known = ((x.run).run progress).2.known := by
  rw [run_bind]
  cases hrun : (x.run).run progress with
  | mk r next => cases r <;> rfl

/-- A leaf that is a variable is read. -/
theorem known_readTerm (text : String) :
    (((Compilation.readTerm scope text).run).run progress).2.known =
      progress.known.insertAll (seen scope [.leaf text]) := by
  unfold Compilation.readTerm
  cases hparse : Term.parse scope.prefixes text with
  | error fault =>
      have hunmet : (leaf text).fault? scope = some (.term fault) := by
        rw [fault?, hparse]
        rfl
      rw [seen_cons_of_unmet hunmet]
      rfl
  | ok t =>
      have hmet : (leaf text).fault? scope = none := by
        rw [fault?, hparse]
        rfl
      rw [seen_cons_of_met hmet, variableRead?, variableOf?, hparse]
      cases t <;> rfl

/-- The variables among several leaves are read. -/
theorem known_readTerms (texts : List String) (progress : Progress) :
    (((Compilation.readTerms scope texts).run).run progress).2.known =
      progress.known.insertAll (seen scope (texts.map .leaf)) := by
  induction texts generalizing progress with
  | nil => rfl
  | cons text texts ih =>
      rw [Compilation.readTerms, List.map_cons, ← List.singleton_append]
      refine known_run_bind ?_ (known_readTerm text) fun t next _ => ?_
      · rw [faultOf?_readTerm, List.findSome?_singleton]
      · rw [known_run_bind_pure, ih]

/-- A text is a variable if it is read as one. -/
theorem variableOf?_eq_some_iff {prefixes : Prefixes} {text : String} {v : Variable} :
    variableOf? prefixes text = some v ↔ Term.parse prefixes text = .ok (.var v) := by
  refine ⟨fun h => ?_, variableOf?_of_parse⟩
  unfold variableOf? at h
  split at h
  · next hparse =>
    cases h
    exact hparse
  · cases h

/-- What an aggregation collects of a leaf is read, unless it is the star. -/
theorem known_collectedOf {a : Aggregation} {name text : String} {distinct : Bool} :
    (((collectedOf scope a name distinct text).run).run progress).2.known =
      progress.known.insertAll (seen scope [.target name (.term text) distinct]) := by
  rw [collectedOf]
  by_cases hstar : Text.trim text.toList = ['*']
  · -- the star is no term, so that nothing is read
    have hnone : (target name (.term text) distinct).variableRead? scope.prefixes = none :=
      Option.eq_none_iff_forall_ne_some.2 fun v hv =>
        not_parse_of_star hstar (variableOf?_eq_some_iff.1 hv)
    rw [if_pos hstar, seen_eq_nil (List.forall_mem_singleton.2 hnone)]
    split <;> rfl
  · rw [if_neg hstar, Compilation.readTerm]
    cases hparse : Term.parse scope.prefixes text with
    | error fault =>
        have hunmet : (target name (.term text) distinct).fault? scope = some (.term fault) := by
          rw [fault?, if_neg hstar, hparse]
        rw [seen_cons_of_unmet hunmet]
        rfl
    | ok t =>
        cases t with
        | var v =>
            have hmet : (target name (.term text) distinct).fault? scope = none := by
              rw [fault?, if_neg hstar, hparse]
            rw [seen_cons_of_met hmet, variableRead?, variableOf?, hparse]
            rfl
        | iri _ | literal _ =>
            rw [seen_cons_of_unmet (by rw [fault?, if_neg hstar, hparse])]
            rfl

/-- The node of an operation is made without reading. -/
theorem known_nodeOf {b : Builtin} {place : Nat} {args : List Compiled} :
    (((nodeOf b place args).run).run progress).2.known = progress.known := by
  unfold nodeOf
  split
  · split <;> rfl
  · rfl
  · rfl

mutual

/-- **The variables that a compilation reads join the table**, up to the first demand that is not
met. -/
theorem known_compile {scope : Scope} (e : Expression) (progress : Progress) :
    (((e.compile scope).run).run progress).2.known =
      progress.known.insertAll (seen scope e.demands) := by
  cases e with
  | term text =>
      rw [compile, demands, ← List.append_nil [_]]
      refine known_run_bind ?_ (known_readTerm text) fun t next _ => ?_
      · rw [faultOf?_readTerm, List.findSome?_singleton]
      · cases t <;> rfl
  | list texts => rw [compile, demands, known_run_bind_pure, known_readTerms]
  | operation operator args =>
      rw [compile, demands]
      cases hname : Builtin.named? (lowerName operator) with
      | none =>
          rw [seen_cons_of_unmet (by rw [fault?, hname])]
          rfl
      | some b =>
          rw [seen_cons_of_met (by rw [fault?, hname])]
          -- a place is no variable
          refine @known_run_bind scope progress _ _ Compilation.nextPlace _ [] _ rfl rfl ?_
          refine fun place next _ => known_run_bind (faultOf?_compileAll args next)
            (known_compileAll args next) fun args' last _ => ?_
          rw [known_nodeOf, seen_eq_nil (List.forall_mem_singleton.2 rfl)]
          rfl
  | aggregate aggregation target distinct separator =>
      rw [compile, demands]
      cases hname : Aggregation.named? (lowerName aggregation) with
      | none =>
          rw [seen_cons_of_unmet (by rw [fault?, hname])]
          rfl
      | some a =>
          rw [seen_cons_of_met (by rw [fault?, hname])]
          cases target with
          | term text => exact known_run_bind_pure.trans known_collectedOf
          | _ => rw [seen_cons_of_unmet rfl]; rfl
  | call function args =>
      rw [compile, demands]
      cases hname : scope.functions.find? function with
      | none =>
          rw [seen_cons_of_unmet (by rw [fault?, hname])]
          rfl
      | some f =>
          rw [seen_cons_of_met (by rw [fault?, hname])]
          exact known_run_bind_pure.trans (known_compileAll args progress)

/-- The variables of several expressions join the table one expression after the other. -/
theorem known_compileAll {scope : Scope} (es : List Expression) (progress : Progress) :
    (((compileAll scope es).run).run progress).2.known =
      progress.known.insertAll (seen scope (demandsAll es)) := by
  cases es with
  | nil => rw [compileAll, demandsAll]; rfl
  | cons e es =>
      rw [compileAll, demandsAll]
      refine known_run_bind (faultOf?_compile e progress) (known_compile e progress)
        fun compiled next _ => ?_
      rw [known_run_bind_pure, known_compileAll es]

end

/-! ## The variables of an expression -/

mutual

/-- The texts that an expression has for terms, in order: its leaves, the members of its lists and
what its aggregates collect. -/
def leaves : Expression → List String
  | term text => [text]
  | list texts => texts
  | operation _ args => leavesAll args
  | aggregate _ (term text) _ _ => [text]
  | aggregate _ _ _ _ => []
  | call _ args => leavesAll args

/-- The texts that several expressions have for terms. -/
def leavesAll : List Expression → List String
  | [] => []
  | e :: es => leaves e ++ leavesAll es

end

/-- The variables that an expression mentions. -/
def mentions (prefixes : Prefixes) (e : Expression) : List Variable :=
  e.leaves.filterMap (variableOf? prefixes)

/-- The variables that an expression mentions are those that one of its leaves is read as. -/
theorem mem_mentions_iff {prefixes : Prefixes} {e : Expression} {v : Variable} :
    v ∈ e.mentions prefixes ↔ ∃ text ∈ e.leaves, Term.parse prefixes text = .ok (.var v) := by
  simp only [mentions, List.mem_filterMap, variableOf?_eq_some_iff]

mutual

/-- The variables that a compilation may read are those of the texts. -/
theorem filterMap_demands (prefixes : Prefixes) (e : Expression) :
    e.demands.filterMap (variableRead? prefixes) = e.leaves.filterMap (variableOf? prefixes) := by
  cases e with
  | term text => rfl
  | list texts =>
      rw [demands, leaves, List.filterMap_map]
      rfl
  | operation operator args =>
      rw [demands, leaves, List.filterMap_cons_none rfl, List.filterMap_append,
        filterMap_demandsAll prefixes args]
      exact List.append_nil _
  | aggregate aggregation target distinct separator =>
      rw [demands, List.filterMap_cons_none rfl]
      cases target <;> rfl
  | call function args =>
      rw [demands, leaves, List.filterMap_cons_none rfl, filterMap_demandsAll prefixes args]

/-- The variables that the compilations of several expressions may read. -/
theorem filterMap_demandsAll (prefixes : Prefixes) (es : List Expression) :
    (demandsAll es).filterMap (variableRead? prefixes) =
      (leavesAll es).filterMap (variableOf? prefixes) := by
  cases es with
  | nil => rfl
  | cons e es =>
      rw [demandsAll, leavesAll, List.filterMap_append, List.filterMap_append,
        filterMap_demands prefixes e, filterMap_demandsAll prefixes es]

end

/-- **The table that a compilation leaves** has grown by the variables of the expression, or by the
first of them if the compilation fails. -/
theorem grown_compile (scope : Scope) (e : Expression) (progress : Progress) :
    let run := ((e.compile scope).run).run progress
    (∃ vs, vs <+: e.mentions scope.prefixes ∧ progress.known.Grown run.2.known vs) ∧
      ∀ compiled, run.1 = .ok compiled →
        progress.known.Grown run.2.known (e.mentions scope.prefixes) := by
  dsimp only
  rw [known_compile, mentions, ← filterMap_demands]
  refine ⟨⟨_, seen_prefix, VariableTable.grown_insertAll _ _⟩, fun compiled h => ?_⟩
  have hmet : e.demands.findSome? (·.fault? scope) = none := by
    rw [← faultOf?_compile e progress, h]
    rfl
  rw [seen_of_met hmet]
  exact VariableTable.grown_insertAll _ _

end Expression

/-! ## What an engine knows -/

namespace Engine

open CommandLine (Evaluation lines)

/-- The engine after runs of some plans, one after the other, whether they succeed or fail. -/
def afterPlans (ambient : Ambient) (engine : Engine) (plans : List Plan) : Engine :=
  plans.foldl (fun engine plan => (((solutions ambient plan).run).run engine).2) engine

/-- Runs of plans leave an engine as it is. -/
theorem afterPlans_eq (ambient : Ambient) (engine : Engine) (plans : List Plan) :
    afterPlans ambient engine plans = engine := by
  induction plans with
  | nil => rfl
  | cons plan plans ih =>
      rw [afterPlans, List.foldl_cons, solutions_run]
      exact ih

/-- The lines for the values of an expression leave the engine that a compilation of it leaves. -/
theorem lines_run_snd (ambient : Ambient) (evaluation : Evaluation) (e : Expression)
    (rows : List Solution) :
    (((lines ambient { evaluation with groupBy := [], bind := none, aggregate := false } e
      rows).run).run engine).2 = (((compile e).run).run engine).2 := by
  show (((compile e >>= fun compiled => pure _).run).run engine).2 = _
  rw [run_bind]
  cases hrun : ((compile e).run).run engine with
  | mk r after => cases r <;> rfl

/-- **A compilation only adds the variables that it sees**, whether or not it succeeds: an engine
keeps the variables that it knows, each as the entry that it was and at its place, and only the
first variables that the expression mentions join them. If it succeeds, these are all that the
expression mentions, each once. Evaluations leave the engine as it is then, however many there
are. -/
theorem compile_grows (engine : Engine) (e : Expression) :
    let run := ((compile e).run).run engine
    run.2 = { engine with known := run.2.known } ∧
    (∃ vs, vs <+: e.mentions engine.prefixes ∧ engine.known.Grown run.2.known vs) ∧
    ∀ compiled, run.1 = .ok compiled →
      engine.known.Grown run.2.known (e.mentions engine.prefixes) ∧
      (∀ v, v ∈ run.2.known.entries ↔ v ∈ engine.known.entries ∨
        ∃ text ∈ e.leaves, Term.parse engine.prefixes text = .ok (.var v)) ∧
      (engine.known.entries.Nodup → run.2.known.entries.Nodup) ∧
      ∀ ambient, (∀ plans, afterPlans ambient run.2 plans = run.2) ∧
        ∀ (evaluation : Evaluation) (rows : List Solution),
          (((lines ambient { evaluation with groupBy := [], bind := none, aggregate := false } e
            rows).run).run engine).2 = run.2 := by
  intro run
  have hrun : run = _ := compile_run e engine
  obtain ⟨hgrown, hall⟩ := Expression.grown_compile engine.scope e ⟨engine.known, 0⟩
  have hknown : run.2.known =
      (((e.compile engine.scope).run).run ⟨engine.known, 0⟩).2.known := by rw [hrun]
  refine ⟨hknown ▸ congrArg Prod.snd hrun, hknown ▸ hgrown, fun compiled h => ?_⟩
  rw [hrun] at h
  have hgrown := hall compiled (mapError_eq_ok_iff.1 h)
  rw [← hknown] at hgrown
  refine ⟨hgrown, fun v => ?_, fun _ => run.2.known.nodup_keys,
    fun ambient => ⟨afterPlans_eq ambient run.2, ?_⟩⟩
  · rw [hgrown.mem_iff, Expression.mem_mentions_iff]
    rfl
  · exact fun evaluation rows => lines_run_snd ambient evaluation e rows

/-- A choice that mentions the label of a blank node, two further variables, and one that the engine
knows, next to a count that mentions none. -/
theorem compile_grows_blank :
    let engine : Engine := { ofSettings {} with known := .insertAll .empty [⟨"y"⟩, ⟨"z"⟩] }
    let e := Expression.operation "If" [.operation "in" [.term "?x", .list ["_:b", "$y", "\"a\""]],
      .aggregate "count" (.term "*") false none, .aggregate "max" (.term "?v") true none]
    let compiled := Compiled.choose
      (.apply .among 1 [.lookup ⟨"x"⟩, .list [.var ⟨"_:b"⟩, .var ⟨"y"⟩, .literal (.plain "a")]])
      (.aggregate .count .rows false " ") (.aggregate .greatest (.values ⟨"v"⟩) true " ")
    let run := ((compile e).run).run engine
    run.1 = .ok compiled ∧ run.2.known.entries = [⟨"y"⟩, ⟨"z"⟩, ⟨"x"⟩, ⟨"_:b"⟩, ⟨"v"⟩] ∧
      engine.known.Grown run.2.known [⟨"x"⟩, ⟨"_:b"⟩, ⟨"y"⟩, ⟨"v"⟩] := by
  intro engine e compiled run
  have hrun : run.1 = .ok compiled := by rfl
  have hmentions : e.mentions engine.prefixes = [⟨"x"⟩, ⟨"_:b"⟩, ⟨"y"⟩, ⟨"v"⟩] := by rfl
  have hgrown := ((compile_grows engine e).2.2 compiled hrun).1
  rw [hmentions] at hgrown
  exact ⟨hrun, by rfl, hgrown⟩

end Engine

end SolutionAlgebra
