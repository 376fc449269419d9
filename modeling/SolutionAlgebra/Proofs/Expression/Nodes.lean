import Mathlib.Data.List.Forall2
import SolutionAlgebra.Proofs.Expression.Aggregates

/-! # Nodes and their compiled forms

The compiled form of an expression has the shape of the expression: every node has a compiled form
of its own, which is made of the compiled forms of the nodes below it and of what its name stands
for.

* **`Expression.CompilesTo`** — the compiled forms of the nodes.
* **`Expression.compilesTo_of_compile`** — what a compilation gives is made in this way.
* **`Expression.exists_compile`** — an expression that has a compiled form is compiled whatever was
  compiled before it. -/

namespace SolutionAlgebra.Expression

/-- The compiled form of an expression, node by node. -/
inductive CompilesTo (scope : Scope) : Expression → Compiled → Prop where
  /-- A leaf that is a variable. -/
  | variable {text : String} {v : Variable} (h : Term.parse scope.prefixes text = .ok (.var v)) :
      CompilesTo scope (.term text) (.lookup v)
  /-- Any other leaf. -/
  | constant {text : String} {t : Term} (h : Term.parse scope.prefixes text = .ok t)
      (hvar : ∀ v, t ≠ .var v) : CompilesTo scope (.term text) (.constant t)
  /-- A list of leaves. -/
  | list {texts : List String} {ts : List Term}
      (h : List.Forall₂ (fun text t => Term.parse scope.prefixes text = .ok t) texts ts) :
      CompilesTo scope (.list texts) (.list ts)
  /-- A choice. -/
  | choice {operator : String} {condition yes no : Expression} {condition' yes' no' : Compiled}
      (hname : Builtin.named? (lowerName operator) = some .choice)
      (hcondition : CompilesTo scope condition condition') (hyes : CompilesTo scope yes yes')
      (hno : CompilesTo scope no no') :
      CompilesTo scope (.operation operator [condition, yes, no]) (.choose condition' yes' no')
  /-- A `coalesce`. -/
  | coalesce {operator : String} {args : List Expression} {args' : List Compiled}
      (hname : Builtin.named? (lowerName operator) = some .coalesce)
      (hargs : List.Forall₂ (CompilesTo scope) args args') :
      CompilesTo scope (.operation operator args) (.coalesce args')
  /-- Any other operation. -/
  | operation {operator : String} {b : Builtin} {place : Nat} {args : List Expression}
      {args' : List Compiled} (hname : Builtin.named? (lowerName operator) = some b)
      (hchoice : b ≠ .choice) (hcoalesce : b ≠ .coalesce)
      (hargs : List.Forall₂ (CompilesTo scope) args args') :
      CompilesTo scope (.operation operator args) (.apply b place args')
  /-- A count of all members of a group. -/
  | rows {aggregation text : String} {separator : Option String}
      (hname : Aggregation.named? (lowerName aggregation) = some .count)
      (hstar : Text.trim text.toList = ['*']) :
      CompilesTo scope (.aggregate aggregation (.term text) false separator)
        (.aggregate .count .rows false (separator.getD scope.separator))
  /-- An aggregation over the terms of a variable. -/
  | values {aggregation text : String} {a : Aggregation} {v : Variable} {distinct : Bool}
      {separator : Option String} (hname : Aggregation.named? (lowerName aggregation) = some a)
      (h : Term.parse scope.prefixes text = .ok (.var v)) :
      CompilesTo scope (.aggregate aggregation (.term text) distinct separator)
        (.aggregate a (.values v) distinct (separator.getD scope.separator))
  /-- A call of an extension function. -/
  | call {function : String} {f : Extension} {args : List Expression} {args' : List Compiled}
      (hname : scope.functions.find? function = some f)
      (hargs : List.Forall₂ (CompilesTo scope) args args') :
      CompilesTo scope (.call function args) (.call f args')

variable {scope : Scope} {progress : Progress}

/-- The compiled form of a leaf. -/
theorem compilesTo_of_term {text : String} {compiled : Compiled}
    (h : ((((term text).compile scope).run).run progress).1 = .ok compiled) :
    (term text).CompilesTo scope compiled := by
  rw [compile] at h
  obtain ⟨t, _, hread, h⟩ := run_bind_ok_iff.1 h
  have hparse := parse_of_readTerm (congrArg Prod.fst hread)
  split at h
  · next v =>
    cases h
    exact .variable hparse
  · next t hvar =>
    cases h
    exact .constant hparse hvar

/-- Leaves are read as they are parsed. -/
theorem parse_of_readTerms {texts : List String} {ts : List Term}
    (h : (((Compilation.readTerms scope texts).run).run progress).1 = .ok ts) :
    List.Forall₂ (fun text t => Term.parse scope.prefixes text = .ok t) texts ts := by
  induction texts generalizing progress ts with
  | nil =>
      cases h
      exact .nil
  | cons text texts ih =>
      rw [Compilation.readTerms] at h
      obtain ⟨t, _, hread, h⟩ := run_bind_ok_iff.1 h
      obtain ⟨rest, _, hrest, h⟩ := run_bind_ok_iff.1 h
      cases h
      exact .cons (parse_of_readTerm (congrArg Prod.fst hread)) (ih (congrArg Prod.fst hrest))

/-- The compiled form of an operation. -/
theorem compilesTo_of_nodeOf {operator : String} {b : Builtin} {place : Nat}
    {args : List Expression} {args' : List Compiled} {compiled : Compiled}
    (hname : Builtin.named? (lowerName operator) = some b)
    (hargs : List.Forall₂ (CompilesTo scope) args args')
    (h : (((nodeOf b place args').run).run progress).1 = .ok compiled) :
    (operation operator args).CompilesTo scope compiled := by
  unfold nodeOf at h
  split at h
  · -- a choice has three arguments
    split at h
    · next condition' yes' no' =>
      cases h
      obtain _ | ⟨hcondition, _ | ⟨hyes, _ | ⟨hno, _ | _⟩⟩⟩ := hargs
      exact .choice hname hcondition hyes hno
    · cases h
  · cases h
    exact .coalesce hname hargs
  · next hchoice hcoalesce =>
    cases h
    exact .operation hname hchoice hcoalesce hargs

/-- The compiled form of an aggregate. -/
theorem compilesTo_of_aggregate {aggregation : String} {target : Expression} {distinct : Bool}
    {separator : Option String} {compiled : Compiled}
    (h : ((((aggregate aggregation target distinct separator).compile scope).run).run progress).1 =
      .ok compiled) :
    (aggregate aggregation target distinct separator).CompilesTo scope compiled := by
  cases target with
  | term text =>
      obtain ⟨a, collected, hname, rfl, ⟨hstar, rfl, rfl, rfl⟩ | ⟨v, hparse, rfl⟩⟩ :=
        aggregate_cases h
      · exact .rows hname hstar
      · exact .values hname hparse
  | _ =>
      rw [compile] at h
      split at h
      · cases h
      · obtain ⟨_, _, hthrow, -⟩ := run_bind_ok_iff.1 h
        cases hthrow

mutual

/-- **What a compilation gives is made node by node.** -/
theorem compilesTo_of_compile {scope : Scope} {progress : Progress} {compiled : Compiled}
    (e : Expression) (h : (((e.compile scope).run).run progress).1 = .ok compiled) :
    e.CompilesTo scope compiled := by
  cases e with
  | term text => exact compilesTo_of_term h
  | list texts =>
      rw [compile] at h
      obtain ⟨ts, _, hread, h⟩ := run_bind_ok_iff.1 h
      cases h
      exact .list (parse_of_readTerms (congrArg Prod.fst hread))
  | operation operator args =>
      rw [compile] at h
      split at h
      · cases h
      · next b hname =>
        -- first a place is taken, then the arguments are compiled
        obtain ⟨place, _, -, h⟩ := run_bind_ok_iff.1 h
        obtain ⟨args', _, hargs, h⟩ := run_bind_ok_iff.1 h
        exact compilesTo_of_nodeOf hname (compilesTo_of_compileAll args (congrArg Prod.fst hargs)) h
  | aggregate aggregation target distinct separator => exact compilesTo_of_aggregate h
  | call function args =>
      rw [compile] at h
      split at h
      · cases h
      · next f hname =>
        obtain ⟨args', _, hargs, h⟩ := run_bind_ok_iff.1 h
        cases h
        exact .call hname (compilesTo_of_compileAll args (congrArg Prod.fst hargs))

/-- Several expressions are compiled one by one. -/
theorem compilesTo_of_compileAll {scope : Scope} {progress : Progress} {compiled : List Compiled}
    (es : List Expression) (h : (((compileAll scope es).run).run progress).1 = .ok compiled) :
    List.Forall₂ (CompilesTo scope) es compiled := by
  cases es with
  | nil =>
      rw [compileAll] at h
      cases h
      exact .nil
  | cons e es =>
      rw [compileAll] at h
      obtain ⟨e', _, he, h⟩ := run_bind_ok_iff.1 h
      obtain ⟨es', _, hes, h⟩ := run_bind_ok_iff.1 h
      cases h
      exact .cons (compilesTo_of_compile e (congrArg Prod.fst he))
        (compilesTo_of_compileAll es (congrArg Prod.fst hes))

end

/-! ## Expressions that are compiled -/

/-- A leaf that is parsed is read. -/
theorem exists_readTerm {text : String} {t : Term} (h : Term.parse scope.prefixes text = .ok t)
    (progress : Progress) :
    ∃ next, ((Compilation.readTerm scope text).run).run progress = (.ok t, next) := by
  unfold Compilation.readTerm
  rw [h]
  cases t <;> exact ⟨_, rfl⟩

/-- Leaves that are parsed are read. -/
theorem exists_readTerms {texts : List String} {ts : List Term}
    (h : List.Forall₂ (fun text t => Term.parse scope.prefixes text = .ok t) texts ts)
    (progress : Progress) :
    ∃ next, ((Compilation.readTerms scope texts).run).run progress = (.ok ts, next) := by
  induction h generalizing progress with
  | nil => exact ⟨progress, rfl⟩
  | cons hparse _ ih =>
      obtain ⟨middle, hread⟩ := exists_readTerm hparse progress
      obtain ⟨next, hrest⟩ := ih middle
      refine ⟨next, ?_⟩
      rw [Compilation.readTerms, run_bind, hread]
      simp only [run_bind, hrest]
      rfl

/-- The compiled form of a leaf that is a given term. -/
def leafOf : Term → Compiled
  | .var v => .lookup v
  | t => .constant t

/-- A leaf that is parsed is compiled to the leaf of the term. -/
theorem run_compile_leaf {text : String} {t : Term}
    (h : Term.parse scope.prefixes text = .ok t) (progress : Progress) :
    ∃ next, (((term text).compile scope).run).run progress = (.ok (leafOf t), next) := by
  obtain ⟨next, hread⟩ := exists_readTerm h progress
  rw [compile, run_bind, hread]
  cases t <;> exact ⟨next, rfl⟩

/-- A list whose members are parsed is compiled to the list of the terms. -/
theorem run_compile_list {texts : List String} {ts : List Term}
    (h : List.Forall₂ (fun text t => Term.parse scope.prefixes text = .ok t) texts ts)
    (progress : Progress) :
    ∃ next, (((list texts).compile scope).run).run progress = (.ok (.list ts), next) := by
  obtain ⟨next, hread⟩ := exists_readTerms h progress
  refine ⟨next, ?_⟩
  rw [compile, run_bind, hread]
  rfl

/-- The node of an operation is made of the compiled forms of its arguments, which are compiled when
one more operation is met. -/
theorem run_compile_operation {operator : String} {b : Builtin} {args : List Expression}
    {compiled : List Compiled} {node : Compiled} {next : Progress}
    (hname : Builtin.named? (lowerName operator) = some b)
    (hargs : ((compileAll scope args).run).run { progress with places := progress.places + 1 } =
      (.ok compiled, next))
    (hnode : nodeOf b progress.places compiled = pure node) :
    (((operation operator args).compile scope).run).run progress = (.ok node, next) := by
  have hplace : ((Compilation.nextPlace).run).run progress =
      (.ok progress.places, { progress with places := progress.places + 1 }) := rfl
  rw [compile, hname]
  simp only [run_bind, hplace, hargs, hnode]
  rfl

/-- An operation is compiled after its arguments, if its node is. -/
theorem exists_compile_operation {operator : String} {b : Builtin} {args : List Expression}
    (hname : Builtin.named? (lowerName operator) = some b)
    (hargs : ∀ progress, ∃ compiled next,
      ((compileAll scope args).run).run progress = (.ok compiled, next) ∧
        ∀ place, ∃ node, nodeOf b place compiled = pure node) (progress : Progress) :
    ∃ compiled next,
      (((operation operator args).compile scope).run).run progress = (.ok compiled, next) := by
  obtain ⟨compiled, next, hcompiled, hnode⟩ :=
    hargs { progress with places := progress.places + 1 }
  obtain ⟨node, hnode⟩ := hnode progress.places
  exact ⟨node, next, run_compile_operation hname hcompiled hnode⟩

mutual

/-- **An expression that has a compiled form is compiled**, whatever variables were read and
operations met before it. -/
theorem exists_compile {scope : Scope} {compiled : Compiled} (e : Expression)
    (h : e.CompilesTo scope compiled) (progress : Progress) :
    ∃ compiled' next, ((e.compile scope).run).run progress = (.ok compiled', next) := by
  cases h with
  | «variable» h => exact ⟨_, run_compile_leaf h progress⟩
  | constant h _ => exact ⟨_, run_compile_leaf h progress⟩
  | list h => exact ⟨_, run_compile_list h progress⟩
  | choice hname hcondition hyes hno =>
      refine exists_compile_operation hname (fun progress => ?_) progress
      obtain ⟨compiled, next, hcompiled, hlength⟩ :=
        exists_compileAll _ (.cons hcondition (.cons hyes (.cons hno .nil))) progress
      -- as many arguments are compiled as there are
      obtain ⟨condition, yes, no, rfl⟩ := List.length_eq_three.1 hlength
      exact ⟨_, next, hcompiled, fun _ => ⟨_, rfl⟩⟩
  | coalesce hname hargs =>
      refine exists_compile_operation hname (fun progress => ?_) progress
      obtain ⟨compiled, next, hcompiled, -⟩ := exists_compileAll _ hargs progress
      exact ⟨compiled, next, hcompiled, fun _ => ⟨_, rfl⟩⟩
  | @operation operator b place args args' hname hchoice hcoalesce hargs =>
      refine exists_compile_operation hname (fun progress => ?_) progress
      obtain ⟨compiled, next, hcompiled, -⟩ := exists_compileAll _ hargs progress
      refine ⟨compiled, next, hcompiled, fun place => ⟨.apply b place compiled, ?_⟩⟩
      unfold nodeOf
      split
      · exact absurd rfl hchoice
      · exact absurd rfl hcoalesce
      · rfl
  | @rows aggregation text separator hname hstar =>
      refine ⟨.aggregate .count .rows false (separator.getD scope.separator), progress, ?_⟩
      rw [compile, hname]
      simp only [collectedOf, if_pos hstar]
      rfl
  | @values aggregation text a v distinct separator hname h =>
      obtain ⟨next, hread⟩ := exists_readTerm h progress
      have hstar : ¬ Text.trim text.toList = ['*'] := fun hstar => not_parse_of_star hstar h
      refine ⟨.aggregate a (.values v) distinct (separator.getD scope.separator), next, ?_⟩
      rw [compile, hname]
      simp only [collectedOf, if_neg hstar, run_bind, hread]
      rfl
  | @call function f args args' hname hargs =>
      obtain ⟨compiled, next, hcompiled, -⟩ := exists_compileAll _ hargs progress
      refine ⟨.call f compiled, next, ?_⟩
      rw [compile, hname]
      simp only [run_bind, hcompiled]
      rfl

/-- Expressions that have compiled forms are compiled one after the other. -/
theorem exists_compileAll {scope : Scope} {compiled : List Compiled} (es : List Expression)
    (h : List.Forall₂ (CompilesTo scope) es compiled) (progress : Progress) :
    ∃ compiled' next, ((compileAll scope es).run).run progress = (.ok compiled', next) ∧
      compiled'.length = es.length := by
  cases h with
  | nil => exact ⟨[], progress, by rw [compileAll]; rfl, rfl⟩
  | cons h hrest =>
      obtain ⟨first, middle, hfirst⟩ := exists_compile _ h progress
      obtain ⟨rest, next, hrest, hlength⟩ := exists_compileAll _ hrest middle
      refine ⟨first :: rest, next, ?_, congrArg (· + 1) hlength⟩
      rw [compileAll, run_bind, hfirst]
      simp only [run_bind, hrest]
      rfl

end

end SolutionAlgebra.Expression
