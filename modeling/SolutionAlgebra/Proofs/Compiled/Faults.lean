import Mathlib.Data.List.Forall2
import Mathlib.Logic.Relation
import SolutionAlgebra.Proofs.Expression.Nodes

/-! # The way of a fault

A fault comes from one node of an expression: an operation that refuses its arguments, a choice that
is not decided or whose side has no term, a `coalesce` without a term, or an aggregation. From there
it goes up. An operation lets the fault of the first failing argument through, and a choice that of
its condition or of the side that is decided for. A `coalesce` and a call of an extension function
let none through.

* **`Compiled.Raises`** — that a fault comes from a node itself.
* **`Compiled.LetsThrough`** — that a node lets the faults of a node below it through.
* **`Compiled.Escapes`** — that a fault comes from a node below, and all nodes above that one let it
  through.
* **`Compiled.evaluate_eq_error_iff`** — the faults of an evaluation are those that escape.
* **`Expression.faults_of_compile`** — the faults of the compiled form of an expression. -/

namespace SolutionAlgebra

namespace Compiled

/-! ## Choices -/

/-- The faults of values that are no terms, where a choice needs one. -/
inductive NoTerm : Option Value → EvaluationFault → Prop where
  /-- No value at all. -/
  | unbound : NoTerm none (.unbound Builtin.choice.name)
  /-- A list of terms. -/
  | terms (ts : List Term) :
      NoTerm (some (.terms ts)) (.mismatch Builtin.choice.name .term "a term list")
  /-- A whole solution. -/
  | solution (s : Solution) :
      NoTerm (some (.solution s)) (.mismatch Builtin.choice.name .term "bindings")

/-- The faults of values that decide nothing. -/
inductive Undecided : Option Value → EvaluationFault → Prop where
  /-- A value that is no term. -/
  | noTerm {value : Option Value} {x : EvaluationFault} (h : NoTerm value x) : Undecided value x
  /-- A term without an effective boolean value. -/
  | noTruth {t : Term} (h : t.effectiveTruth? = none) :
      Undecided (some (.term t)) (.mismatch Builtin.choice.name .truth t.rdf)

/-- That a value decides for the first or the second side of a choice. -/
def Decides (value : Option Value) (decided : Bool) : Prop :=
  ∃ t, value = some (.term t) ∧ t.effectiveTruth? = some decided

variable {value : Option Value} {t : Term} {decided : Bool} {x : EvaluationFault}

/-- A value is taken for a term exactly if it is one. -/
theorem expectTerm_eq_ok_iff : expectTerm value = .ok t ↔ value = some (.term t) := by
  constructor
  · intro h
    rcases value with _ | ⟨t' | ts | s⟩ <;> cases h
    rfl
  · rintro rfl
    rfl

/-- The faults of a value that should be a term. -/
theorem expectTerm_eq_error_iff : expectTerm value = .error x ↔ NoTerm value x := by
  constructor
  · intro h
    rcases value with _ | ⟨t' | ts | s⟩ <;> cases h
    · exact .unbound
    · exact .terms ts
    · exact .solution s
  · rintro (_ | _ | _) <;> rfl

/-- A term is true or false exactly if it has an effective boolean value. -/
theorem isTrue_eq_ok_iff : Builtin.isTrue t = .ok decided ↔ t.effectiveTruth? = some decided := by
  unfold Builtin.isTrue
  cases t.effectiveTruth? with
  | none => exact ⟨nofun, nofun⟩
  | some truth =>
      constructor
      · intro h; cases h; rfl
      · intro h; cases h; rfl

/-- What decides a choice. -/
theorem decides_iff :
    (expectTerm value >>= Builtin.isTrue) = .ok decided ↔ Decides value decided := by
  rw [bind_eq_ok_iff]
  simp only [expectTerm_eq_ok_iff, isTrue_eq_ok_iff]
  rfl

/-- What does not decide a choice. -/
theorem undecided_iff : (expectTerm value >>= Builtin.isTrue) = .error x ↔ Undecided value x := by
  rw [bind_eq_error_iff, expectTerm_eq_error_iff]
  constructor
  · rintro (h | ⟨t, ht, h⟩)
    · exact .noTerm h
    · rw [expectTerm_eq_ok_iff] at ht
      subst ht
      unfold Builtin.isTrue at h
      split at h <;> cases h
      next hnone => exact .noTruth hnone
  · rintro (h | h)
    · exact .inl h
    · refine .inr ⟨_, rfl, ?_⟩
      rw [Builtin.isTrue, h]

/-! ## Several expressions -/

variable {ambient : Ambient} {s : Solution} {args : List Compiled}

attribute [local simp] evaluate evaluateAll firstTerm

/-- Several expressions have values exactly if each one has. -/
theorem evaluateAll_eq_ok_iff {values : Arguments} : evaluateAll ambient s args = .ok values ↔
    List.Forall₂ (fun arg value => evaluate ambient s arg = .ok value) args values := by
  induction args generalizing values with
  | nil => simp [eq_comm]
  | cons arg args ih =>
      rw [evaluateAll, bind_eq_ok_iff]
      constructor
      · rintro ⟨value, harg, h⟩
        obtain ⟨rest, hargs, h⟩ := bind_eq_ok_iff.1 h
        cases h
        exact .cons harg (ih.1 hargs)
      · rintro (_ | ⟨harg, hargs⟩)
        exact ⟨_, harg, bind_eq_ok_iff.2 ⟨_, ih.2 hargs, rfl⟩⟩

/-- The fault of several expressions is that of the first one that fails. -/
theorem evaluateAll_eq_error_iff : evaluateAll ambient s args = .error x ↔
    ∃ before arg after, args = before ++ arg :: after ∧
      (∀ e ∈ before, ∃ value, evaluate ambient s e = .ok value) ∧
      evaluate ambient s arg = .error x := by
  induction args with
  | nil => simp
  | cons first args ih =>
      rw [evaluateAll, bind_eq_error_iff]
      constructor
      · -- the first argument fails, or it has a value and one after it fails
        rintro (hfirst | ⟨value, hfirst, h⟩)
        · exact ⟨[], first, args, rfl, nofun, hfirst⟩
        · rcases bind_eq_error_iff.1 h with h | ⟨_, -, h⟩
          · obtain ⟨before, arg, after, rfl, hbefore, harg⟩ := ih.1 h
            exact ⟨first :: before, arg, after, rfl,
              List.forall_mem_cons.2 ⟨⟨value, hfirst⟩, hbefore⟩, harg⟩
          · cases h
      · rintro ⟨before, arg, after, h, hbefore, harg⟩
        cases before with
        | nil =>
            obtain ⟨rfl, rfl⟩ := List.cons.inj h
            exact .inl harg
        | cons e before =>
            obtain ⟨rfl, rfl⟩ := List.cons.inj h
            obtain ⟨⟨value, hfirst⟩, hbefore⟩ := List.forall_mem_cons.1 hbefore
            have hrest := ih.2 ⟨before, arg, after, rfl, hbefore, harg⟩
            exact .inr ⟨value, hfirst, bind_eq_error_iff.2 (.inl hrest)⟩

/-- Several expressions of which one fails have a fault. -/
theorem exists_fault_of_mem {arg : Compiled} (harg : arg ∈ args)
    (h : evaluate ambient s arg = .error x) : ∃ y, evaluateAll ambient s args = .error y := by
  induction args with
  | nil => exact absurd harg List.not_mem_nil
  | cons first args ih =>
      rw [evaluateAll]
      cases hfirst : evaluate ambient s first with
      | error y => exact ⟨y, rfl⟩
      | ok value =>
          have hne : arg ≠ first := by
            rintro rfl
            rw [h] at hfirst
            cases hfirst
          obtain ⟨y, hy⟩ := ih ((List.mem_cons.1 harg).resolve_left hne)
          rw [hy]
          exact ⟨y, rfl⟩

/-- There is no first term exactly if no expression has a term for its value. -/
theorem firstTerm_eq_none_iff : firstTerm ambient s args = none ↔
    ∀ arg ∈ args, ∀ t, evaluate ambient s arg ≠ .ok (some (.term t)) := by
  induction args with
  | nil => simp
  | cons arg args ih =>
      rw [firstTerm, List.forall_mem_cons, ← ih]
      split
      · next t harg => exact ⟨nofun, fun h => absurd harg (h.1 t)⟩
      · next harg => exact ⟨fun h => ⟨harg, h⟩, fun h => h.2⟩

/-- The value of an operation is what it computes from the values of its arguments. -/
theorem evaluate_apply_of_values {b : Builtin} {place : Nat} {values : Arguments}
    (hvalues : evaluateAll ambient s args = .ok values)
    (h : b.apply ambient.present (fun _ => ambient.draw place s) values = .ok t) :
    evaluate ambient s (.apply b place args) = .ok (some (.term t)) := by
  rw [evaluate]
  exact bind_eq_ok_iff.2 ⟨values, hvalues, bind_eq_ok_iff.2 ⟨t, h, rfl⟩⟩

/-! ## The faults of the nodes -/

/-- The faults of an operation: that of its first failing argument, or its own. -/
theorem evaluate_apply_eq_error_iff {b : Builtin} {place : Nat} :
    evaluate ambient s (.apply b place args) = .error x ↔
      evaluateAll ambient s args = .error x ∨ ∃ values, evaluateAll ambient s args = .ok values ∧
        b.apply ambient.present (fun _ => ambient.draw place s) values = .error x := by
  rw [evaluate, bind_eq_error_iff]
  refine or_congr_right (exists_congr fun values => and_congr_right fun _ => ?_)
  rw [bind_eq_error_iff]
  exact or_iff_left fun ⟨t, _, h⟩ => nomatch h

/-- The value of a choice, step by step. -/
theorem evaluate_choose (condition yes no : Compiled) :
    evaluate ambient s (.choose condition yes no) = (do
      let value ← evaluate ambient s condition
      let decided ← expectTerm value >>= Builtin.isTrue
      let found ← evaluate ambient s (if decided then yes else no)
      let t ← expectTerm found
      return some (.term t)) := by
  rw [evaluate]
  refine bind_congr fun value => ?_
  rw [bind_assoc]
  refine bind_congr fun t => bind_congr fun decided => ?_
  cases decided <;> rfl

/-- The faults of a choice: that of the condition, one of not being decided, that of the side that
is decided for, or one of its not having a term. -/
theorem evaluate_choose_eq_error_iff {condition yes no : Compiled} :
    evaluate ambient s (.choose condition yes no) = .error x ↔
      evaluate ambient s condition = .error x ∨ ∃ value, evaluate ambient s condition = .ok value ∧
        (Undecided value x ∨ ∃ decided, Decides value decided ∧
          (evaluate ambient s (if decided then yes else no) = .error x ∨
            ∃ found, evaluate ambient s (if decided then yes else no) = .ok found ∧
              NoTerm found x)) := by
  rw [evaluate_choose, bind_eq_error_iff]
  refine or_congr_right (exists_congr fun value => and_congr_right fun _ => ?_)
  rw [bind_eq_error_iff, undecided_iff]
  refine or_congr_right (exists_congr fun decided => and_congr decides_iff ?_)
  rw [bind_eq_error_iff]
  refine or_congr_right (exists_congr fun found => and_congr_right fun _ => ?_)
  rw [bind_eq_error_iff, expectTerm_eq_error_iff]
  exact or_iff_left fun ⟨t, _, h⟩ => nomatch h

/-- The fault of a `coalesce`. -/
theorem evaluate_coalesce_eq_error_iff : evaluate ambient s (.coalesce args) = .error x ↔
    (∀ arg ∈ args, ∀ t, evaluate ambient s arg ≠ .ok (some (.term t))) ∧
      x = .unbound Builtin.coalesce.name := by
  rw [← firstTerm_eq_none_iff, evaluate]
  cases firstTerm ambient s args with
  | none => exact ⟨fun h => ⟨rfl, by cases h; rfl⟩, fun h => by rw [h.2]⟩
  | some t => exact ⟨nofun, fun h => nomatch h.1⟩

/-- The faults of an aggregate: those of the aggregation of the terms of a group. -/
theorem evaluate_aggregate_eq_error_iff {a : Aggregation} {collected : Collected} {distinct : Bool}
    {separator : String} :
    evaluate ambient s (.aggregate a collected distinct separator) = .error x ↔
      ∃ v group, collected = .values v ∧ s.group = some group ∧
        a.apply separator (if distinct then distinctTerms ((group.get? v).getD [])
          else (group.get? v).getD []) = .error x := by
  rw [evaluate, map_eq_error_iff, aggregateValue]
  cases s.group with
  | none => exact ⟨nofun, fun ⟨_, _, _, h, _⟩ => nomatch h⟩
  | some group =>
      cases collected with
      | rows => exact ⟨nofun, fun ⟨_, _, h, _⟩ => nomatch h⟩
      | values v =>
          show Except.map _ _ = _ ↔ _
          rw [map_eq_error_iff]
          constructor
          · exact fun h => ⟨v, group, rfl, rfl, h⟩
          · rintro ⟨_, _, hv, hgroup, h⟩
            cases hv
            cases hgroup
            exact h

/-- A call of an extension function has no faults. -/
theorem exists_evaluate_call (ambient : Ambient) (s : Solution) (f : Extension)
    (args : List Compiled) : ∃ value, evaluate ambient s (.call f args) = .ok value := by
  rw [evaluate]
  split
  · exact ⟨none, rfl⟩
  · split
    · exact ⟨_, rfl⟩
    · exact ⟨none, rfl⟩

/-- A call of an extension function has no value where an argument has a fault. -/
theorem evaluate_call_of_fault {f : Extension} {arg : Compiled} (harg : arg ∈ args)
    (h : evaluate ambient s arg = .error x) : evaluate ambient s (.call f args) = .ok none := by
  obtain ⟨y, hy⟩ := exists_fault_of_mem harg h
  simp [hy]

/-! ## The nodes on the way -/

variable (ambient s)

/-- That a fault comes from a node itself. -/
inductive Raises : Compiled → EvaluationFault → Prop where
  /-- An operation refuses arguments that have all been evaluated. -/
  | operation {b : Builtin} {place : Nat} {args : List Compiled} {values : Arguments}
      {x : EvaluationFault}
      (hargs : List.Forall₂ (fun arg value => evaluate ambient s arg = .ok value) args values)
      (hfault : b.apply ambient.present (fun _ => ambient.draw place s) values = .error x) :
      Raises (.apply b place args) x
  /-- The condition of a choice decides nothing. -/
  | condition {condition yes no : Compiled} {value : Option Value} {x : EvaluationFault}
      (hcondition : evaluate ambient s condition = .ok value) (hfault : Undecided value x) :
      Raises (.choose condition yes no) x
  /-- The side that a condition decides for has no term. -/
  | side {condition yes no : Compiled} {value found : Option Value} {decided : Bool}
      {x : EvaluationFault} (hcondition : evaluate ambient s condition = .ok value)
      (hdecided : Decides value decided)
      (hside : evaluate ambient s (if decided then yes else no) = .ok found)
      (hfault : NoTerm found x) : Raises (.choose condition yes no) x
  /-- No argument of a `coalesce` has a term. -/
  | coalesce {args : List Compiled}
      (hargs : ∀ arg ∈ args, ∀ t, evaluate ambient s arg ≠ .ok (some (.term t))) :
      Raises (.coalesce args) (.unbound Builtin.coalesce.name)
  /-- An aggregation refuses the terms of a group. -/
  | aggregate {a : Aggregation} {v : Variable} {distinct : Bool} {separator : String}
      {group : Group} {x : EvaluationFault} (hgroup : s.group = some group)
      (hfault : a.apply separator (if distinct then distinctTerms ((group.get? v).getD [])
        else (group.get? v).getD []) = .error x) :
      Raises (.aggregate a (.values v) distinct separator) x

/-- That a node lets the faults of a node below it through. -/
inductive LetsThrough : Compiled → Compiled → Prop where
  /-- An operation those of its first failing argument. -/
  | argument {b : Builtin} {place : Nat} {before after : List Compiled} {arg : Compiled}
      {x : EvaluationFault} (hbefore : ∀ e ∈ before, ∃ value, evaluate ambient s e = .ok value)
      (hfault : evaluate ambient s arg = .error x) :
      LetsThrough (.apply b place (before ++ arg :: after)) arg
  /-- A choice those of its condition. -/
  | condition {condition yes no : Compiled} : LetsThrough (.choose condition yes no) condition
  /-- A choice those of the side that its condition decides for. -/
  | side {condition yes no : Compiled} {value : Option Value} {decided : Bool}
      (hcondition : evaluate ambient s condition = .ok value) (hdecided : Decides value decided) :
      LetsThrough (.choose condition yes no) (if decided then yes else no)

/-- That a fault comes from a node of an expression, and that all nodes above let it through. -/
def Escapes (e : Compiled) (x : EvaluationFault) : Prop :=
  ∃ node, Relation.ReflTransGen (LetsThrough ambient s) e node ∧ Raises ambient s node x

variable {ambient s} {e node inner : Compiled}

/-- Nothing comes through a `coalesce`. -/
theorem not_letsThrough_coalesce : ¬ LetsThrough ambient s (.coalesce args) inner := nofun

/-- Nothing comes through a call of an extension function. -/
theorem not_letsThrough_call {f : Extension} : ¬ LetsThrough ambient s (.call f args) inner := nofun

/-! ## From the root down -/

/-- A fault of an evaluation is raised at the root, or let through from an inner expression. -/
theorem raises_or_letsThrough (h : evaluate ambient s e = .error x) : Raises ambient s e x ∨
    ∃ inner, LetsThrough ambient s e inner ∧ evaluate ambient s inner = .error x := by
  cases e with
  | constant t => cases h
  | lookup v => cases h
  | list ts => cases h
  | apply b place args =>
      rcases evaluate_apply_eq_error_iff.1 h with h | ⟨values, hvalues, h⟩
      · obtain ⟨before, arg, after, rfl, hbefore, harg⟩ := evaluateAll_eq_error_iff.1 h
        exact .inr ⟨arg, .argument hbefore harg, harg⟩
      · exact .inl (.operation (evaluateAll_eq_ok_iff.1 hvalues) h)
  | choose condition yes no =>
      -- the condition fails, or has no truth value, or the side that it chooses fails or is no term
      rcases evaluate_choose_eq_error_iff.1 h with
        h | ⟨value, hvalue, h | ⟨decided, hdecided, h | ⟨found, hfound, h⟩⟩⟩
      · exact .inr ⟨condition, .condition, h⟩
      · exact .inl (.condition hvalue h)
      · exact .inr ⟨_, .side hvalue hdecided, h⟩
      · exact .inl (.side hvalue hdecided hfound h)
  | coalesce args =>
      obtain ⟨hargs, rfl⟩ := evaluate_coalesce_eq_error_iff.1 h
      exact .inl (.coalesce hargs)
  | aggregate a collected distinct separator =>
      obtain ⟨v, group, rfl, hgroup, h⟩ := evaluate_aggregate_eq_error_iff.1 h
      exact .inl (.aggregate hgroup h)
  | call f args =>
      -- a call always has a value or none
      obtain ⟨value, hvalue⟩ := exists_evaluate_call ambient s f args
      rw [hvalue] at h
      cases h

/-- A fault that is raised at the root is one of the evaluation. -/
theorem Raises.evaluate_eq (h : Raises ambient s e x) : evaluate ambient s e = .error x := by
  cases h with
  | operation hargs h =>
      exact evaluate_apply_eq_error_iff.2 (.inr ⟨_, evaluateAll_eq_ok_iff.2 hargs, h⟩)
  | condition hvalue h => exact evaluate_choose_eq_error_iff.2 (.inr ⟨_, hvalue, .inl h⟩)
  | side hvalue hdecided hfound h =>
      exact evaluate_choose_eq_error_iff.2
        (.inr ⟨_, hvalue, .inr ⟨_, hdecided, .inr ⟨_, hfound, h⟩⟩⟩)
  | coalesce hargs => exact evaluate_coalesce_eq_error_iff.2 ⟨hargs, rfl⟩
  | aggregate hgroup h => exact evaluate_aggregate_eq_error_iff.2 ⟨_, _, rfl, hgroup, h⟩

/-- So is a fault that is let through. -/
theorem LetsThrough.evaluate_eq {inner : Compiled} (hlets : LetsThrough ambient s e inner)
    (h : evaluate ambient s inner = .error x) : evaluate ambient s e = .error x := by
  cases hlets with
  | argument hbefore _ =>
      exact evaluate_apply_eq_error_iff.2
        (.inl (evaluateAll_eq_error_iff.2 ⟨_, _, _, rfl, hbefore, h⟩))
  | condition => exact evaluate_choose_eq_error_iff.2 (.inl h)
  | side hvalue hdecided =>
      exact evaluate_choose_eq_error_iff.2 (.inr ⟨_, hvalue, .inr ⟨_, hdecided, .inl h⟩⟩)

/-- A fault of an expression comes from its root, or from a node whose faults the root lets
through. -/
theorem evaluate_eq_error_iff_step : evaluate ambient s e = .error x ↔
    Raises ambient s e x ∨
      ∃ inner, LetsThrough ambient s e inner ∧ evaluate ambient s inner = .error x := by
  constructor
  · exact raises_or_letsThrough
  · rintro (h | ⟨inner, hlets, h⟩)
    · exact h.evaluate_eq
    · exact hlets.evaluate_eq h

/-- A fault escapes if it comes from the root, or if the root lets it through. -/
theorem escapes_iff : Escapes ambient s e x ↔
    Raises ambient s e x ∨
      ∃ inner, LetsThrough ambient s e inner ∧ Escapes ambient s inner x := by
  constructor
  · rintro ⟨node, hpath, hraises⟩
    rcases hpath.cases_head with rfl | ⟨inner, hlets, hrest⟩
    · exact .inl hraises
    · exact .inr ⟨inner, hlets, node, hrest, hraises⟩
  · rintro (hraises | ⟨inner, hlets, node, hrest, hraises⟩)
    · exact ⟨e, .refl, hraises⟩
    · exact ⟨node, .head hlets hrest, hraises⟩

/-- The nodes whose faults are let through stand below. -/
theorem sizeOf_lt_of_letsThrough (h : LetsThrough ambient s e inner) :
    sizeOf inner < sizeOf e := by
  cases h with
  | @argument _ _ before after _ _ _ _ =>
      have hmem : inner ∈ before ++ inner :: after :=
        List.mem_append_right before List.mem_cons_self
      have hlt := List.sizeOf_lt_of_mem hmem
      rw [apply.sizeOf_spec]
      omega
  | condition =>
      rw [choose.sizeOf_spec]
      omega
  | @side _ _ _ _ decided _ _ =>
      -- only one of the two sides is the inner expression
      rw [choose.sizeOf_spec]
      cases decided with
      | false =>
          rw [if_neg Bool.false_ne_true]
          omega
      | true =>
          rw [if_pos rfl]
          omega

/-- **The faults of an evaluation are those that escape**: each comes from some node, and all nodes
above that one let it through. -/
theorem evaluate_eq_error_iff (e : Compiled) :
    evaluate ambient s e = .error x ↔ Escapes ambient s e x := by
  -- by induction on the size, along the nodes that let through
  induction e using (measure (sizeOf : Compiled → Nat)).wf.induction with
  | _ e ih =>
    rw [evaluate_eq_error_iff_step, escapes_iff]
    refine or_congr_right (exists_congr fun inner => and_congr_right fun hlets => ?_)
    exact ih inner (sizeOf_lt_of_letsThrough hlets)

end Compiled

/-! ## Expressions that have a compiled form -/

namespace Expression

open Compiled

/-- **The faults of a compiled expression.** Its nodes are those of the expression. Its evaluation
has the faults that some node below raises and all nodes above let through, and no others; neither a
`coalesce` nor a call of an extension function ever lets one through. So a call of an extension
function never fails, and has no value where a fault escapes one of its arguments. -/
theorem faults_of_compile (ambient : Ambient) (s : Solution) {scope : Scope} {progress : Progress}
    {e : Expression} {compiled : Compiled}
    (h : (((e.compile scope).run).run progress).1 = .ok compiled) :
    e.CompilesTo scope compiled ∧
      (∀ x, compiled.evaluate ambient s = .error x ↔ compiled.Escapes ambient s x) ∧
      (∀ args inner, ¬ LetsThrough ambient s (.coalesce args) inner) ∧
      (∀ f args inner, ¬ LetsThrough ambient s (.call f args) inner) ∧
      ∀ f args, (∃ value, (Compiled.call f args).evaluate ambient s = .ok value) ∧
        ∀ arg ∈ args, ∀ x, arg.Escapes ambient s x →
          (Compiled.call f args).evaluate ambient s = .ok none := by
  refine ⟨compilesTo_of_compile e h, fun x => evaluate_eq_error_iff compiled,
    fun _ _ => not_letsThrough_coalesce, fun _ _ _ => not_letsThrough_call, fun f args => ?_⟩
  refine ⟨exists_evaluate_call ambient s f args, fun arg harg x hescapes => ?_⟩
  exact evaluate_call_of_fault harg ((evaluate_eq_error_iff arg).2 hescapes)

/-- The fault of a difference of two texts, which a choice and a negation let through. -/
theorem faults_of_compile_difference :
    let e := operation "!" [operation "if" [term "true",
      operation "-" [term "\"a\"", term "\"b\""], term "?v"]]
    let compiled := Compiled.apply .not 0 [.choose (.constant (.literal (.boolean true)))
      (.apply (.arithmetic .subtract) 2
        [.constant (.literal (.plain "a")), .constant (.literal (.plain "b"))]) (.lookup ⟨"v"⟩)]
    (((e.compile (Engine.ofSettings {}).scope).run).run ⟨.empty, 0⟩).1 = .ok compiled ∧
      compiled.Escapes ⟨⟨0, 0, 0⟩, fun _ _ => 0⟩ .empty
        (.arithmetic ⟨"\"a\"", .subtract, "\"b\""⟩) := by
  intro e compiled
  have hcompile : (((e.compile (Engine.ofSettings {}).scope).run).run ⟨.empty, 0⟩).1 =
      .ok compiled := by rfl
  obtain ⟨-, hfaults, -⟩ := faults_of_compile ⟨⟨0, 0, 0⟩, fun _ _ => 0⟩ .empty hcompile
  exact ⟨hcompile, (hfaults _).1 (by rfl)⟩

end Expression

end SolutionAlgebra
