import Mathlib.Data.List.Forall2
import SolutionAlgebra.Proofs.Engine.Runs
import SolutionAlgebra.Proofs.Plan.Events

/-! # Groups pass through filters and extensions

A filter keeps some of its solutions as they are, and an extension binds a variable; neither touches
the group that a solution stands for. So what solutions stand for stays the same, however often they
are filtered and extended.

* **`Reworked`** — the solutions that come of others by filters and extensions.
* **`Reworked.sameGroups`** — they stand for the groups of some of the others, in their order. -/

namespace SolutionAlgebra

/-- The outcome of two lists of events that are put together. -/
theorem outcome_append_ok {events events' : List Event} {rows : List Solution}
    (h : outcome (events ++ events') = .ok rows) :
    ∃ front back, outcome events = .ok front ∧ outcome events' = .ok back ∧
      rows = front ++ back := by
  induction events generalizing rows with
  | nil => exact ⟨[], rows, rfl, h, rfl⟩
  | cons event events ih =>
      cases event with
      | error e => cases h
      | ok row =>
          obtain ⟨later, hlater, rfl⟩ := map_eq_ok_iff.1 h
          obtain ⟨front, back, hfront, hback, rfl⟩ := ih hlater
          exact ⟨row :: front, back, by rw [outcome_ok_cons, hfront]; rfl, hback, rfl⟩

/-- That two solutions stand for the same group, or both for none. -/
def Solution.SameGroup (s g : Solution) : Prop := s.group = g.group

instance : Std.Refl Solution.SameGroup := ⟨fun _ => rfl⟩

instance : IsTrans Solution Solution.SameGroup := ⟨fun _ _ _ h h' => Eq.trans h h'⟩

/-- Solutions that stand for the groups of some given ones, in their order. -/
abbrev SameGroups : List Solution → List Solution → Prop :=
  List.SublistForall₂ Solution.SameGroup

/-- Solutions changed one by one, of which each one leaves no other group than its own, stand for
groups of the solutions before. -/
theorem sameGroups_of_outcome {f : Solution → List Event}
    (hf : ∀ row found, outcome (f row) = .ok found → SameGroups found [row])
    {rows later : List Solution}
    (h : outcome ((rows.map .ok).flatMap (onRow f)) = .ok later) : SameGroups later rows := by
  induction rows generalizing later with
  | nil =>
      cases h
      exact .nil
  | cons row rows ih =>
      rw [List.map_cons, List.flatMap_cons, onRow_ok] at h
      obtain ⟨front, back, hfront, hback, rfl⟩ := outcome_append_ok h
      -- what one solution is changed to stands for its group or for nothing
      have hrow := hf row front hfront
      have hrest := ih hback
      cases hrow with
      | nil => exact .cons_right hrest
      | cons hgroup hnil =>
          cases hnil
          exact .cons hgroup hrest
      | cons_right hnil =>
          cases hnil
          exact .cons_right hrest

variable {ambient : Ambient} {size : Nat} {rows later : List Solution}

/-- A filter leaves groups alone. -/
theorem sameGroups_of_filter {predicate : Compiled} {strict : Bool}
    (h : (Plan.filter (.values rows) predicate strict).solutions ambient size = .ok later) :
    SameGroups later rows := by
  rw [Plan.solutions_eq_outcome] at h
  refine sameGroups_of_outcome (fun row found hfound => ?_) h
  unfold Plan.filterRow at hfound
  split at hfound
  · split at hfound
    · cases hfound
      exact Std.Refl.refl [row]
    · cases hfound
      exact .nil
  · cases hfound
    exact .nil
  · split at hfound
    · cases hfound
    · cases hfound
      exact .nil

/-- An extension leaves groups alone. -/
theorem sameGroups_of_extend {v : Variable} {e : Compiled} {strict : Bool}
    (h : (Plan.extend (.values rows) v e strict).solutions ambient size = .ok later) :
    SameGroups later rows := by
  rw [Plan.solutions_eq_outcome] at h
  refine sameGroups_of_outcome (fun row found hfound => ?_) h
  unfold Plan.extendRow at hfound
  split at hfound
  · cases hfound
  · split at hfound
    · cases hfound
      exact .cons (Solution.group_bind row v _) .nil
    · cases hfound
      exact Std.Refl.refl [row]
    · split at hfound
      · cases hfound
      · cases hfound
        exact Std.Refl.refl [row]

/-- The solutions that come of others by filters and extensions. -/
inductive Reworked (rows : List Solution) : List Solution → Prop where
  /-- The solutions themselves. -/
  | refl : Reworked rows rows
  /-- Those that a filter keeps. -/
  | filter {ambient : Ambient} {size : Nat} {found later : List Solution} {predicate : Compiled}
      {strict : Bool} (h : Reworked rows found)
      (hfilter : (Plan.filter (.values found) predicate strict).solutions ambient size =
        .ok later) : Reworked rows later
  /-- Those with a further variable bound. -/
  | extend {ambient : Ambient} {size : Nat} {found later : List Solution} {v : Variable}
      {e : Compiled} {strict : Bool} (h : Reworked rows found)
      (hextend : (Plan.extend (.values found) v e strict).solutions ambient size = .ok later) :
      Reworked rows later

/-- **Filters and extensions leave groups alone.** -/
theorem Reworked.sameGroups (h : Reworked rows later) : SameGroups later rows := by
  induction h with
  | refl => exact Std.Refl.refl rows
  | filter _ hfilter ih => exact IsTrans.trans _ _ _ (sameGroups_of_filter hfilter) ih
  | extend _ hextend ih => exact IsTrans.trans _ _ _ (sameGroups_of_extend hextend) ih

/-! ## Engines -/

namespace Engine

variable {engine : Engine}

/-- The plan that an engine makes of a filter is one of a filter. -/
theorem plan_of_filterPlan {found : List Solution} {predicate : Expression} {plan : Plan}
    {after : Engine} (h : ((filterPlan found predicate).run).run engine = (.ok plan, after)) :
    ∃ compiled, plan = .filter (.values found) compiled after.settings.strict := by
  cases hcompile : ((compile predicate).run).run engine with
  | mk result engine' =>
      cases result with
      | ok compiled =>
          rw [filterPlan_run hcompile] at h
          cases h
          exact ⟨compiled, rfl⟩
      | error fault =>
          rw [filterPlan, run_bind, hcompile] at h
          cases h

/-- The plan that an engine makes of an extension is one of an extension. -/
theorem plan_of_extendPlan {found : List Solution} {name : String} {e : Expression} {plan : Plan}
    {after : Engine} (h : ((extendPlan found name e).run).run engine = (.ok plan, after)) :
    ∃ compiled, plan = .extend (.values found) (.ofText name) compiled after.settings.strict := by
  cases hcompile : ((compile e).run).run engine with
  | mk result engine' =>
      cases result with
      | ok compiled =>
          rw [extendPlan_run hcompile] at h
          cases h
          exact ⟨compiled, rfl⟩
      | error fault =>
          rw [extendPlan, run_bind, hcompile] at h
          cases h

/-- What an engine filters is reworked. -/
theorem reworked_of_filter {found : List Solution} {predicate : Expression}
    (hfound : Reworked rows found)
    (h : (((Engine.filter ambient found predicate).run).run engine).1 = .ok later) :
    Reworked rows later := by
  obtain ⟨plan, after, hplan, h⟩ := run_bind_ok_iff.1 h
  obtain ⟨compiled, rfl⟩ := plan_of_filterPlan hplan
  rw [solutions_run] at h
  exact .filter hfound (mapError_eq_ok_iff.1 h)

/-- What an engine extends is reworked. -/
theorem reworked_of_extend {found : List Solution} {name : String} {e : Expression}
    (hfound : Reworked rows found)
    (h : (((Engine.extend ambient found name e).run).run engine).1 = .ok later) :
    Reworked rows later := by
  obtain ⟨plan, after, hplan, h⟩ := run_bind_ok_iff.1 h
  obtain ⟨compiled, rfl⟩ := plan_of_extendPlan hplan
  rw [solutions_run] at h
  exact .extend hfound (mapError_eq_ok_iff.1 h)

end Engine

end SolutionAlgebra
