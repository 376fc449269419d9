import SolutionAlgebra.Proofs.Builtin.Alike
import SolutionAlgebra.Proofs.Compiled.Faults

/-! # Compiled expressions that correspond

Two compiled expressions, each with a solution to evaluate it for, correspond if they have the same
nodes and their leaves the same terms. A variable may correspond to the term that it is bound to. An
aggregate asks of the solutions that their groups have the same rows to count or the same terms to
collect, or that neither stands for a group. What corresponds has the same value, but for the
solution itself, which is the value of an aggregate outside a group.

* **`Group.AgreeOn`** — that two groups, if any, have the same for some variables.
* **`Compiled.Corresponds`** — that two compiled expressions correspond for two solutions.
* **`Compiled.evaluateTerm_eq`**, **`Compiled.evaluate_eq`** — they have the same term for two
  solutions, and the same value for one. -/

namespace SolutionAlgebra

/-- That two groups have the same number of members and the same terms of some variables, or that
there is none on either side. -/
inductive Group.AgreeOn (vs : List Variable) : Option Group → Option Group → Prop where
  /-- No groups. -/
  | ungrouped : AgreeOn vs none none
  /-- Two groups. -/
  | grouped {group group' : Group} (hrows : group.rows = group'.rows)
      (hvalues : ∀ v ∈ vs, (group.get? v).getD [] = (group'.get? v).getD []) :
      AgreeOn vs (some group) (some group')

namespace Group.AgreeOn

variable {vs ws : List Variable} {group group' : Option Group}

/-- A group agrees with itself. -/
theorem refl (vs : List Variable) (group : Option Group) : AgreeOn vs group group := by
  cases group with
  | none => exact .ungrouped
  | some group => exact .grouped rfl fun _ _ => rfl

/-- Groups that agree on some variables agree on fewer. -/
theorem mono (h : AgreeOn vs group group') (hvs : ws ⊆ vs) : AgreeOn ws group group' := by
  cases h with
  | ungrouped => exact .ungrouped
  | grouped hrows hvalues => exact .grouped hrows fun v hv => hvalues v (hvs hv)

end Group.AgreeOn

/-- The variables of which an aggregate collects the terms. -/
def Collected.variables : Collected → List Variable
  | values v => [v]
  | rows => []

namespace Compiled

variable {s s' : Solution} {ambient ambient' : Ambient} {c c' : Compiled}
  {args args' : List Compiled}

/-- That two compiled expressions have the same nodes and, for a solution each, the same leaves. No
node takes anything from outside. -/
inductive Corresponds (s s' : Solution) : Compiled → Compiled → Prop where
  /-- Two terms. -/
  | constant (t : Term) : Corresponds s s' (.constant t) (.constant t)
  /-- Two variables. -/
  | lookup {v : Variable} (h : s.get? v = s'.get? v) : Corresponds s s' (.lookup v) (.lookup v)
  /-- A variable and the term that it is bound to. -/
  | bound {v : Variable} {t : Term} (h : s.get? v = some t) :
      Corresponds s s' (.lookup v) (.constant t)
  /-- Two lists that come to the same. -/
  | list {ts ts' : List Term} (h : ts.filterMap (member s) = ts'.filterMap (member s')) :
      Corresponds s s' (.list ts) (.list ts')
  /-- Two operations. -/
  | apply {b : Builtin} {place place' : Nat} {args args' : List Compiled}
      (hvolatile : b.isVolatile = false) (hargs : List.Forall₂ (Corresponds s s') args args') :
      Corresponds s s' (.apply b place args) (.apply b place' args')
  /-- Two choices. -/
  | choose {condition condition' yes yes' no no' : Compiled}
      (hcondition : Corresponds s s' condition condition') (hyes : Corresponds s s' yes yes')
      (hno : Corresponds s s' no no') :
      Corresponds s s' (.choose condition yes no) (.choose condition' yes' no')
  /-- Two `coalesce`. -/
  | coalesce {args args' : List Compiled} (hargs : List.Forall₂ (Corresponds s s') args args') :
      Corresponds s s' (.coalesce args) (.coalesce args')
  /-- Two aggregates. -/
  | aggregate {a : Aggregation} {collected : Collected} {distinct : Bool} {separator : String}
      (h : Group.AgreeOn collected.variables s.group s'.group) :
      Corresponds s s' (.aggregate a collected distinct separator)
        (.aggregate a collected distinct separator)
  /-- Two calls of an extension function. -/
  | call {f : Extension} {args args' : List Compiled}
      (hargs : List.Forall₂ (Corresponds s s') args args') :
      Corresponds s s' (.call f args) (.call f args')

/-! ## The nodes -/

/-- A value that should be a term is the same term, or the same fault. -/
theorem expectTerm_congr {value value' : Option Value} (h : Value.Alike s s' value value') :
    expectTerm value = expectTerm value' :=
  Arguments.Alike.term (.cons h .nil) Builtin.choice.name 0

/-- Aggregates over groups that agree have the same value; without groups, each has its solution. -/
theorem aggregateValue_related {a : Aggregation} {collected : Collected} {distinct : Bool}
    {separator : String} (h : Group.AgreeOn collected.variables s.group s'.group) :
    Related (fun value value' => Value.Alike s s' (some value) (some value'))
      (aggregateValue a collected distinct separator s)
      (aggregateValue a collected distinct separator s') := by
  unfold aggregateValue
  generalize s.group = group, s'.group = group' at h
  cases h with
  | ungrouped => exact .ok .whole
  | grouped hrows hvalues =>
      have hsame : ∀ value : Value, Value.Alike s s' (some value) (some value) := fun _ => .same _
      cases collected with
      | rows =>
          simp only [hrows]
          exact .refl hsame _
      | values v =>
          simp only [hvalues v List.mem_cons_self]
          exact .refl hsame _

/-- That the values of two compiled expressions are alike, or their faults the same. -/
abbrev EvaluateAlike (ambient ambient' : Ambient) (s s' : Solution) (c c' : Compiled) : Prop :=
  Related (Value.Alike s s') (c.evaluate ambient s) (c'.evaluate ambient' s')

/-- Several expressions whose values are alike one by one. -/
theorem evaluateAll_related (h : List.Forall₂ (EvaluateAlike ambient ambient' s s') args args') :
    Related (Arguments.Alike s s') (evaluateAll ambient s args)
      (evaluateAll ambient' s' args') := by
  induction h with
  | nil =>
      rw [evaluateAll, evaluateAll]
      exact .ok .nil
  | cons hfirst _ ih =>
      rw [evaluateAll, evaluateAll]
      refine hfirst.bind fun value value' hvalue => ih.bind fun values values' hvalues => ?_
      exact .ok (.cons hvalue hvalues)

/-- The first term among expressions whose values are alike one by one. -/
theorem firstTerm_eq (h : List.Forall₂ (EvaluateAlike ambient ambient' s s') args args') :
    firstTerm ambient s args = firstTerm ambient' s' args' := by
  induction h with
  | nil => rw [firstTerm, firstTerm]
  | @cons c c' _ _ hfirst _ ih =>
      rw [firstTerm, firstTerm, ih]
      unfold EvaluateAlike at hfirst
      generalize c.evaluate ambient s = x, c'.evaluate ambient' s' = x' at hfirst
      cases hfirst with
      | ok hvalue => cases hvalue <;> rfl
      | error e => rfl

/-- The results of an operation. -/
theorem apply_related {b : Builtin} {place place' : Nat} (hvolatile : b.isVolatile = false)
    (h : List.Forall₂ (EvaluateAlike ambient ambient' s s') args args') :
    EvaluateAlike ambient ambient' s s' (.apply b place args) (.apply b place' args') := by
  unfold EvaluateAlike
  rw [evaluate, evaluate]
  refine (evaluateAll_related h).bind fun values values' hvalues => ?_
  rw [Builtin.apply_congr hvalues ambient.present ambient'.present
    (fun _ => ambient.draw place s) (fun _ => ambient'.draw place' s') hvolatile]
  exact .refl .same _

/-- The results of a choice. -/
theorem choose_related {condition condition' yes yes' no no' : Compiled}
    (hcondition : EvaluateAlike ambient ambient' s s' condition condition')
    (hyes : EvaluateAlike ambient ambient' s s' yes yes')
    (hno : EvaluateAlike ambient ambient' s s' no no') :
    EvaluateAlike ambient ambient' s s' (.choose condition yes no)
      (.choose condition' yes' no') := by
  unfold EvaluateAlike
  rw [evaluate_choose, evaluate_choose]
  refine hcondition.bind fun value value' hvalue => ?_
  rw [expectTerm_congr hvalue]
  refine Related.bind (.refl (fun _ => rfl) _) fun decided decided' hdecided => ?_
  subst hdecided
  -- both conditions decide for the same side
  have hside : EvaluateAlike ambient ambient' s s' (if decided then yes else no)
      (if decided then yes' else no') := by
    cases decided with
    | true => exact hyes
    | false => exact hno
  refine hside.bind fun found found' hfound => ?_
  rw [expectTerm_congr hfound]
  exact .refl .same _

/-- The results of a `coalesce`. -/
theorem coalesce_related (h : List.Forall₂ (EvaluateAlike ambient ambient' s s') args args') :
    EvaluateAlike ambient ambient' s s' (.coalesce args) (.coalesce args') := by
  unfold EvaluateAlike
  rw [evaluate, evaluate, firstTerm_eq h]
  exact .refl .same _

/-- The results of an aggregate. -/
theorem aggregate_related {a : Aggregation} {collected : Collected} {distinct : Bool}
    {separator : String} (h : Group.AgreeOn collected.variables s.group s'.group) :
    EvaluateAlike ambient ambient' s s' (.aggregate a collected distinct separator)
      (.aggregate a collected distinct separator) := by
  unfold EvaluateAlike
  rw [evaluate, evaluate]
  exact (aggregateValue_related h).map fun _ _ hvalue => hvalue

/-- The results of a call of an extension function, which gets terms only. -/
theorem call_related {f : Extension}
    (h : List.Forall₂ (EvaluateAlike ambient ambient' s s') args args') :
    EvaluateAlike ambient ambient' s s' (.call f args) (.call f args') := by
  unfold EvaluateAlike
  rw [evaluate, evaluate]
  have hargs := evaluateAll_related h
  generalize evaluateAll ambient s args = x, evaluateAll ambient' s' args' = x' at hargs
  cases hargs with
  | ok hvalues =>
      simp only [hvalues.map_term?]
      exact .refl .same _
  | error e => exact .ok (.same none)

/-! ## Whole expressions -/

mutual

/-- **What corresponds has values that are alike**, or the same fault. -/
theorem Corresponds.evaluateAlike (ambient ambient' : Ambient) {s s' : Solution} (c c' : Compiled)
    (h : Corresponds s s' c c') : EvaluateAlike ambient ambient' s s' c c' := by
  cases h with
  | constant t =>
      unfold EvaluateAlike
      rw [evaluate, evaluate]
      exact .ok (.same _)
  | lookup h =>
      unfold EvaluateAlike
      rw [evaluate, evaluate, h]
      exact .ok (.same _)
  | bound h =>
      unfold EvaluateAlike
      rw [evaluate, evaluate, h]
      exact .ok (.same _)
  | list h =>
      unfold EvaluateAlike
      rw [evaluate, evaluate, h]
      exact .ok (.same _)
  | apply hvolatile hargs =>
      exact apply_related hvolatile (Corresponds.evaluateAlikeAll ambient ambient' _ _ hargs)
  | choose hcondition hyes hno =>
      exact choose_related (hcondition.evaluateAlike ambient ambient' _ _)
        (hyes.evaluateAlike ambient ambient' _ _) (hno.evaluateAlike ambient ambient' _ _)
  | coalesce hargs =>
      exact coalesce_related (Corresponds.evaluateAlikeAll ambient ambient' _ _ hargs)
  | aggregate h => exact aggregate_related h
  | call hargs => exact call_related (Corresponds.evaluateAlikeAll ambient ambient' _ _ hargs)

/-- What corresponds one by one has values that are alike one by one. -/
theorem Corresponds.evaluateAlikeAll (ambient ambient' : Ambient) {s s' : Solution}
    (args args' : List Compiled) (h : List.Forall₂ (Corresponds s s') args args') :
    List.Forall₂ (EvaluateAlike ambient ambient' s s') args args' := by
  cases h with
  | nil => exact .nil
  | cons h hrest =>
      exact .cons (h.evaluateAlike ambient ambient' _ _)
        (Corresponds.evaluateAlikeAll ambient ambient' _ _ hrest)

end

/-- **What corresponds for two solutions has the same term**, or none, or the same fault. -/
theorem evaluateTerm_eq (ambient ambient' : Ambient) (h : Corresponds s s' c c') :
    c.evaluateTerm ambient s = c'.evaluateTerm ambient' s' :=
  ((h.evaluateAlike ambient ambient' _ _).map fun _ _ hvalue => hvalue.term?_eq).eq fun _ _ h => h

/-- **What corresponds for one solution has the same value**, or none, or the same fault. -/
theorem evaluate_eq (ambient ambient' : Ambient) (h : Corresponds s s c c') :
    c.evaluate ambient s = c'.evaluate ambient' s :=
  (h.evaluateAlike ambient ambient' _ _).eq fun _ _ hvalue => hvalue.eq

end Compiled

end SolutionAlgebra
