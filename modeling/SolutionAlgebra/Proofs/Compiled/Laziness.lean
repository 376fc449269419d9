import SolutionAlgebra.Proofs.Compiled.Faults

/-! # Choices and `coalesce` as operations

A choice and a `coalesce` have nodes of their own, which evaluate no more of their arguments than
they need. The operations of these names compute from the values of all arguments. The two come to
the same if an argument that fails, or that a choice does not decide for, counts as one without a
value.

* **`Compiled.evaluate_coalesce_eq_answer`** — a `coalesce` is the operation on the values of its
  arguments.
* **`Compiled.evaluate_choose_eq_answer`** — a choice is the operation on the values of its
  condition and of the side that is decided for.
* **`Compiled.lazy_nodes_eq_answer`** — both, with the faults that a choice lets through. -/

namespace SolutionAlgebra

/-- What an operation answers, as the value of a node. -/
def Builtin.answer (present : Calendar.Moment) (draw : Unit → Nat) (b : Builtin)
    (args : Arguments) : Outcome (Option Value) :=
  (b.apply present draw args).map fun t => some (.term t)

namespace Compiled

open Builtin (answer)

variable {ambient : Ambient} {s : Solution} {present : Calendar.Moment} {draw : Unit → Nat}
  {args : List Compiled} {e condition yes no : Compiled} {value found left right : Option Value}
  {t : Term} {decided : Bool} {x : EvaluationFault}

/-! ## The first argument with a term -/

/-- The value of an expression, none where its evaluation fails. -/
def valueOrNone (ambient : Ambient) (s : Solution) (e : Compiled) : Option Value :=
  (evaluate ambient s e).toOption.join

/-- An expression has a term whether or not faults are dropped. -/
theorem term?_valueOrNone_eq_some_iff :
    (valueOrNone ambient s e).bind Value.term? = some t ↔
      evaluate ambient s e = .ok (some (.term t)) := by
  unfold valueOrNone
  constructor
  · intro h
    rcases hvalue : evaluate ambient s e with x | _ | ⟨u | us | r⟩ <;> rw [hvalue] at h <;> cases h
    rfl
  · intro h
    rw [h]
    rfl

/-- The first term of several expressions is the first among their values. -/
theorem firstTerm_eq_findSome? : firstTerm ambient s args =
    (args.map (valueOrNone ambient s)).findSome? fun value => value.bind Value.term? := by
  -- by induction on the arguments, of which both sides look at the first one first
  induction args with
  | nil => rfl
  | cons e es ih =>
      rw [List.map_cons, List.findSome?_cons, firstTerm, ih]
      split
      · next t ht => rw [term?_valueOrNone_eq_some_iff.2 ht]
      · next hterm =>
          have hnone : (valueOrNone ambient s e).bind Value.term? = none :=
            Option.eq_none_iff_forall_ne_some.2 fun t ht =>
              hterm t (term?_valueOrNone_eq_some_iff.1 ht)
          rw [hnone]

/-- **A `coalesce` is the operation** on the values of its arguments, without those that fail. -/
theorem evaluate_coalesce_eq_answer : evaluate ambient s (.coalesce args) =
    answer present draw .coalesce (args.map (valueOrNone ambient s)) := by
  rw [evaluate, firstTerm_eq_findSome?]
  show _ = Except.map _ (Builtin.firstTerm _)
  unfold Builtin.firstTerm
  cases (args.map (valueOrNone ambient s)).findSome? fun value => value.bind Value.term? with
  | none => rfl
  | some t => rfl

/-! ## The side of a choice -/

/-- The arguments of a choice of which only the side that is decided for has a value. -/
def decidedArguments (value found : Option Value) (decided : Bool) : Arguments :=
  if decided then [value, found, none] else [value, none, found]

/-- The operation takes its condition for a term as the node does, and then the side. -/
theorem answer_choice : answer present draw .choice [value, left, right] = (do
    let decided ← expectTerm value >>= Builtin.isTrue
    let t ← expectTerm (if decided then left else right)
    return some (.term t)) := by
  show Except.map _ (expectTerm value >>= fun condition => _) = _
  rw [bind_assoc]
  cases expectTerm value with
  | error x => rfl
  | ok condition =>
      show Except.map _ (Builtin.isTrue condition >>= _) = Builtin.isTrue condition >>= _
      cases Builtin.isTrue condition with
      | error x => rfl
      | ok decided => cases decided <;> rfl

/-- Where nothing is decided, the operation does not look at the sides. -/
theorem answer_choice_of_undecided (h : Undecided value x) :
    answer present draw .choice [value, left, right] = .error x := by
  rw [answer_choice, undecided_iff.2 h]
  rfl

/-- Where a side is decided for, the operation answers with it. -/
theorem answer_choice_of_decides (h : Decides value decided) :
    answer present draw .choice (decidedArguments value found decided) =
      (expectTerm found).map fun t => some (.term t) := by
  cases decided with
  | false =>
      show answer present draw .choice [value, none, found] = _
      rw [answer_choice, decides_iff.2 h]
      rfl
  | true =>
      show answer present draw .choice [value, found, none] = _
      rw [answer_choice, decides_iff.2 h]
      rfl

/-- **A choice that is not decided is the operation**, whatever the values of the sides are. -/
theorem evaluate_choose_of_undecided (hcondition : evaluate ambient s condition = .ok value)
    (h : ∀ decided, ¬ Decides value decided) : evaluate ambient s (.choose condition yes no) =
      answer present draw .choice [value, left, right] := by
  cases hdecided : expectTerm value >>= Builtin.isTrue with
  | ok decided => exact absurd (decides_iff.1 hdecided) (h decided)
  | error x =>
      rw [answer_choice_of_undecided (undecided_iff.1 hdecided)]
      exact evaluate_choose_eq_error_iff.2
        (.inr ⟨value, hcondition, .inl (undecided_iff.1 hdecided)⟩)

/-- **A choice is the operation** on the values of its condition and of the side that is decided
for. -/
theorem evaluate_choose_eq_answer (hcondition : evaluate ambient s condition = .ok value)
    (h : Decides value decided)
    (hfound : evaluate ambient s (if decided then yes else no) = .ok found) :
    evaluate ambient s (.choose condition yes no) =
      answer present draw .choice (decidedArguments value found decided) := by
  rw [answer_choice_of_decides h, evaluate_choose, hcondition]
  show (expectTerm value >>= Builtin.isTrue) >>= _ = _
  rw [decides_iff.2 h]
  show evaluate ambient s (if decided then yes else no) >>= _ = _
  rw [hfound]
  rfl

/-! ## Both nodes -/

open Expression (nodeOf) in
/-- **Choices and `coalesce` agree with the operations.** The node of a `coalesce` answers what the
operation does, where the arguments that fail have no value. The node of a choice lets the fault of
its condition through, and that of the side it decides for. Where neither fails, it answers what the
operation does, where the other side has no value; and where the condition decides for no side, it
answers what the operation does with any values of the sides. -/
theorem lazy_nodes_eq_answer (ambient : Ambient) (s : Solution) (draw : Unit → Nat) (place : Nat) :
    (∀ args : List Compiled, nodeOf .coalesce place args = pure (.coalesce args) ∧
      evaluate ambient s (.coalesce args) =
        answer ambient.present draw .coalesce (args.map (valueOrNone ambient s))) ∧
    ∀ condition yes no : Compiled,
      nodeOf .choice place [condition, yes, no] = pure (.choose condition yes no) ∧
      (∀ x, evaluate ambient s condition = .error x →
        evaluate ambient s (.choose condition yes no) = .error x) ∧
      ∀ value, evaluate ambient s condition = .ok value →
        ((∀ decided, ¬ Decides value decided) → ∀ left right,
          evaluate ambient s (.choose condition yes no) =
            answer ambient.present draw .choice [value, left, right]) ∧
        ∀ decided, Decides value decided →
          (∀ x, evaluate ambient s (if decided then yes else no) = .error x →
            evaluate ambient s (.choose condition yes no) = .error x) ∧
          ∀ found, evaluate ambient s (if decided then yes else no) = .ok found →
            evaluate ambient s (.choose condition yes no) =
              answer ambient.present draw .choice (decidedArguments value found decided) := by
  refine ⟨fun args => ⟨rfl, evaluate_coalesce_eq_answer⟩, fun condition yes no => ⟨rfl, ?_, ?_⟩⟩
  · intro x hcondition
    exact evaluate_choose_eq_error_iff.2 (.inl hcondition)
  · intro value hcondition
    refine ⟨fun h left right => evaluate_choose_of_undecided hcondition h, ?_⟩
    intro decided hdecided
    refine ⟨fun x hside => ?_, fun found => evaluate_choose_eq_answer hcondition hdecided⟩
    exact evaluate_choose_eq_error_iff.2
      (.inr ⟨value, hcondition, .inr ⟨decided, hdecided, .inl hside⟩⟩)

/-- A difference of two texts fails, which neither a `coalesce` nor a choice for another side looks
at. -/
theorem lazy_nodes_eq_answer_difference :
    let ambient : Ambient := ⟨⟨0, 0, 0⟩, fun _ _ => 0⟩
    let difference := Compiled.apply (.arithmetic .subtract) 1
      [.constant (.literal (.plain "a")), .constant (.literal (.plain "b"))]
    let truth := Term.literal (.boolean true)
    let one := Term.literal (.plain "1")
    (∃ x, evaluate ambient .empty difference = .error x) ∧
      evaluate ambient .empty (.coalesce [difference, .constant one]) =
        answer ambient.present (fun _ => 0) .coalesce [none, some (.term one)] ∧
      evaluate ambient .empty (.choose (.constant truth) (.constant one) difference) =
        answer ambient.present (fun _ => 0) .choice
          [some (.term truth), some (.term one), none] := by
  intro ambient difference truth one
  obtain ⟨hcoalesce, hchoose⟩ := lazy_nodes_eq_answer ambient .empty (fun _ => 0) 0
  obtain ⟨-, -, hdecided⟩ := hchoose (.constant truth) (.constant one) difference
  obtain ⟨-, hsides⟩ := hdecided (some (.term truth)) rfl
  refine ⟨⟨_, rfl⟩, (hcoalesce [difference, .constant one]).2, ?_⟩
  exact (hsides true ⟨truth, rfl, rfl⟩).2 (some (.term one)) rfl

end Compiled

end SolutionAlgebra
