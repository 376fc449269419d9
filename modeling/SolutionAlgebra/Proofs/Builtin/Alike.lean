import Mathlib.Data.List.Forall2
import SolutionAlgebra.Builtin.Apply

/-! # Operations do not look into solutions

The value of an expression may be the solution itself. No operation looks into it: whatever solution
stands in the place of an argument, the result is the same, and so is the fault. What is drawn and
the present moment matter to four operations only.

* **`Value.Alike`** — that two values differ at most in that each is the solution at hand.
* **`Builtin.apply_congr`** — the results of operations on arguments that are alike. -/

namespace SolutionAlgebra

/-- The values that an expression may have for two solutions: the same value, or the solutions
themselves. -/
inductive Value.Alike (s s' : Solution) : Option Value → Option Value → Prop where
  /-- The same value, or none. -/
  | same (value : Option Value) : Alike s s' value value
  /-- The solutions themselves. -/
  | whole : Alike s s' (some (.solution s)) (some (.solution s'))

variable {s s' : Solution}

/-- Values for one solution that are alike are the same. -/
theorem Value.Alike.eq {value value' : Option Value} (h : Value.Alike s s value value') :
    value = value' := by
  cases h <;> rfl

/-- Values that are alike are the same term, or both no term. -/
theorem Value.Alike.term?_eq {value value' : Option Value} (h : Value.Alike s s' value value') :
    value.bind Value.term? = value'.bind Value.term? := by
  cases h <;> rfl

namespace Arguments

/-- Arguments that are alike one by one. -/
abbrev Alike (s s' : Solution) : Arguments → Arguments → Prop :=
  List.Forall₂ (Value.Alike s s')

variable {args args' : Arguments} (h : Alike s s' args args')

include h

/-- An argument is the same term, or the same fault. -/
theorem Alike.term (function : String) (i : Nat) :
    args.term function i = args'.term function i := by
  induction h generalizing i with
  | nil => rfl
  | cons hvalue _ ih =>
      cases i with
      | zero => cases hvalue <;> rfl
      | succ i => exact ih i

/-- An argument is the same literal, or the same fault. -/
theorem Alike.literal (function : String) (i : Nat) :
    args.literal function i = args'.literal function i := by
  rw [Arguments.literal, Arguments.literal, h.term]

/-- An argument is the same string, or the same fault. -/
theorem Alike.string (function : String) (i : Nat) :
    args.string function i = args'.string function i := by
  rw [Arguments.string, Arguments.string, h.literal]

/-- An argument is the same number, or the same fault. -/
theorem Alike.number (function : String) (i : Nat) :
    args.number function i = args'.number function i := by
  rw [Arguments.number, Arguments.number, h.literal]

/-- An argument is the same moment, or the same fault. -/
theorem Alike.moment (function : String) (i : Nat) :
    args.moment function i = args'.moment function i := by
  rw [Arguments.moment, Arguments.moment, h.literal]

/-- An argument has the same truth value, or none. -/
theorem Alike.truth? (i : Nat) : args.truth? i = args'.truth? i := by
  induction h generalizing i with
  | nil => rfl
  | cons hvalue _ ih =>
      cases i with
      | zero => cases hvalue <;> rfl
      | succ i => exact ih i

/-- The terms among the arguments are the same. -/
theorem Alike.map_term? :
    args.map (fun value => value.bind Value.term?) =
      args'.map fun value => value.bind Value.term? := by
  induction h with
  | nil => rfl
  | cons hvalue _ ih => rw [List.map_cons, List.map_cons, hvalue.term?_eq, ih]

end Arguments

namespace Builtin

variable {args args' : Arguments}

/-- Whether an operation takes something from outside: a draw, or the present moment. -/
def isVolatile : Builtin → Bool
  | uuid | struuid | rand | now => true
  | _ => false

section

variable (h : Arguments.Alike s s' args args')

include h

/-- The first of arguments that are alike is the same term, or both are no term. -/
theorem bound_congr :
    ((args.head?.bind id).bind Value.term?) = ((args'.head?.bind id).bind Value.term?) := by
  cases h with
  | nil => rfl
  | cons hvalue _ => exact hvalue.term?_eq

/-- The first term among arguments that are alike is the same. -/
theorem firstTerm_congr : firstTerm args = firstTerm args' := by
  have hfirst : ∀ args : Arguments, args.findSome? (fun value => value.bind Value.term?) =
      (args.map fun value => value.bind Value.term?).findSome? id := by
    intro args
    rw [List.findSome?_map]
    rfl
  rw [firstTerm, firstTerm, hfirst, hfirst, h.map_term?]

/-- A term is among arguments that are alike for both or for neither. -/
theorem any_matchesTerm_congr (needle : Term) :
    args.any (matchesTerm needle) = args'.any (matchesTerm needle) := by
  induction h with
  | nil => rfl
  | cons hvalue _ ih =>
      rw [List.any_cons, List.any_cons, ih]
      congr 1
      -- a solution matches no term
      cases hvalue <;> rfl

/-- So is the first argument among those after it. -/
theorem isAmong_congr (function : String) : isAmong function args = isAmong function args' := by
  have hrest : Arguments.Alike s s' (args.drop 1) (args'.drop 1) := by
    cases h with
    | nil => exact .nil
    | cons _ hrest => exact hrest
  rw [isAmong, isAmong, h.term]
  simp only [any_matchesTerm_congr hrest]

/-- The same one of two arguments is chosen. -/
theorem choose_congr : choose args = choose args' := by
  rw [choose, choose]
  simp only [h.term]

/-- The arguments are the same strings, or the same fault. -/
theorem strings_congr (function : String) : strings function args = strings function args' := by
  rw [strings, strings, h.length_eq, funext fun i => h.string function i]

/-- The flags of a pattern are the same. -/
theorem flagsOf_congr (function : String) (i : Nat) :
    flagsOf function args i = flagsOf function args' i := by
  rw [flagsOf, flagsOf, h.length_eq, h.literal]

/-- The same part of a string is taken. -/
theorem substring_congr : substring args = substring args' := by
  rw [substring, substring, h.length_eq, h.string]
  simp only [h.number]

/-- **An operation computes the same from arguments that are alike**, unless it takes something from
outside. -/
theorem compute_congr (present present' : Calendar.Moment) (draw draw' : Unit → Nat) (b : Builtin)
    (hvolatile : b.isVolatile = false) :
    b.compute present draw args = b.compute present' draw' args' := by
  cases b with
  | uuid | struuid | rand | now => cases hvolatile
  | _ =>
      simp only [compute, h.term, h.literal, h.string, h.number, h.moment, h.truth?,
        bound_congr h, firstTerm_congr h, isAmong_congr h, choose_congr h, strings_congr h,
        flagsOf_congr h, substring_congr h]

/-- **The result of an operation does not depend on solutions among its arguments**, nor on what is
outside unless the operation takes it from there. -/
theorem apply_congr (present present' : Calendar.Moment) (draw draw' : Unit → Nat) {b : Builtin}
    (hvolatile : b.isVolatile = false) :
    b.apply present draw args = b.apply present' draw' args' := by
  rw [apply, apply, h.length_eq, compute_congr h present present' draw draw' b hvolatile]

end

end Builtin

end SolutionAlgebra
