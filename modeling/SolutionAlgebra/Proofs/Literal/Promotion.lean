import Mathlib.Data.Nat.Basic
import Mathlib.Order.MinMax
import SolutionAlgebra.Literal.Operations

/-! # Promotion

The classes of numbers are ordered by what promotion makes of them. An operator on two numbers has a
result of the wider of their classes, and a quotient is a decimal fraction at least. Only a quotient
of that class by zero is refused.

* **`ArithmeticOperator.promoted`** — the class of the result of an operator.
* **`Literal.OfType`** — that a literal is a number of a class.
* **`Literal.apply_of_numbers`** — what an operator gives for two numbers.
* **`Literal.apply_cases`** — its result is of the promoted class, but for a quotient by zero. -/

namespace SolutionAlgebra

namespace NumericType

/-- Different classes have different places in the order of promotion. -/
theorem rank_injective : Function.Injective rank := by
  intro a b h
  cases a <;> cases b <;> first | rfl | cases h

/-- The order of promotion. -/
instance : LinearOrder NumericType := LinearOrder.lift' rank rank_injective

/-- Whole numbers are the first class. -/
theorem integer_le (a : NumericType) : integer ≤ a := Nat.zero_le a.rank

end NumericType

namespace ArithmeticOperator

variable {op : ArithmeticOperator} {a b : NumericType}

/-- The class of the result of an operator: the wider one of the operands, for a quotient at least
that of decimal fractions. -/
def promoted (op : ArithmeticOperator) (a b : NumericType) : NumericType :=
  match op with
  | divide => max (max a b) .decimal
  | _ => max a b

/-- The class of a result is that of promotion. -/
theorem resultType_eq_promoted (op : ArithmeticOperator) (a b : NumericType) :
    op.resultType a b = op.promoted a b := by
  cases op <;> cases a <;> cases b <;> rfl

/-- The left operand is of no wider class than the result. -/
theorem left_le_promoted : a ≤ op.promoted a b := by
  cases op with
  | divide => exact le_max_of_le_left (le_max_left a b)
  | _ => exact le_max_left a b

/-- The right operand is of no wider class than the result. -/
theorem right_le_promoted : b ≤ op.promoted a b := by
  cases op with
  | divide => exact le_max_of_le_left (le_max_right a b)
  | _ => exact le_max_right a b

/-- A quotient is no whole number. -/
theorem decimal_le_promoted_divide : .decimal ≤ divide.promoted a b := le_max_right _ _

end ArithmeticOperator

namespace Literal

variable {a b : Literal} {x y : Float} {p q : NumericType}

/-- A literal is a number by its kind. -/
theorem number?_eq_some_iff : a.number? = some (x, p) ↔ a.kind = .numeric x p := by
  unfold number?
  constructor
  · intro h
    split at h <;> cases h
    next hkind => exact hkind
  · intro h
    rw [h]

/-- A computed number has its value and class. -/
theorem number?_numeric (x : Float) (p : NumericType) : (numeric x p).number? = some (x, p) := rfl

/-- An operator on two numbers gives a number of the promoted class, but for a quotient by zero that
would be a decimal fraction. -/
theorem computeNumbers?_eq (op : ArithmeticOperator) (x y : Float) (p q : NumericType) :
    computeNumbers? op (x, p) (y, q) =
      if op = .divide ∧ y == 0 ∧ op.promoted p q = .decimal then none
      else some (numeric (op.compute x y) (op.promoted p q)) := by
  unfold computeNumbers?
  rw [ArithmeticOperator.resultType_eq_promoted]
  refine if_congr (and_congr_right fun hop => and_congr_right fun _ => ?_) rfl rfl
  -- a quotient is at least a decimal fraction, so that at most means exactly
  subst hop
  exact ⟨fun hle => le_antisymm hle ArithmeticOperator.decimal_le_promoted_divide, le_of_eq⟩

/-- **What an operator gives for two numbers**: a number of the promoted class, or a fault for a
quotient by zero that would be a decimal fraction. -/
theorem apply_of_numbers (op : ArithmeticOperator) (ha : a.number? = some (x, p))
    (hb : b.number? = some (y, q)) : apply op a b =
      if op = .divide ∧ y == 0 ∧ op.promoted p q = .decimal then .error ⟨a.rdf, op, b.rdf⟩
      else .ok (numeric (op.compute x y) (op.promoted p q)) := by
  have hcompute : compute? op a b = computeNumbers? op (x, p) (y, q) := by
    unfold compute? operand?
    rw [number?_eq_some_iff.1 ha, number?_eq_some_iff.1 hb]
    rfl
  unfold apply
  rw [hcompute, computeNumbers?_eq]
  by_cases hrefused : op = .divide ∧ y == 0 ∧ op.promoted p q = .decimal
  · rw [if_pos hrefused, if_pos hrefused]
  · rw [if_neg hrefused, if_neg hrefused]

/-- That a literal is a number of a class. -/
def OfType (l : Literal) (type : NumericType) : Prop := ∃ x, l.number? = some (x, type)

/-- A number is of one class only. -/
theorem OfType.unique (hp : a.OfType p) (hq : a.OfType q) : p = q := by
  obtain ⟨x, hx⟩ := hp
  obtain ⟨y, hy⟩ := hq
  rw [hx] at hy
  cases hy
  rfl

/-- That a literal is a number that equals zero. -/
def IsZero (l : Literal) : Prop := ∃ y type, l.number? = some (y, type) ∧ (y == 0) = true

/-- **The result of an operator is of the promoted class**, and has its datatype; only a quotient by
zero that would be a decimal fraction has none. -/
theorem apply_cases (op : ArithmeticOperator) (ha : a.OfType p) (hb : b.OfType q) :
    (∃ l, apply op a b = .ok l ∧ l.OfType (op.promoted p q) ∧
      l.datatype = some (op.promoted p q).datatype) ∨
    (op = .divide ∧ op.promoted p q = .decimal ∧ b.IsZero ∧
      apply op a b = .error ⟨a.rdf, op, b.rdf⟩) := by
  obtain ⟨x, hx⟩ := ha
  obtain ⟨y, hy⟩ := hb
  rw [apply_of_numbers op hx hy]
  by_cases hrefused : op = .divide ∧ y == 0 ∧ op.promoted p q = .decimal
  · obtain ⟨hop, hzero, htype⟩ := hrefused
    exact .inr ⟨hop, htype, ⟨y, q, hy, hzero⟩, if_pos ⟨hop, hzero, htype⟩⟩
  · exact .inl ⟨_, if_neg hrefused, ⟨_, number?_numeric _ _⟩, rfl⟩

end Literal

end SolutionAlgebra
