import Mathlib.Algebra.Order.Round
import SolutionAlgebra.Proofs.Builtin.Arguments
import SolutionAlgebra.Proofs.Decimal.Halves

/-! # Rounding to whole numbers

A number is rounded down, up, or to the nearest whole number, halves going up, and keeps its class.
Down and up, the result is always the right one. The nearest whole number is found by adding one
half and rounding down, and this goes wrong by one where the sum strays.

* **`Builtin.RoundsWell`** — what a number should be rounded to.
* **`Builtin.roundsWell_iff`** — what it is rounded to, and when this is what it should be.
* **`Builtin.not_roundsWell`** — a whole number that is rounded to the next one. -/

namespace SolutionAlgebra

open Decimal

variable {x : Float} {q : ℚ} {r : Rounding}

/-- What a number is to be rounded to: a whole number, or the number without its sign. -/
def Rounding.target : Rounding → ℚ → ℚ
  | .abs, q => |q|
  | .round, q => ⌊q + 1 / 2⌋
  | .ceil, q => ⌈q⌉
  | .floor, q => ⌊q⌋

/-- Finite numbers are rounded to finite numbers, and to those that they are to be rounded to, but
for those that stray. -/
theorem Rounding.value_apply (hx : Decimal.Finite x) (hr : r ≠ .abs) :
    Decimal.Finite (r.apply x) ∧
    (¬ (r = .round ∧ Strays (value x)) → value (r.apply x) = r.target (value x)) ∧
    (r = .round ∧ Strays (value x) → value (r.apply x) = r.target (value x) + 1) := by
  cases r with
  | abs => exact absurd rfl hr
  | round =>
    obtain ⟨hfinite, hnearest, hnext⟩ := value_floor_half hx
    exact ⟨hfinite, fun hnot => hnearest fun hstrays => hnot ⟨rfl, hstrays⟩,
      fun hstrays => hnext hstrays.2⟩
  | ceil =>
    obtain ⟨hfinite, hvalue⟩ := value_ceil hx
    exact ⟨hfinite, fun _ => hvalue, fun hstrays => nomatch hstrays.1⟩
  | floor =>
    obtain ⟨hfinite, hvalue⟩ := value_floor hx
    exact ⟨hfinite, fun _ => hvalue, fun hstrays => nomatch hstrays.1⟩

namespace Builtin

/-- That a number is rounded as it should be. -/
structure RoundsWell (r : Rounding) (q y : ℚ) : Prop where
  /-- The result is a whole number. -/
  whole : ∃ n : ℤ, y = n
  /-- Whole numbers stay. -/
  fixed : ∀ n : ℤ, q = n → y = q
  /-- The result is less than one away. -/
  near : |y - q| < 1
  /-- The nearest whole number is not further away than the ones above and below. -/
  nearest : r = .round → |y - q| ≤ |Rounding.ceil.target q - q| ∧
    |y - q| ≤ |Rounding.floor.target q - q|

/-- What a number is to be rounded to is as it should be. -/
theorem roundsWell_target (hr : r ≠ .abs) (q : ℚ) : RoundsWell r q (r.target q) := by
  cases r with
  | abs => exact absurd rfl hr
  | round =>
    have hround : Rounding.round.target q = (round q : ℤ) := congrArg Int.cast (round_eq q).symm
    rw [hround]
    refine ⟨⟨_, rfl⟩, ?_, ?_, fun _ => ⟨?_, ?_⟩⟩
    · rintro n rfl
      rw [round_intCast]
    · rw [abs_sub_comm]
      exact (abs_sub_round q).trans_lt (by norm_num)
    · -- no integer is nearer, and so neither of the two next to the number
      rw [abs_sub_comm, abs_sub_comm (Rounding.ceil.target q)]
      exact round_le q ⌈q⌉
    · rw [abs_sub_comm, abs_sub_comm (Rounding.floor.target q)]
      exact round_le q ⌊q⌋
  | ceil =>
    refine ⟨⟨_, rfl⟩, ?_, ?_, fun h => nomatch h⟩
    · rintro n rfl
      exact congrArg Int.cast (Int.ceil_intCast n)
    · show |(⌈q⌉ : ℚ) - q| < 1
      rw [abs_of_nonneg (sub_nonneg.2 (Int.le_ceil q))]
      linarith [Int.ceil_lt_add_one q]
  | floor =>
    refine ⟨⟨_, rfl⟩, ?_, ?_, fun h => nomatch h⟩
    · rintro n rfl
      exact congrArg Int.cast (Int.floor_intCast n)
    · show |(⌊q⌋ : ℚ) - q| < 1
      rw [abs_of_nonpos (sub_nonpos.2 (Int.floor_le q))]
      linarith [Int.lt_floor_add_one q]

/-- The whole number after the nearest one is not as it should be. -/
theorem not_roundsWell_of_strays (h : Strays q) :
    ¬ RoundsWell .round q (Rounding.round.target q + 1) := by
  intro hwell
  rcases h with rfl | ⟨k, rfl, -⟩
  · -- zero would be nearer than one
    have hnearest := (hwell.nearest rfl).2
    norm_num [Rounding.target] at hnearest
  · have hfixed := hwell.fixed k rfl
    rw [Rounding.target, floor_intCast_add_half] at hfixed
    linarith

/-- Numbers are rounded as they should be, but for those that stray. -/
theorem roundsWell_apply_iff (hx : Decimal.Finite x) (hr : r ≠ .abs) :
    RoundsWell r (value x) (value (r.apply x)) ↔ ¬ (r = .round ∧ Strays (value x)) := by
  obtain ⟨-, htarget, hnext⟩ := Rounding.value_apply hx hr
  constructor
  · rintro hwell ⟨rfl, hstrays⟩
    rw [hnext ⟨rfl, hstrays⟩] at hwell
    exact not_roundsWell_of_strays hstrays hwell
  · intro hnot
    rw [htarget hnot]
    exact roundsWell_target hr _

variable (present : Calendar.Moment) (draw : Unit → Nat) {l : Literal} {type : NumericType}

/-- A number is rounded in its class. -/
theorem apply_rounding (hl : l.number? = some (x, type)) :
    apply present draw (.rounding r) [some (.term (.literal l))] =
      .ok (.literal (.numeric (r.apply x) type)) := by
  have hnumber : Arguments.number (rounding r).name [some (.term (.literal l))] 0 =
      .ok (x, type) := Arguments.number_eq_ok rfl hl
  show (Arguments.number (rounding r).name [some (.term (.literal l))] 0 >>= fun number =>
    pure (Term.literal (.numeric (r.apply number.1) number.2))) = _
  rw [hnumber]
  rfl

/-- **Rounding.** A finite number is rounded to a finite number of its class, and to the whole
number that it is to be rounded to, which is the right one; only that nearest to a number that
strays is taken to be the next one, and this is never right. -/
theorem roundsWell_iff (hl : l.number? = some (x, type)) (hx : Decimal.Finite x) (hr : r ≠ .abs) :
    ∃ y, Decimal.Finite y ∧
      apply present draw (.rounding r) [some (.term (.literal l))] =
        .ok (.literal (.numeric y type)) ∧
      (¬ (r = .round ∧ Strays (value x)) → value y = r.target (value x)) ∧
      (r = .round ∧ Strays (value x) → value y = r.target (value x) + 1) ∧
      (RoundsWell r (value x) (value y) ↔ ¬ (r = .round ∧ Strays (value x))) := by
  obtain ⟨hfinite, htarget, hnext⟩ := Rounding.value_apply hx hr
  exact ⟨_, hfinite, apply_rounding present draw hl, htarget, hnext, roundsWell_apply_iff hx hr⟩

/-- Two and a half. -/
theorem roundsWell_iff_half :
    (Literal.numeric 2.5 .decimal).number? = some (2.5, .decimal) ∧ Decimal.Finite 2.5 ∧
      Rounding.round ≠ .abs ∧ ∃ y, Decimal.Finite y ∧
        apply ⟨0, 0, 0⟩ (fun _ => 0) (.rounding .round)
          [some (.term (.literal (.numeric 2.5 .decimal)))] =
            .ok (.literal (.numeric y .decimal)) ∧
        (¬ (Rounding.round = .round ∧ Strays (value 2.5)) →
          value y = Rounding.round.target (value 2.5)) ∧
        (Rounding.round = .round ∧ Strays (value 2.5) →
          value y = Rounding.round.target (value 2.5) + 1) ∧
        (RoundsWell .round (value 2.5) (value y) ↔
          ¬ (Rounding.round = .round ∧ Strays (value 2.5))) := by
  have hl : (Literal.numeric 2.5 .decimal).number? = some (2.5, .decimal) := rfl
  have hx : Decimal.Finite 2.5 := ⟨by decide +kernel, by decide +kernel⟩
  have hr : Rounding.round ≠ .abs := by decide
  exact ⟨hl, hx, hr, roundsWell_iff ⟨0, 0, 0⟩ (fun _ => 0) hl hx hr⟩

/-- The whole number after `2 ^ 52` is rounded to the next one. -/
theorem not_roundsWell :
    ¬ ∀ (l : Literal) (x : Float) (type : NumericType), l.number? = some (x, type) →
      Decimal.Finite x → ∃ y,
        apply ⟨0, 0, 0⟩ (fun _ => 0) (.rounding .round) [some (.term (.literal l))] =
          .ok (.literal (.numeric y type)) ∧
        RoundsWell .round (value x) (value y) := by
  intro h
  have hrounds : RoundsTo (4503599627370497 : ℤ) (ofInt 4503599627370497) :=
    roundsTo_ofInt (by decide)
  have hvalue : value (ofInt 4503599627370497) = (4503599627370497 : ℤ) := by
    rw [hrounds.value_eq (by decide), rounded_of_le (by decide)]
  have hl : (Literal.integer 4503599627370497).number? = some (ofInt 4503599627370497, .integer) :=
    rfl
  obtain ⟨y, happly, hwell⟩ := h _ _ _ hl hrounds.finite
  -- the answer is read back from its number
  rw [apply_rounding ⟨0, 0, 0⟩ (fun _ => 0) hl] at happly
  have hkind := congrArg Literal.number? (Term.literal.inj (Except.ok.inj happly))
  obtain rfl : Rounding.round.apply (ofInt 4503599627370497) = y :=
    congrArg Prod.fst (Option.some.inj hkind)
  refine (roundsWell_apply_iff hrounds.finite (by decide)).1 hwell ⟨rfl, ?_⟩
  exact .inr ⟨4503599627370497, hvalue, by decide, by decide, by decide⟩

end Builtin

end SolutionAlgebra
