import SolutionAlgebra.Proofs.Decimal.Grid
import SolutionAlgebra.Proofs.Decimal.Integers

/-! # Whole numbers next to a number

A finite number is moved down or up to a whole number by cutting off its magnitude and, on one side
of zero, going on to the next one. Numbers with a fraction are so small that both whole numbers next
to them are finite numbers themselves, so that nothing is rounded on the way.

* **`value_floor`**, **`value_ceil`** — the greatest whole number that is not above, and the least
  one that is not below. -/

namespace SolutionAlgebra.Decimal

variable {x : Float} {n : ℕ}

/-! ## Down and up -/

/-- A natural number up to `2 ^ 53` with a sign before it is a finite number. -/
theorem value_withSign_ofNat (h : n ≤ 2 ^ 53) (negative : Bool) :
    Finite (withSign negative (Float.ofNat n)) ∧
      value (withSign negative (Float.ofNat n)) = signed negative n := by
  obtain ⟨a, ha⟩ : ∃ a : ℤ, a = if negative then -(n : ℤ) else n := ⟨_, rfl⟩
  have habs : a.natAbs = n := by
    rw [ha]
    split <;> omega
  have hsigned : (a : ℚ) = signed negative n := by
    rw [ha]
    cases negative with
    | false => exact Int.cast_natCast n
    | true => exact (Int.cast_neg _).trans (congrArg _ (Int.cast_natCast n))
  have hrounds : RoundsTo a (withSign negative (nearest a.natAbs 0)) := by
    refine roundsTo_nearest (by omega) negative fun hne => ?_
    rw [ha] at hne ⊢
    cases negative with
    | false => exact (decide_eq_false (Int.not_lt.2 (Int.natCast_nonneg n))).symm
    | true => exact (decide_eq_true (by rw [if_pos rfl] at hne ⊢; omega)).symm
  have hvalue := hrounds.value_eq (by omega)
  rw [rounded_of_le (by omega), hsigned] at hvalue
  rw [habs] at hrounds hvalue
  exact ⟨hrounds.finite, hvalue⟩

/-- A number without a fraction is a whole number. -/
theorem exists_value_of_isWhole (h : isWhole x = true) : ∃ a : ℤ, value x = a := by
  rw [isWhole, beq_iff_eq] at h
  rw [value, Dyadic.toRat_of_whole h]
  cases isNegative x with
  | false => exact ⟨(magnitude x).whole, (Int.cast_natCast _).symm⟩
  | true => exact ⟨-(magnitude x).whole, by rw [Int.cast_neg, Int.cast_natCast]; rfl⟩

/-- A number with a fraction lies between two whole numbers, which are finite numbers. -/
theorem whole_bounds_of_not_isWhole (hx : Finite x) (h : isWhole x = false) :
    ((magnitude x).whole : ℚ) < (magnitude x).toRat ∧
      (magnitude x).toRat < (magnitude x).whole + 1 ∧ (magnitude x).whole + 1 ≤ 2 ^ 53 := by
  rw [isWhole, beq_eq_false_iff_ne] at h
  have hbounds := (magnitude x).whole_bounds
  refine ⟨lt_of_le_of_ne hbounds.1 fun heq => ?_, hbounds.2, ?_⟩
  · have heq' : (magnitude x).toRat = ((magnitude x).whole : ℤ) := by
      rw [← heq, Int.cast_natCast]
    exact h (Dyadic.eq_whole heq').2
  · have hexponent : ¬ 0 ≤ (magnitude x).exponent := fun hexponent =>
      h (by rw [Dyadic.remainder, if_pos hexponent])
    have hwhole : (magnitude x).whole ≤ (magnitude x).mantissa := by
      rw [Dyadic.whole, if_neg hexponent]
      exact Nat.div_le_self _ _
    have hmantissa : (magnitude x).mantissa ≠ 0 := fun hzero =>
      h (by rw [Dyadic.remainder, if_neg hexponent, hzero, Nat.zero_mod])
    have hlt := (hx.canonical hmantissa).lt
    omega

/-- A number with a fraction is moved to the whole number that is asked for. -/
theorem value_roundWith (bump : Bool → ℕ → ℕ → Bool) (hx : Finite x) (h : isWhole x = false) :
    Finite (roundWith bump x) ∧ value (roundWith bump x) = signed (isNegative x)
      (if bump (isNegative x) (magnitude x).remainder (magnitude x).unit
        then (magnitude x).whole + 1 else (magnitude x).whole : ℕ) := by
  have hbounds := (whole_bounds_of_not_isWhole hx h).2.2
  rw [roundWith, hx.isNaN, hx.isInf, h, Bool.or_self, Bool.or_self, if_neg Bool.false_ne_true]
  exact value_withSign_ofNat (by split <;> omega) _

/-- A number without a fraction stays. -/
theorem roundWith_of_isWhole (bump : Bool → ℕ → ℕ → Bool) (h : isWhole x = true) :
    roundWith bump x = x := by
  rw [roundWith, h, Bool.or_true, if_pos rfl]

/-- **Rounding down** gives the greatest whole number that is not above. -/
theorem value_floor (hx : Finite x) : Finite (floor x) ∧ value (floor x) = ⌊value x⌋ := by
  cases h : isWhole x with
  | true =>
    obtain ⟨a, ha⟩ := exists_value_of_isWhole h
    rw [floor, roundWith_of_isWhole _ h, ha, Int.floor_intCast]
    exact ⟨hx, rfl⟩
  | false =>
    obtain ⟨hfinite, hvalue⟩ := value_roundWith (fun negative _ _ => negative) hx h
    obtain ⟨hlow, hhigh, -⟩ := whole_bounds_of_not_isWhole hx h
    refine ⟨hfinite, hvalue.trans ?_⟩
    rw [value]
    -- below zero the next whole number of the magnitude is the lower one
    cases isNegative x with
    | false =>
      have hfloor : ⌊(magnitude x).toRat⌋ = ((magnitude x).whole : ℤ) :=
        Int.floor_eq_iff.2 ⟨by exact_mod_cast hlow.le, by exact_mod_cast hhigh⟩
      rw [signed_false, signed_false, hfloor, Int.cast_natCast]
      rfl
    | true =>
      have hfloor : ⌊-(magnitude x).toRat⌋ = -((magnitude x).whole + 1 : ℤ) :=
        Int.floor_eq_iff.2 ⟨by push_cast; linarith, by push_cast; linarith⟩
      rw [signed_true, signed_true, hfloor, if_pos rfl]
      push_cast
      rfl

/-- **Rounding up** gives the least whole number that is not below. -/
theorem value_ceil (hx : Finite x) : Finite (ceil x) ∧ value (ceil x) = ⌈value x⌉ := by
  cases h : isWhole x with
  | true =>
    obtain ⟨a, ha⟩ := exists_value_of_isWhole h
    rw [ceil, roundWith_of_isWhole _ h, ha, Int.ceil_intCast]
    exact ⟨hx, rfl⟩
  | false =>
    obtain ⟨hfinite, hvalue⟩ := value_roundWith (fun negative _ _ => !negative) hx h
    -- cutting off the fraction moves up below zero, and down above it
    obtain ⟨hlow, hhigh, -⟩ := whole_bounds_of_not_isWhole hx h
    refine ⟨hfinite, hvalue.trans ?_⟩
    rw [value]
    cases isNegative x with
    | false =>
      have hceil : ⌈(magnitude x).toRat⌉ = ((magnitude x).whole + 1 : ℤ) :=
        Int.ceil_eq_iff.2 ⟨by push_cast; linarith, by push_cast; linarith⟩
      rw [signed_false, signed_false, hceil, Bool.not_false, if_pos rfl]
      push_cast
      rfl
    | true =>
      have hceil : ⌈-(magnitude x).toRat⌉ = -((magnitude x).whole : ℤ) :=
        Int.ceil_eq_iff.2 ⟨by push_cast; linarith, by push_cast; linarith⟩
      rw [signed_true, signed_true, hceil]
      push_cast
      rfl

end SolutionAlgebra.Decimal
