import SolutionAlgebra.Proofs.Decimal.Order
import SolutionAlgebra.Proofs.Decimal.Rounding

/-! # Numbers as rational numbers

A finite number is zero with either sign, or the number of a sign and a canonical magnitude. It
stands for a rational number, and finite numbers are compared as the rational numbers are that they
stand for: a canonical magnitude with a greater exponent is greater, whatever the mantissas are.

* **`value`** — the rational number that a finite number stands for.
* **`Finite.view`** — what a finite number is.
* **`lt_iff_value`**, **`beq_iff_value`** — comparisons of finite numbers. -/

namespace SolutionAlgebra.Decimal

open Float.Model Float.Model.UnpackedFloat
open Std (compare_self)

/-! ## Values -/

/-- A rational number with a sign before it. -/
def signed (negative : Bool) (q : ℚ) : ℚ := if negative then -q else q

/-- A number without a sign is itself. -/
@[simp] theorem signed_false (q : ℚ) : signed false q = q := rfl

/-- A number with a sign is its opposite. -/
@[simp] theorem signed_true (q : ℚ) : signed true q = -q := rfl

/-- The sign of zero makes no difference to the value. -/
@[simp] theorem signed_zero (negative : Bool) : signed negative 0 = 0 := by
  cases negative with
  | false => rfl
  | true => exact neg_zero

/-- The rational number that a finite number stands for. -/
def value (x : Float) : ℚ := signed (isNegative x) (magnitude x).toRat

/-- Zero stands for zero, whatever its sign. -/
@[simp] theorem value_withSign_zero (negative : Bool) : value (withSign negative 0) = 0 := by
  rw [value, magnitude_withSign_zero, Dyadic.toRat, Nat.cast_zero, zero_mul, signed_zero]

namespace Dyadic.Canonical

variable {d d₁ d₂ : Dyadic}

/-- The number of a magnitude stands for it. -/
theorem value_ofMagnitude (hd : d.Canonical) (negative : Bool) :
    value (ofMagnitude negative d hd.pos) = signed negative d.toRat := by
  rw [value, hd.isNegative_ofMagnitude, hd.magnitude_ofMagnitude]

/-- A magnitude is positive. -/
theorem toRat_pos (hd : d.Canonical) : 0 < d.toRat :=
  mul_pos (by exact_mod_cast hd.pos) (two_zpow_pos _)

end Dyadic.Canonical

/-! ## Finite numbers -/

/-- What a finite number is. -/
inductive Finite.View : Float → Prop where
  /-- Zero with a sign. -/
  | zero (negative : Bool) : View (withSign negative 0)
  /-- The number of a sign and a magnitude. -/
  | magnitude (negative : Bool) {d : Dyadic} (hd : d.Canonical) :
      View (ofMagnitude negative d hd.pos)

variable {x y : Float}

/-- A finite number is zero or the number of a sign and a magnitude. -/
theorem Finite.view (h : Finite x) : Finite.View x := by
  by_cases hzero : (Decimal.magnitude x).mantissa = 0
  · rw [eq_zero hzero]
    exact .zero _
  · have hd := h.canonical hzero
    rw [← ofMagnitude_magnitude h hd.pos]
    exact .magnitude _ hd

/-- The operations take zero apart into its sign. -/
theorem unpack_withSign_zero (negative : Bool) :
    (withSign negative 0).toModel.unpack = .zero (signOf negative) := by
  cases negative <;> rfl

/-- Zero and the numbers of magnitudes are finite. -/
theorem Finite.View.finite (h : Finite.View x) : Finite x := by
  cases h with
  | zero negative =>
    constructor
    · show (withSign negative 0).toModel.unpack.isNaN = false
      rw [unpack_withSign_zero]
      rfl
    · show (withSign negative 0).toModel.unpack.isInf = false
      rw [unpack_withSign_zero]
      rfl
  | magnitude negative hd =>
    constructor
    · show (ofMagnitude negative _ hd.pos).toModel.unpack.isNaN = false
      rw [hd.unpack_ofMagnitude]
      rfl
    · show (ofMagnitude negative _ hd.pos).toModel.unpack.isInf = false
      rw [hd.unpack_ofMagnitude]
      rfl

/-! ## The order of values -/

namespace Dyadic.Canonical

variable {d d₁ d₂ : Dyadic}

/-- A magnitude with a smaller exponent is smaller. -/
theorem toRat_lt_of_exponent (h₁ : d₁.Canonical) (h₂ : d₂.Canonical)
    (h : d₁.exponent < d₂.exponent) : d₁.toRat < d₂.toRat := by
  have hleast := h₁.least
  have hfull : 2 ^ 52 ≤ d₂.mantissa := h₂.full.resolve_right (by omega)
  have hlt : (d₁.mantissa : ℚ) < 2 * d₂.mantissa := by
    have hlt := h₁.lt
    exact_mod_cast (by omega : d₁.mantissa < 2 * d₂.mantissa)
  calc d₁.toRat < 2 * d₂.mantissa * 2 ^ d₁.exponent :=
        mul_lt_mul_of_pos_right hlt (two_zpow_pos _)
    _ = d₂.mantissa * 2 ^ (d₁.exponent + 1) := by
        rw [zpow_add_one₀ (by norm_num)]
        ring
    _ ≤ d₂.toRat := mul_le_mul_of_nonneg_left
        (zpow_le_zpow_right₀ (by norm_num) (by omega)) (by positivity)

/-- Magnitudes are compared by their exponents, and then by their mantissas. -/
theorem compare_toRat (h₁ : d₁.Canonical) (h₂ : d₂.Canonical) :
    compare d₁.toRat d₂.toRat =
      (compare d₁.exponent d₂.exponent).then (compare (d₁.mantissa : ℤ) d₂.mantissa) := by
  rcases lt_trichotomy d₁.exponent d₂.exponent with h | h | h
  · rw [compare_lt_iff_lt.2 h, compare_lt_iff_lt.2 (h₁.toRat_lt_of_exponent h₂ h)]
    rfl
  · -- the mantissas are counted in the same unit
    have hplace := two_zpow_pos d₂.exponent
    rw [h, compare_self, Dyadic.toRat, Dyadic.toRat, h]
    rcases lt_trichotomy d₁.mantissa d₂.mantissa with h | h | h
    · rw [compare_lt_iff_lt.2 (by exact_mod_cast h : (d₁.mantissa : ℤ) < d₂.mantissa),
        compare_lt_iff_lt.2 (mul_lt_mul_of_pos_right (by exact_mod_cast h) hplace)]
      rfl
    · rw [h, compare_self, compare_self]
      rfl
    · rw [compare_gt_iff_gt.2 (by exact_mod_cast h : (d₂.mantissa : ℤ) < d₁.mantissa),
        compare_gt_iff_gt.2 (mul_lt_mul_of_pos_right (by exact_mod_cast h) hplace)]
      rfl
  · rw [compare_gt_iff_gt.2 h, compare_gt_iff_gt.2 (h₂.toRat_lt_of_exponent h₁ h)]
    rfl

/-- The place of the number of a magnitude. -/
theorem place_ofMagnitude (hd : d.Canonical) (negative : Bool) :
    place (ofMagnitude negative d hd.pos) =
      if negative then ⟨-1, -d.exponent, -d.mantissa⟩ else ⟨1, d.exponent, d.mantissa⟩ := by
  rw [place, hd.unpack_ofMagnitude]
  cases negative <;> rfl

end Dyadic.Canonical

/-- The place of zero. -/
theorem place_withSign_zero (negative : Bool) : place (withSign negative 0) = ⟨0, 0, 0⟩ := by
  rw [place, unpack_withSign_zero]
  rfl

/-- **Places of finite numbers are compared as their values are.** -/
theorem compare_place (hx : Finite x) (hy : Finite y) :
    compare (place x) (place y) = compare (value x) (value y) := by
  cases hx.view with
  | zero a =>
    rw [place_withSign_zero, value_withSign_zero]
    cases hy.view with
    | zero b =>
      rw [place_withSign_zero, value_withSign_zero, compare_self, compare_self]
    | magnitude b h =>
      rw [h.place_ofMagnitude, h.value_ofMagnitude]
      cases b with
      | false => exact (compare_lt_iff_lt.2 h.toRat_pos).symm
      | true => exact (compare_gt_iff_gt.2 (neg_neg_of_pos h.toRat_pos)).symm
  | @magnitude a d h =>
    rw [h.place_ofMagnitude, h.value_ofMagnitude]
    cases hy.view with
    | zero b =>
      rw [place_withSign_zero, value_withSign_zero]
      cases a with
      | false => exact (compare_gt_iff_gt.2 h.toRat_pos).symm
      | true => exact (compare_lt_iff_lt.2 (neg_neg_of_pos h.toRat_pos)).symm
    | @magnitude b d' h' =>
      rw [h'.place_ofMagnitude, h'.value_ofMagnitude]
      have hpos := h.toRat_pos
      have hpos' := h'.toRat_pos
      cases a with
      | false =>
        cases b with
        | false => exact (h.compare_toRat h').symm
        | true => exact (compare_gt_iff_gt.2 ((neg_neg_of_pos hpos').trans hpos)).symm
      | true =>
        cases b with
        | false => exact (compare_lt_iff_lt.2 ((neg_neg_of_pos hpos).trans hpos')).symm
        | true =>
          -- below zero the order is turned around
          calc (compare (-d.exponent) (-d'.exponent)).then
                (compare (-(d.mantissa : ℤ)) (-d'.mantissa))
              = (compare d.toRat d'.toRat).swap := by
                rw [compare_neg_neg, compare_neg_neg, ← Ordering.swap_then, h.compare_toRat h']
            _ = compare (-d.toRat) (-d'.toRat) := (compare_neg_neg _ _).symm

/-- Two finite numbers are both defined. -/
theorem Finite.bothDefined (hx : Finite x) (hy : Finite y) : BothDefined x y := ⟨hx.isNaN, hy.isNaN⟩

/-- **A finite number is below another if its value is.** -/
theorem lt_iff_value (hx : Finite x) (hy : Finite y) : x < y ↔ value x < value y := by
  rw [lt_iff, and_iff_right (hx.bothDefined hy), compare_place hx hy, compare_lt_iff_lt]

/-- **Finite numbers are equal if their values are.** -/
theorem beq_iff_value (hx : Finite x) (hy : Finite y) : (x == y) = true ↔ value x = value y := by
  rw [beq_iff, and_iff_right (hx.bothDefined hy), ← Std.LawfulEqOrd.compare_eq_iff_eq,
    compare_place hx hy, compare_eq_iff_eq]

end SolutionAlgebra.Decimal
