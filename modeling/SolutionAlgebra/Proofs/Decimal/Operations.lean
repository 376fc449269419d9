import SolutionAlgebra.Proofs.Decimal.Nearest
import SolutionAlgebra.Proofs.Decimal.Value

/-! # Sums, differences and products of numbers

An operation on finite numbers is an operation on the rational numbers that they stand for, and one
rounding. Mantissas are shifted to a common exponent before they are added, and the exact result is
shifted so far that rounding has all the bits that it needs.

* **`RoundsTo`** — what a rational number is rounded to.
* **`roundsTo_add`**, **`roundsTo_sub`**, **`roundsTo_mul`** — operations on finite numbers are
  rounded, unless the result is beyond all finite numbers. -/

namespace SolutionAlgebra.Decimal

open Float.Model Float.Model.UnpackedFloat

/-! ## Rounded numbers -/

/-- That a finite number is what a rational number is rounded to. -/
inductive RoundsTo (q : ℚ) : Float → Prop where
  /-- Zero is rounded to zero, with either sign. -/
  | zero (negative : Bool) (hq : q = 0) : RoundsTo q (withSign negative 0)
  /-- Other numbers are rounded to that in whose interval they lie. -/
  | magnitude (negative : Bool) {d : Dyadic} (hd : d.Canonical) {r : ℚ}
      (hr : d.interval.Contains r) (hq : q = signed negative r) :
      RoundsTo q (ofMagnitude negative d hd.pos)

namespace RoundsTo

variable {q : ℚ} {x y z : Float}

/-- What is rounded to is finite. -/
theorem view (h : RoundsTo q x) : Finite.View x := by
  cases h with
  | zero negative => exact .zero negative
  | magnitude negative hd => exact .magnitude negative hd

/-- What a rational number rounds to is finite. -/
theorem finite (h : RoundsTo q x) : Finite x := h.view.finite

/-- A finite number is rounded to itself. -/
theorem self (hx : Finite x) : RoundsTo (value x) x := by
  cases hx.view with
  | zero negative => exact .zero negative (value_withSign_zero negative)
  | magnitude negative hd =>
    exact .magnitude negative hd hd.contains_toRat (hd.value_ofMagnitude negative)

end RoundsTo

/-! ## Rounding -/

variable {x y z : Float}

/-- Positive numbers with signs before them differ if the signs or the numbers do. -/
theorem signed_inj {a b : Bool} {p q : ℚ} (hp : 0 < p) (hq : 0 < q) :
    signed a p = signed b q ↔ a = b ∧ p = q := by
  constructor
  · intro h
    cases a <;> cases b <;> simp only [signed_false, signed_true] at h
    · exact ⟨rfl, h⟩
    · linarith
    · linarith
    · exact ⟨rfl, neg_inj.1 h⟩
  · rintro ⟨rfl, rfl⟩
    rfl

/-- A number with a sign before it is zero if the number is. -/
theorem signed_eq_zero_iff {negative : Bool} {q : ℚ} : signed negative q = 0 ↔ q = 0 := by
  cases negative with
  | false => exact Iff.rfl
  | true => exact neg_eq_zero

namespace RoundsTo

variable {q : ℚ}

/-- What zero is rounded to. -/
theorem eq_zero (h : RoundsTo 0 x) : ∃ negative, x = withSign negative 0 := by
  cases h with
  | zero negative _ => exact ⟨negative, rfl⟩
  | magnitude negative hd hr hq =>
    exact absurd (signed_eq_zero_iff.1 hq.symm) (hd.pos_of_contains hr).ne'

/-- What a positive number with a sign before it is rounded to. -/
theorem eq_magnitude {negative : Bool} {r : ℚ} (h : RoundsTo (signed negative r) x) (hr : 0 < r) :
    ∃ d : Dyadic, ∃ hd : d.Canonical, d.interval.Contains r ∧
      x = ofMagnitude negative d hd.pos := by
  generalize hq : signed negative r = q at h
  cases h with
  | zero _ hzero => exact absurd (signed_eq_zero_iff.1 (hq.trans hzero)) hr.ne'
  | @magnitude negative' d hd r' hr' hq' =>
    obtain ⟨rfl, rfl⟩ := (signed_inj hr (hd.pos_of_contains hr')).1 (hq.trans hq')
    exact ⟨d, hd, hr', rfl⟩

end RoundsTo

/-- A number lies in the interval of one magnitude only. -/
theorem Dyadic.Canonical.eq_of_contains {d d' : Dyadic} {r : ℚ} (hd : d.Canonical)
    (hd' : d'.Canonical) (h : d.interval.Contains r) (h' : d'.interval.Contains r) : d = d' := by
  -- both are what the quotient of numerator and denominator is rounded to
  have hpos := Rat.num_pos.2 (hd.pos_of_contains h)
  obtain ⟨n, hn⟩ := Int.eq_ofNat_of_zero_le hpos.le
  have hn' : 0 < n := by omega
  have hquotient : (n : ℚ) * 2 ^ (0 : ℤ) / (r.den * 2 ^ (0 : ℤ)) = r := by
    rw [zpow_zero, mul_one, mul_one, ← Int.cast_natCast, ← hn, Rat.num_div_den]
  have hdiv := hd.div_eq .positive .positive hn' r.den_pos (hquotient.symm ▸ h)
  rw [hd'.div_eq .positive .positive hn' r.den_pos (hquotient.symm ▸ h')] at hdiv
  injection hdiv with _ hmantissa hexponent
  cases d
  cases d'
  rw [Dyadic.mk.injEq]
  exact ⟨hmantissa.symm, hexponent.symm⟩

/-- Every number is zero, or a positive number with a sign before it. -/
theorem eq_zero_or_signed (q : ℚ) : q = 0 ∨ ∃ negative r, 0 < r ∧ q = signed negative r := by
  rcases lt_trichotomy q 0 with h | h | h
  · exact .inr ⟨true, -q, neg_pos_of_neg h, (neg_neg q).symm⟩
  · exact .inl h
  · exact .inr ⟨false, q, h, rfl⟩

/-- **What a number is rounded to has one value.** -/
theorem RoundsTo.value_unique {q : ℚ} (hx : RoundsTo q x) (hy : RoundsTo q y) :
    value x = value y := by
  rcases eq_zero_or_signed q with rfl | ⟨negative, r, hr, rfl⟩
  · obtain ⟨a, rfl⟩ := hx.eq_zero
    obtain ⟨b, rfl⟩ := hy.eq_zero
    rw [value_withSign_zero, value_withSign_zero]
  · obtain ⟨d, hd, hcontains, rfl⟩ := hx.eq_magnitude hr
    obtain ⟨d', hd', hcontains', rfl⟩ := hy.eq_magnitude hr
    obtain rfl := hd.eq_of_contains hd' hcontains hcontains'
    rfl

/-- A positive integer in units of a power of two, and a sign before it. -/
theorem roundsTo_round {negative : Bool} {m : ℕ} {e : ℤ} (hm : 0 < m)
    (h : RoundsTo (signed negative (m * 2 ^ e)) z) :
    RoundsTo (signed negative (m * 2 ^ e))
      (.ofModel (.pack (UnpackedFloat.round Format.binary64 (signOf negative) m e))) := by
  have hpos : (0 : ℚ) < m * 2 ^ e := mul_pos (by exact_mod_cast hm) (two_zpow_pos e)
  obtain ⟨d, hd, hcontains, -⟩ := h.eq_magnitude hpos
  rw [hd.round_eq _ hcontains]
  exact .magnitude negative hd hcontains rfl

/-- **An integer in units of a power of two is normalized to what it is rounded to.** -/
theorem roundsTo_normalize {m e : ℤ} (h : RoundsTo (m * 2 ^ e) z) :
    RoundsTo (m * 2 ^ e)
      (.ofModel (.pack (UnpackedFloat.normalize Format.binary64 m e .positive))) := by
  unfold UnpackedFloat.normalize
  -- the sign of the sum decides that of the result
  rcases lt_trichotomy m 0 with hm | rfl | hm
  · obtain ⟨n, rfl⟩ : ∃ n : ℕ, m = -n := ⟨m.natAbs, by omega⟩
    have hsigned : ((-(n : ℤ) : ℤ) : ℚ) * 2 ^ e = signed true (n * 2 ^ e) := by
      rw [signed_true, Int.cast_neg, Int.cast_natCast, neg_mul]
    rw [hsigned] at h ⊢
    rw [Int.compare_eq_lt.2 hm]
    dsimp only
    rw [neg_neg, Int.toNat_natCast]
    exact roundsTo_round (by omega) h
  · exact .zero false (by rw [Int.cast_zero, zero_mul])
  · obtain ⟨n, rfl⟩ : ∃ n : ℕ, m = n := ⟨m.natAbs, by omega⟩
    have hsigned : ((n : ℤ) : ℚ) * 2 ^ e = signed false (n * 2 ^ e) := by
      rw [signed_false, Int.cast_natCast]
    rw [hsigned] at h ⊢
    rw [Int.compare_eq_gt.2 hm]
    dsimp only
    rw [Int.toNat_natCast]
    exact roundsTo_round (by omega) h

/-! ## Sums -/

/-- Aligned mantissas: a mantissa with a sign is shifted to a smaller exponent. -/
theorem apply_decreaseExponent (negative : Bool) {m : ℕ} {e t : ℤ} (ht : t ≤ e) :
    ((signOf negative).apply (decreaseExponent m e t).1 : ℚ) * 2 ^ t =
      signed negative (m * 2 ^ e) := by
  have hshift : (((decreaseExponent m e t).1 : ℕ) : ℚ) * 2 ^ t = m * 2 ^ e := by
    show ((m <<< (e - t).toNat : ℕ) : ℚ) * 2 ^ t = m * 2 ^ e
    rw [Nat.shiftLeft_eq, Nat.cast_mul, Nat.cast_pow, Nat.cast_ofNat, mul_assoc, ← zpow_natCast,
      ← zpow_add₀ (by norm_num), Int.toNat_of_nonneg (by omega), sub_add_cancel]
  cases negative with
  | false => exact hshift
  | true =>
    show ((-((decreaseExponent m e t).1 : ℤ) : ℤ) : ℚ) * 2 ^ t = -(m * 2 ^ e)
    rw [Int.cast_neg, Int.cast_natCast, neg_mul, hshift]

/-- **A sum of finite numbers is rounded.** -/
theorem roundsTo_add (hx : Finite x) (hy : Finite y) (h : RoundsTo (value x + value y) z) :
    RoundsTo (value x + value y) (x + y) := by
  have hadd : ∀ x y : Float, x + y =
      .ofModel (.pack (UnpackedFloat.add Format.binary64 x.toModel.unpack y.toModel.unpack)) :=
    fun _ _ => rfl
  rw [hadd]
  cases hx.view with
  | zero a =>
    cases hy.view with
    | zero b =>
      have hzero : (.ofModel (.pack (UnpackedFloat.add Format.binary64 (.zero (signOf a))
          (.zero (signOf b)))) : Float) = withSign (a && b) 0 := by
        cases a <;> cases b <;> rfl
      rw [unpack_withSign_zero, unpack_withSign_zero, hzero]
      exact .zero _ (by simp)
    | magnitude b hd =>
      rw [unpack_withSign_zero, hd.unpack_ofMagnitude, value_withSign_zero, zero_add,
        hd.value_ofMagnitude]
      exact .magnitude b hd hd.contains_toRat rfl
  | @magnitude a d hd =>
    cases hy.view with
    | zero b =>
      rw [unpack_withSign_zero, hd.unpack_ofMagnitude, value_withSign_zero, add_zero,
        hd.value_ofMagnitude]
      exact .magnitude a hd hd.contains_toRat rfl
    | @magnitude b d' hd' =>
      -- both are brought to the smaller exponent, where nothing is lost
      have hsum : value (ofMagnitude a d hd.pos) + value (ofMagnitude b d' hd'.pos) =
          ((signOf a).apply
              (decreaseExponent d.mantissa d.exponent (min d.exponent d'.exponent)).1 +
            (signOf b).apply
              (decreaseExponent d'.mantissa d'.exponent (min d.exponent d'.exponent)).1 : ℤ) *
            2 ^ min d.exponent d'.exponent := by
        rw [Int.cast_add, add_mul, apply_decreaseExponent a (min_le_left _ _),
          apply_decreaseExponent b (min_le_right _ _), hd.value_ofMagnitude, hd'.value_ofMagnitude]
        rfl
      rw [hd.unpack_ofMagnitude, hd'.unpack_ofMagnitude]
      rw [hsum] at h ⊢
      exact roundsTo_normalize h

/-! ## Differences -/

/-- The negative of zero. -/
theorem neg_withSign_zero (negative : Bool) : -withSign negative 0 = withSign (!negative) 0 := by
  cases negative <;> decide +kernel

/-- The negative of a finite number is finite. -/
theorem Finite.neg (hx : Finite x) : Finite (-x) := by
  cases hx.view with
  | zero negative =>
    rw [neg_withSign_zero]
    exact Finite.View.finite (.zero _)
  | magnitude negative hd =>
    rw [hd.neg_ofMagnitude]
    exact Finite.View.finite (.magnitude _ hd)

/-- The negative of a finite number stands for the negative. -/
theorem value_neg (hx : Finite x) : value (-x) = -value x := by
  cases hx.view with
  | zero negative => rw [neg_withSign_zero, value_withSign_zero, value_withSign_zero, neg_zero]
  | magnitude negative hd =>
    rw [hd.neg_ofMagnitude, hd.value_ofMagnitude, hd.value_ofMagnitude]
    cases negative <;> simp

/-- The operations take the negative of a finite number apart into the other sign and the same
magnitude. -/
theorem unpack_neg (hx : Finite x) : (-x).toModel.unpack = x.toModel.unpack.neg := by
  cases hx.view with
  | zero negative =>
    rw [neg_withSign_zero, unpack_withSign_zero, unpack_withSign_zero]
    cases negative <;> rfl
  | magnitude negative hd =>
    rw [hd.neg_ofMagnitude, hd.unpack_ofMagnitude, hd.unpack_ofMagnitude]
    cases negative <;> rfl

/-- A difference is the sum with the negative. -/
theorem sub_eq_add (u v : UnpackedFloat) :
    UnpackedFloat.sub Format.binary64 u v = UnpackedFloat.add Format.binary64 u v.neg := by
  have happly : ∀ (s : Sign) (n : ℤ), (-s).apply n = -s.apply n := by
    intro s n
    cases s with
    | negative => exact (neg_neg n).symm
    | positive => rfl
  cases u with
  | notANumber => rfl
  | infinity s => cases v <;> rfl
  | zero s => cases v <;> rfl
  | finite s m e h =>
    cases v with
    | finite t n f h' =>
      show UnpackedFloat.normalize _ (s.apply _ - t.apply _) _ _ =
        UnpackedFloat.normalize _ (s.apply _ + (-t).apply _) _ _
      rw [happly, Int.sub_eq_add_neg]
    | _ => rfl

/-- **A difference of finite numbers is rounded.** -/
theorem roundsTo_sub (hx : Finite x) (hy : Finite y) (h : RoundsTo (value x - value y) z) :
    RoundsTo (value x - value y) (x - y) := by
  have hsub : x - y = x + -y := by
    show Float.ofModel (.pack (UnpackedFloat.sub _ x.toModel.unpack y.toModel.unpack)) =
      Float.ofModel (.pack (UnpackedFloat.add _ x.toModel.unpack (-y).toModel.unpack))
    rw [unpack_neg hy]
    exact congrArg (fun u => Float.ofModel (.pack u)) (sub_eq_add _ _)
  rw [sub_eq_add_neg, ← value_neg hy] at h ⊢
  rw [hsub]
  exact roundsTo_add hx hy.neg h

/-! ## Products -/

/-- Signs before the factors make up the sign before the product. -/
theorem signed_mul_signed (a b : Bool) (p q : ℚ) :
    signed a p * signed b q = signed (a != b) (p * q) := by
  cases a <;> cases b <;> simp

/-- A product is zero if the operations say so. -/
theorem roundsTo_mul_zero {a b : Bool}
    (h : UnpackedFloat.mul Format.binary64 x.toModel.unpack y.toModel.unpack =
      .zero (signOf a * signOf b)) : RoundsTo 0 (x * y) := by
  have hzero : x * y = withSign (a != b) 0 := by
    show Float.ofModel (.pack (UnpackedFloat.mul _ x.toModel.unpack y.toModel.unpack)) = _
    rw [h]
    cases a <;> cases b <;> rfl
  rw [hzero]
  exact .zero _ rfl

/-- **A product of finite numbers is rounded.** -/
theorem roundsTo_mul (hx : Finite x) (hy : Finite y) (h : RoundsTo (value x * value y) z) :
    RoundsTo (value x * value y) (x * y) := by
  cases hx.view with
  | zero a =>
    rw [value_withSign_zero, zero_mul]
    cases hy.view with
    | zero b =>
      refine @roundsTo_mul_zero _ _ a b ?_
      rw [unpack_withSign_zero, unpack_withSign_zero]
      rfl
    | magnitude b hd =>
      refine @roundsTo_mul_zero _ _ a b ?_
      rw [unpack_withSign_zero, hd.unpack_ofMagnitude]
      rfl
  | @magnitude a d hd =>
    cases hy.view with
    | zero b =>
      rw [value_withSign_zero, mul_zero]
      refine @roundsTo_mul_zero _ _ a b ?_
      rw [unpack_withSign_zero, hd.unpack_ofMagnitude]
      rfl
    | @magnitude b d' hd' =>
      -- only here a product is rounded
      rw [hd.value_ofMagnitude, hd'.value_ofMagnitude, signed_mul_signed] at h ⊢
      obtain ⟨d'', hd'', hcontains, -⟩ := h.eq_magnitude (mul_pos hd.toRat_pos hd'.toRat_pos)
      rw [hd''.ofMagnitude_mul hd hd' a b hcontains]
      exact .magnitude _ hd'' hcontains rfl

end SolutionAlgebra.Decimal
