import SolutionAlgebra.Proofs.Decimal.Binary64

/-! # Decimal numbers as floating-point numbers

A decimal number is read as the number in whose interval it lies. Small numbers are read by one
product or quotient with an exact power of ten, others by exact arithmetic and one rounding; both
come to the same.

* **`Dyadic.Canonical.nearest_eq`** — what lies in the interval of a magnitude is read as the number
  of the magnitude. -/

namespace SolutionAlgebra.Decimal

open Float.Model Float.Model.UnpackedFloat

namespace Dyadic.Canonical

variable {d : Dyadic} {x : ℚ}

/-- What lies in the interval of a magnitude is neither tiny nor huge. -/
theorem bounds_of_contains (hd : d.Canonical) (h : d.interval.Contains x) :
    2 ^ (-1075 : ℤ) ≤ x ∧ x < 2 ^ (1024 : ℤ) := by
  have hplace := two_zpow_pos d.exponent
  have hpos : (1 : ℚ) ≤ d.mantissa := by exact_mod_cast hd.pos
  have htwo : (1 : ℚ) ≤ 2 := by norm_num
  constructor
  · calc (2 : ℚ) ^ (-1075 : ℤ) ≤ 2 ^ (d.exponent - 1) :=
          zpow_le_zpow_right₀ htwo (by have := hd.least; omega)
      _ = 1 / 2 * 2 ^ d.exponent := by rw [zpow_sub₀ (by norm_num)]; ring
      _ ≤ (d.mantissa - 1 / 2) * 2 ^ d.exponent :=
          mul_le_mul_of_nonneg_right (by linarith) hplace.le
      _ ≤ x := (hd.near_of_contains h).1
  · calc x < 2 ^ (53 + d.exponent) := hd.lt_two_zpow_of_contains h
      _ ≤ 2 ^ (1024 : ℤ) := zpow_le_zpow_right₀ htwo (by have := hd.greatest; omega)

/-- What lies in the interval of a magnitude is positive. -/
theorem pos_of_contains (hd : d.Canonical) (h : d.interval.Contains x) : 0 < x :=
  (two_zpow_pos _).trans_le (hd.bounds_of_contains h).1

/-- An integer in units of a power of two is shifted to the exponent of its size and rounded. -/
theorem round_eq (hd : d.Canonical) (s : Sign) {m : ℕ} {e : ℤ}
    (h : d.interval.Contains (m * 2 ^ e)) :
    UnpackedFloat.round Format.binary64 s m e = .finite s d.mantissa d.exponent hd.pos := by
  have hm : 0 < m := by
    have := pos_of_mul_pos_left (hd.pos_of_contains h) (two_zpow_pos e).le
    exact_mod_cast this
  unfold UnpackedFloat.round decreaseExponent
  dsimp only
  generalize ht : Format.binary64.targetExponent (totalExponent m e) = t
  refine hd.roundWithAccuracy_eq h s ?_ ?_
  · -- the shift does not change the number
    have hshift : (m * 2 ^ e : ℚ) / 2 ^ (e - ((e - t).toNat : ℤ)) = (m <<< (e - t).toNat : ℕ) := by
      rw [div_eq_iff (two_zpow_pos _).ne', Nat.shiftLeft_eq, Nat.cast_mul, Nat.cast_pow,
        Nat.cast_ofNat, mul_assoc, ← zpow_natCast, ← zpow_add₀ (by norm_num), add_sub_cancel]
    rw [hshift]
    exact .exact _
  · have hlog : m.log2 + (e - t).toNat ≤ (m <<< (e - t).toNat).log2 := by
      rw [Nat.le_log2 (by rw [Nat.shiftLeft_eq]; positivity), Nat.shiftLeft_eq, pow_add]
      exact Nat.mul_le_mul_right _ (Nat.log2_self_le hm.ne')
    rw [targetExponent_eq, totalExponent] at ht ⊢
    omega

end Dyadic.Canonical

/-! ## Exact numbers -/

/-- The magnitude of a positive integer below the greatest mantissa. -/
def ofNatMagnitude (n : ℕ) : Dyadic := ⟨n * 2 ^ (52 - n.log2), (n.log2 : ℤ) - 52⟩

variable {n : ℕ}

/-- The magnitude of an integer is canonical. -/
theorem canonical_ofNatMagnitude (hn : 0 < n) (hlt : n < 2 ^ 53) :
    (ofNatMagnitude n).Canonical := by
  have hlog : n.log2 < 53 := (Nat.log2_lt hn.ne').2 hlt
  have hfull : 2 ^ 52 ≤ n * 2 ^ (52 - n.log2) := by
    calc 2 ^ 52 = 2 ^ n.log2 * 2 ^ (52 - n.log2) := by rw [← pow_add]; congr 1; omega
      _ ≤ n * 2 ^ (52 - n.log2) := Nat.mul_le_mul_right _ (Nat.log2_self_le hn.ne')
  refine ⟨by show 0 < n * _; positivity, ?_, ?_, ?_, .inl hfull⟩
  · calc n * 2 ^ (52 - n.log2) < 2 ^ (n.log2 + 1) * 2 ^ (52 - n.log2) :=
          Nat.mul_lt_mul_of_pos_right Nat.lt_log2_self (by positivity)
      _ = 2 ^ 53 := by rw [← pow_add]; congr 1; omega
  · show (-1074 : ℤ) ≤ n.log2 - 52
    omega
  · show (n.log2 : ℤ) - 52 ≤ 971
    omega

/-- The magnitude of an integer is the integer. -/
theorem toRat_ofNatMagnitude (hlt : n < 2 ^ 53) (hn : 0 < n) : (ofNatMagnitude n).toRat = n := by
  have hlog : n.log2 < 53 := (Nat.log2_lt hn.ne').2 hlt
  show ((n * 2 ^ (52 - n.log2) : ℕ) : ℚ) * 2 ^ ((n.log2 : ℤ) - 52) = n
  push_cast
  rw [mul_assoc, ← zpow_natCast, ← zpow_add₀ (by norm_num), show
    ((52 - n.log2 : ℕ) : ℤ) + ((n.log2 : ℤ) - 52) = 0 by omega, zpow_zero, mul_one]

/-- An integer below the greatest mantissa is a floating-point number. -/
theorem toFloat_eq (hn : 0 < n) (hlt : n < 2 ^ 53) :
    n.toUInt64.toFloat =
      ofMagnitude false (ofNatMagnitude n) (canonical_ofNatMagnitude hn hlt).pos := by
  have hd := canonical_ofNatMagnitude hn hlt
  have htoNat : n.toUInt64.toNat = n := by
    show n % 2 ^ 64 = n
    omega
  have hround : UnpackedFloat.ofNat Format.binary64 n =
      .finite .positive (ofNatMagnitude n).mantissa (ofNatMagnitude n).exponent hd.pos := by
    have hpositive : compare (n : ℤ) 0 = .gt := Int.compare_eq_gt.2 (by omega)
    unfold UnpackedFloat.ofNat UnpackedFloat.ofInt UnpackedFloat.normalize
    rw [hpositive]
    dsimp only
    refine hd.round_eq .positive ?_
    rw [Int.toNat_natCast, zpow_zero, mul_one, ← toRat_ofNatMagnitude hlt hn]
    exact hd.contains_toRat
  show Float.ofModel (.pack (UnpackedFloat.ofNat Format.binary64 n.toUInt64.toNat)) = _
  rw [htoNat, hround]
  rfl

/-- The table of powers of ten holds finite positive numbers, whose magnitudes are these powers. -/
theorem powersOfTen : ∀ k : Fin Float.exactlyRepresentablePowersOfTen.size,
    let x := Float.exactlyRepresentablePowersOfTen[k]
    x.isNaN = false ∧ x.isInf = false ∧ isNegative x = false ∧ 0 < (magnitude x).mantissa ∧
      (magnitude x).mantissa * 2 ^ (magnitude x).exponent.toNat =
        10 ^ k.val * 2 ^ (-(magnitude x).exponent).toNat := by
  decide +kernel

/-- The first powers of ten are floating-point numbers. -/
theorem exists_powerOfTen {k : ℕ} (h : k < Float.exactlyRepresentablePowersOfTen.size) :
    ∃ d : Dyadic, ∃ hd : d.Canonical, d.toRat = 10 ^ k ∧
      Float.exactlyRepresentablePowersOfTen[k] = ofMagnitude false d hd.pos := by
  obtain ⟨hundefined, hinfinite, hpositive, hpos, hpower⟩ := powersOfTen ⟨k, h⟩
  dsimp only [Fin.getElem_fin] at hundefined hinfinite hpositive hpos hpower
  generalize Float.exactlyRepresentablePowersOfTen[k] = x at *
  have hfinite : Finite x := ⟨hundefined, hinfinite⟩
  refine ⟨magnitude x, hfinite.canonical hpos.ne', ?_, ?_⟩
  · -- the table is compared without fractions: one of the powers of two is one
    have hpower : ((magnitude x).mantissa : ℚ) * 2 ^ (magnitude x).exponent.toNat =
        10 ^ k * 2 ^ (-(magnitude x).exponent).toNat := by exact_mod_cast hpower
    rw [Dyadic.toRat]
    obtain hexponent | hexponent := le_total 0 (magnitude x).exponent
    · rw [show (-(magnitude x).exponent).toNat = 0 by omega, pow_zero, mul_one, ← zpow_natCast,
        Int.toNat_of_nonneg hexponent] at hpower
      exact hpower
    · rw [show (magnitude x).exponent.toNat = 0 by omega, pow_zero, mul_one] at hpower
      rw [hpower, mul_assoc, ← zpow_natCast 2, ← zpow_add₀ (by norm_num),
        Int.toNat_of_nonneg (by omega), neg_add_cancel, zpow_zero, mul_one]
  · rw [← hpositive]
    exact (ofMagnitude_magnitude hfinite hpos).symm

/-! ## Products and quotients -/

namespace Dyadic.Canonical

variable {d d₁ d₂ : Dyadic} {x : ℚ}

/-- The exponents of two magnitudes add up to one that is not above that of the product's size. -/
theorem exponent_add_le (hd₁ : d₁.Canonical) (hd₂ : d₂.Canonical) :
    d₁.exponent + d₂.exponent ≤ Format.binary64.targetExponent
      (totalExponent (d₁.mantissa * d₂.mantissa) (d₁.exponent + d₂.exponent)) := by
  -- a mantissa that takes up all bits is enough, and two least exponents are low enough
  by_cases hbits : 2 ^ 52 ≤ d₁.mantissa * d₂.mantissa
  · exact exponent_le_of_bits hbits
  · have h₁ : ¬ 2 ^ 52 ≤ d₁.mantissa := fun h =>
      hbits (h.trans (Nat.le_mul_of_pos_right _ hd₂.pos))
    have h₂ : ¬ 2 ^ 52 ≤ d₂.mantissa := fun h =>
      hbits (h.trans (Nat.le_mul_of_pos_left _ hd₁.pos))
    rw [targetExponent_eq, hd₁.full.resolve_left h₁, hd₂.full.resolve_left h₂]
    omega

/-- A product of numbers. -/
theorem ofMagnitude_mul (hd : d.Canonical) (hd₁ : d₁.Canonical) (hd₂ : d₂.Canonical)
    (a b : Bool) (h : d.interval.Contains (d₁.toRat * d₂.toRat)) :
    ofMagnitude a d₁ hd₁.pos * ofMagnitude b d₂ hd₂.pos = ofMagnitude (a != b) d hd.pos := by
  have hsign : signOf a * signOf b = signOf (a != b) := by cases a <;> cases b <;> rfl
  show Float.ofModel (.pack (mul Format.binary64 (ofMagnitude a d₁ hd₁.pos).toModel.unpack
    (ofMagnitude b d₂ hd₂.pos).toModel.unpack)) = _
  rw [hd₁.unpack_ofMagnitude, hd₂.unpack_ofMagnitude,
    hd.mul_eq _ _ hd₁.pos hd₂.pos h (hd₁.exponent_add_le hd₂), hsign]
  rfl

/-- A quotient of numbers. -/
theorem ofMagnitude_div (hd : d.Canonical) (hd₁ : d₁.Canonical) (hd₂ : d₂.Canonical)
    (h : d.interval.Contains (d₁.toRat / d₂.toRat)) :
    ofMagnitude false d₁ hd₁.pos / ofMagnitude false d₂ hd₂.pos = ofMagnitude false d hd.pos := by
  show Float.ofModel (.pack (div Format.binary64 (ofMagnitude false d₁ hd₁.pos).toModel.unpack
    (ofMagnitude false d₂ hd₂.pos).toModel.unpack)) = _
  rw [hd₁.unpack_ofMagnitude, hd₂.unpack_ofMagnitude, hd.div_eq _ _ hd₁.pos hd₂.pos h]
  rfl

/-! ## Decimal numbers -/

/-- A decimal number with few digits and a small exponent is one product or quotient. -/
theorem ofScientific_of_small (hd : d.Canonical) {digits : ℕ} {exponent : ℤ}
    (h : d.interval.Contains (digits * 10 ^ exponent)) (hpos : 0 < digits)
    (hsmall : digits < 2 ^ 53 ∧ exponent.natAbs ≤ 22) :
    Float.ofScientific digits (exponent < 0) exponent.natAbs = ofMagnitude false d hd.pos := by
  have hd₁ := canonical_ofNatMagnitude hpos hsmall.1
  obtain ⟨d₂, hd₂, hpower, htable⟩ :=
    exists_powerOfTen (k := exponent.natAbs) (by show _ < 23; omega)
  have hdigits := toRat_ofNatMagnitude hsmall.1 hpos
  unfold Float.ofScientific
  rw [dif_pos hsmall]
  dsimp only
  rw [toFloat_eq hpos hsmall.1, htable]
  by_cases hnegative : exponent < 0
  · rw [if_pos (by simpa using hnegative)]
    refine hd.ofMagnitude_div hd₁ hd₂ ?_
    rw [hdigits, hpower, div_eq_mul_inv, ← zpow_natCast, ← zpow_neg]
    rwa [show -(exponent.natAbs : ℤ) = exponent by omega]
  · rw [if_neg (by simpa using hnegative)]
    refine hd.ofMagnitude_mul hd₁ hd₂ false false ?_
    rw [hdigits, hpower, ← zpow_natCast]
    rwa [show (exponent.natAbs : ℤ) = exponent by omega]

/-- The exponent of a decimal number in the interval of a magnitude is not too large. -/
theorem exponent_le_of_contains (hd : d.Canonical) {digits : ℕ} {exponent : ℤ}
    (h : d.interval.Contains (digits * 10 ^ exponent)) (hpos : 0 < digits) :
    ¬ exponent > 2 ^ 11 := by
  intro hexponent
  have hone : (1 : ℚ) ≤ digits := by exact_mod_cast hpos
  have : (2 : ℚ) ^ exponent < 2 ^ (1024 : ℤ) := by
    calc (2 : ℚ) ^ exponent ≤ 10 ^ exponent :=
          zpow_le_zpow_left₀ (by omega) (by norm_num) (by norm_num)
      _ ≤ digits * 10 ^ exponent := le_mul_of_one_le_left (by positivity) hone
      _ < 2 ^ (1024 : ℤ) := (hd.bounds_of_contains h).2
  have := (zpow_lt_zpow_iff_right₀ (by norm_num)).1 this
  omega

/-- The exponent of a decimal number in the interval of a magnitude is not too small for its
digits. -/
theorem le_exponent_of_contains (hd : d.Canonical) {digits : ℕ} {exponent : ℤ}
    (h : d.interval.Contains (digits * 10 ^ exponent)) :
    ¬ exponent < -((2 ^ 11 : ℤ) + digits.log2) := by
  intro hexponent
  have hpower : (10 : ℚ) ^ exponent ≤ 2 ^ exponent := by
    rw [← neg_neg exponent, zpow_neg, zpow_neg _ (-exponent)]
    exact inv_anti₀ (zpow_pos (by norm_num) _)
      (zpow_le_zpow_left₀ (by omega) (by norm_num) (by norm_num))
  have hdigits : (digits : ℚ) < 2 ^ (digits.log2 + 1) := by exact_mod_cast Nat.lt_log2_self
  have : (2 : ℚ) ^ (-1075 : ℤ) < 2 ^ ((digits.log2 + 1 : ℕ) + exponent) := by
    calc (2 : ℚ) ^ (-1075 : ℤ) ≤ digits * 10 ^ exponent := (hd.bounds_of_contains h).1
      _ < 2 ^ (digits.log2 + 1) * 10 ^ exponent := mul_lt_mul_of_pos_right hdigits (by positivity)
      _ ≤ 2 ^ (digits.log2 + 1) * 2 ^ exponent :=
          mul_le_mul_of_nonneg_left hpower (by positivity)
      _ = 2 ^ ((digits.log2 + 1 : ℕ) + exponent) := by
          rw [zpow_add₀ (by norm_num), zpow_natCast]
  have := (zpow_lt_zpow_iff_right₀ (by norm_num)).1 this
  omega

/-- Any other decimal number is computed exactly and rounded. -/
theorem ofScientific_eq (hd : d.Canonical) {digits : ℕ} {exponent : ℤ}
    (h : d.interval.Contains (digits * 10 ^ exponent)) (hpos : 0 < digits) :
    UnpackedFloat.ofScientific Format.binary64 digits exponent =
      .finite .positive d.mantissa d.exponent hd.pos := by
  unfold UnpackedFloat.ofScientific
  rw [dif_neg hpos.ne', if_neg (hd.exponent_le_of_contains h hpos),
    if_neg (hd.le_exponent_of_contains h)]
  by_cases hexponent : 0 ≤ exponent
  · -- the digits are shifted so that the product has all the bits that rounding needs
    rw [if_pos hexponent]
    refine hd.mul_eq .positive .positive _ _ ?_ (exponent_le_of_bits ?_)
    · rw [Nat.shiftLeft_eq]
      show d.interval.Contains
        (((digits * 2 ^ 53 : ℕ) : ℚ) * 2 ^ (-53 : ℤ) * ((10 ^ exponent.toNat : ℕ) * 2 ^ (0 : ℤ)))
      have hvalue : ((digits * 2 ^ 53 : ℕ) : ℚ) * 2 ^ (-53 : ℤ) *
          ((10 ^ exponent.toNat : ℕ) * 2 ^ (0 : ℤ)) = digits * 10 ^ exponent := by
        conv_rhs => rw [← Int.toNat_of_nonneg hexponent, zpow_natCast]
        push_cast
        rw [zpow_neg]
        norm_num
        ring
      rwa [hvalue]
    · rw [Nat.shiftLeft_eq]
      calc 2 ^ 52 ≤ 1 * 2 ^ 53 * 1 := by norm_num
        _ ≤ digits * 2 ^ 53 * 10 ^ exponent.toNat :=
            Nat.mul_le_mul (Nat.mul_le_mul_right _ hpos) (Nat.one_le_pow _ _ (by decide))
  · rw [if_neg hexponent]
    refine hd.div_eq .positive .positive _ _ ?_
    have hvalue : (digits : ℚ) * 2 ^ (0 : ℤ) / ((10 ^ (-exponent).toNat : ℕ) * 2 ^ (0 : ℤ)) =
        digits * 10 ^ exponent := by
      push_cast
      rw [mul_one, mul_one, div_eq_mul_inv, ← zpow_natCast, ← zpow_neg,
        Int.toNat_of_nonneg (by omega), neg_neg]
    rwa [hvalue]

/-- **What lies in the interval of a magnitude is read as the number of the magnitude.** -/
theorem nearest_eq (hd : d.Canonical) {digits : ℕ} {exponent : ℤ}
    (h : d.interval.Contains (digits * 10 ^ exponent)) :
    nearest digits exponent = ofMagnitude false d hd.pos := by
  have hpos : 0 < digits := by
    obtain rfl | hpos := Nat.eq_zero_or_pos digits
    · have := (hd.bounds_of_contains h).1
      rw [Nat.cast_zero, zero_mul] at this
      exact absurd this (not_le.2 (two_zpow_pos _))
    · exact hpos
  unfold nearest
  by_cases hsmall : digits < 2 ^ 53 ∧ exponent.natAbs ≤ 22
  · exact hd.ofScientific_of_small h hpos hsmall
  · -- sign and size make up the exponent again
    have hsigned : (if decide (exponent < 0) then Int.negOfNat exponent.natAbs
        else Int.ofNat exponent.natAbs) = exponent := by
      split
      · next hnegative =>
        rw [Int.negOfNat_eq]
        have := of_decide_eq_true hnegative
        show -(exponent.natAbs : ℤ) = exponent
        omega
      · next hnegative =>
        have := of_decide_eq_false (Bool.eq_false_of_not_eq_true hnegative)
        show (exponent.natAbs : ℤ) = exponent
        omega
    unfold Float.ofScientific
    rw [dif_neg hsmall]
    dsimp only
    rw [hsigned]
    show Float.ofModel (.pack (UnpackedFloat.ofScientific Format.binary64 digits exponent)) = _
    rw [hd.ofScientific_eq h hpos]
    rfl

end Dyadic.Canonical

end SolutionAlgebra.Decimal
