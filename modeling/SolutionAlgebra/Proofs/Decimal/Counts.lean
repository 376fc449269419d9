import SolutionAlgebra.Proofs.Decimal.Integers

/-! # Positive integers are not zero

However large a positive integer is, the number nearest to it is not zero. One of up to 200 binary
digits is rounded to a magnitude. A longer one is cut off to the first 53 of its digits, the first
of which is set; it is a number with this mantissa, or it is infinite.

* **`Full`** — that a mantissa takes up all bits.
* **`roundWithAccuracy_full`** — rounding makes such a mantissa of a long one.
* **`ofInt_ne_zero`** — the number of a positive integer is not zero. -/

namespace SolutionAlgebra.Decimal

open Float.Model Float.Model.UnpackedFloat

/-! ## Rounding of long mantissas -/

/-- Shifting by several places drops as many binary digits of the mantissa. -/
theorem mantissa_shiftRight (em : ExtendedMantissa) (k : ℕ) :
    (em >>> k).mantissa = em.mantissa / 2 ^ k := by
  show (k.repeat ExtendedMantissa.shiftRightOne em).mantissa = _
  induction k with
  | zero => rw [Nat.repeat, pow_zero, Nat.div_one]
  | succ k ih =>
      rw [Nat.repeat, pow_succ, ← Nat.div_div_eq_div_mul, ← ih]
      rfl

/-- A mantissa is rounded to itself or the next one. -/
theorem roundedMantissa_bounds (em : ExtendedMantissa) :
    em.mantissa ≤ em.roundedMantissa ∧ em.roundedMantissa ≤ em.mantissa + 1 := by
  obtain ⟨m, roundBit, stickyBit⟩ := em
  cases roundBit with
  | false => cases stickyBit <;> exact ⟨Nat.le_refl m, Nat.le_succ m⟩
  | true =>
      cases stickyBit with
      | false =>
          show m ≤ m + m % 2 ∧ m + m % 2 ≤ m + 1
          omega
      | true => exact ⟨Nat.le_succ m, Nat.le_refl (m + 1)⟩

variable {m q : ℕ} {e t : ℤ}

/-- That a mantissa takes up all bits, and that the exponent is not below the least one. -/
structure Full (q : ℕ) (t : ℤ) : Prop where
  /-- The first bit is set. -/
  low : 2 ^ 52 ≤ q
  /-- The mantissa fits into its bits. -/
  high : q < 2 ^ 53
  /-- No exponent is below the least one. -/
  least : -1074 ≤ t

/-- A mantissa that takes up all bits is not zero. -/
theorem Full.pos (h : Full q t) : 0 < q := (Nat.two_pow_pos 52).trans_le h.low

/-- The first 53 binary digits of a number. -/
theorem firstDigits_bounds (hm : 2 ^ 52 ≤ m) :
    2 ^ 52 ≤ m / 2 ^ (m.log2 - 52) ∧ m / 2 ^ (m.log2 - 52) < 2 ^ 53 := by
  have hpos : m ≠ 0 := by omega
  have hlog : 52 ≤ m.log2 := (Nat.le_log2 hpos).2 hm
  constructor
  · rw [Nat.le_div_iff_mul_le (Nat.two_pow_pos _), ← pow_add, Nat.add_sub_cancel' hlog]
    exact Nat.log2_self_le hpos
  · rw [Nat.div_lt_iff_lt_mul (Nat.two_pow_pos _), ← pow_add,
      show 53 + (m.log2 - 52) = m.log2 + 1 by omega]
    exact Nat.lt_log2_self

/-- A mantissa that takes up all bits stays, and the power of two above takes up one bit more. -/
theorem exists_shift_full (hlow : 2 ^ 52 ≤ q) (hhigh : q ≤ 2 ^ 53) (ht : -1074 ≤ t) :
    ∃ em t', shiftToTargetExponent Format.binary64 q t .exact = (em, t') ∧
      Full em.mantissa t' := by
  rcases hhigh.lt_or_eq with hlt | rfl
  · have hlog : q.log2 = 52 := by
      have hleast := (Nat.le_log2 (by omega)).2 hlow
      have hmost := (Nat.log2_lt (by omega)).2 hlt
      omega
    have htarget : Format.binary64.targetExponent (totalExponent q t) = t := by
      rw [targetExponent_eq, totalExponent, hlog]
      omega
    refine ⟨_, t, shiftToTargetExponent_eq .exact htarget le_rfl, ?_⟩
    rw [sub_self]
    exact ⟨hlow, hlt, ht⟩
  · -- the bit more is shifted out, which is not set
    have htarget : Format.binary64.targetExponent (totalExponent (2 ^ 53) t) = t + 1 := by
      rw [targetExponent_eq, totalExponent, Nat.log2_two_pow]
      omega
    refine ⟨_, t + 1, shiftToTargetExponent_eq .exact htarget (by omega), ?_⟩
    rw [add_sub_cancel_left]
    exact ⟨by decide, by decide, by omega⟩

/-- **A long mantissa is rounded to one that takes up all bits.** -/
theorem roundWithAccuracy_full (s : Sign) (hm : 2 ^ 52 ≤ m) (he : -1074 ≤ e) :
    ∃ q t, ∃ h : Full q t,
      roundWithAccuracy Format.binary64 s m e .exact = .finite s q t h.pos := by
  have hlog : 52 ≤ m.log2 := (Nat.le_log2 (by omega)).2 hm
  have htarget : Format.binary64.targetExponent (totalExponent m e) = m.log2 - 52 + e := by
    rw [targetExponent_eq, totalExponent]
    omega
  have hshift := shiftToTargetExponent_eq .exact htarget (by omega)
  have hplaces : ((m.log2 : ℤ) - 52 + e - e).toNat = m.log2 - 52 := by omega
  rw [hplaces] at hshift
  -- what is left of the mantissa are its first 53 digits, which may be rounded up
  have hmantissa := mantissa_shiftRight (.ofMantissaAndAccuracy m .exact) (m.log2 - 52)
  rw [mantissa_ofMantissaAndAccuracy] at hmantissa
  generalize ExtendedMantissa.ofMantissaAndAccuracy m .exact >>> (m.log2 - 52) = em at *
  obtain ⟨hlow, hhigh⟩ := firstDigits_bounds hm
  rw [← hmantissa] at hlow hhigh
  obtain ⟨hleast, hmost⟩ := roundedMantissa_bounds em
  obtain ⟨em', t, hshift', hfull⟩ :=
    @exists_shift_full em.roundedMantissa (m.log2 - 52 + e) (by omega) (by omega) (by omega)
  exact ⟨em'.mantissa, t, hfull,
    Dyadic.Canonical.roundWithAccuracy_of_shifts s hshift rfl hshift' rfl hfull.pos⟩

/-! ## Numbers that are not zero -/

/-- A positive magnitude is not zero. -/
theorem Dyadic.Canonical.ofMagnitude_ne_zero {d : Dyadic} (hd : d.Canonical) :
    (ofMagnitude false d hd.pos == 0) = false := by
  show (ofMagnitude false d hd.pos).toModel.unpack.beq (withSign false 0).toModel.unpack = false
  rw [hd.unpack_ofMagnitude, unpack_withSign_zero]
  rfl

/-- A mantissa that takes up all bits is not zero, even if the exponent is too large. -/
theorem Full.pack_ne_zero (h : Full q t) :
    (Float.ofModel (.pack (.finite .positive q t h.pos)) == 0) = false := by
  have hleast := h.least
  by_cases hgreatest : t ≤ 971
  · have hd : (Dyadic.mk q t).Canonical := ⟨h.pos, h.high, hleast, hgreatest, .inl h.low⟩
    exact hd.ofMagnitude_ne_zero
  · -- what no exponent bits are left for is infinite
    have hinfinite : UnpackedFloat.pack Format.binary64 (.finite .positive q t h.pos) =
        packedInfinity Format.binary64 .positive := by
      refine if_pos ?_
      show 2048 ≤ (t + (1023 : ℤ) + 52).toNat + 1
      omega
    have hpack : Float.Model.pack (.finite .positive q t h.pos) = .pack (.infinity .positive) := by
      show Float.Model.mk _ _ = Float.Model.mk _ _
      congr 1
      exact congrArg UInt64.ofBitVec hinfinite
    rw [hpack]
    decide +kernel

/-- A long integer is rounded to a mantissa that takes up all bits. -/
theorem ofScientific_full (hm : 2 ^ 52 ≤ m) : ∃ q t, ∃ h : Full q t,
    UnpackedFloat.ofScientific Format.binary64 m 0 = .finite .positive q t h.pos := by
  have hproduct : 2 ^ 52 ≤ (m <<< 53) * 10 ^ 0 := by
    rw [pow_zero, mul_one, Nat.shiftLeft_eq]
    exact hm.trans (Nat.le_mul_of_pos_right m (Nat.two_pow_pos 53))
  have hround : UnpackedFloat.ofScientific Format.binary64 m 0 =
      roundWithAccuracy Format.binary64 .positive ((m <<< 53) * 10 ^ 0) (-53) .exact := by
    have hleast : ¬ (0 : ℤ) < -((2 ^ 11 : ℤ) + m.log2) := by omega
    unfold UnpackedFloat.ofScientific
    rw [dif_neg (by omega), if_neg (by decide), if_neg hleast, if_pos le_rfl]
    rfl
  rw [hround]
  exact roundWithAccuracy_full .positive hproduct (by decide)

/-- **The number nearest to a positive integer is not zero.** -/
theorem ofInt_ne_zero {n : ℤ} (hn : 0 < n) : (ofInt n == 0) = false := by
  have hpos : 0 < n.natAbs := by omega
  have hofNat : ofInt n = Float.ofScientific n.natAbs false 0 := by
    unfold ofInt withSign
    rw [decide_eq_false (by omega), if_neg Bool.false_ne_true]
    rfl
  rw [hofNat]
  by_cases hsmall : n.natAbs < 2 ^ 200
  · obtain ⟨d, hd, hcontains, -⟩ := exists_magnitude hpos hsmall
    have hnearest : nearest n.natAbs 0 = ofMagnitude false d hd.pos :=
      hd.nearest_eq (by rwa [zpow_zero, mul_one])
    change (nearest n.natAbs 0 == 0) = false
    rw [hnearest]
    exact hd.ofMagnitude_ne_zero
  · -- beyond the integers that are known to have a magnitude
    have hlarge : 2 ^ 200 ≤ n.natAbs := by omega
    have hslow : ¬ (n.natAbs < 2 ^ 53 ∧ 0 ≤ 22) := by omega
    obtain ⟨q, t, hfull, hvalue⟩ := @ofScientific_full n.natAbs (by omega)
    unfold Float.ofScientific
    rw [dif_neg hslow]
    show (Float.ofModel (.pack (UnpackedFloat.ofScientific Format.binary64 n.natAbs 0)) == 0) = _
    rw [hvalue]
    exact hfull.pack_ne_zero

end SolutionAlgebra.Decimal
