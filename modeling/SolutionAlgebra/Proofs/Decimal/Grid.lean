import Mathlib.Algebra.Order.Floor.Semiring
import Mathlib.Data.Int.Log
import Mathlib.Data.Rat.Floor
import SolutionAlgebra.Proofs.Decimal.Operations

/-! # The grid of floating-point numbers

The finite numbers are the multiples of powers of two with at most 53 binary digits. Every rational
number of their range lies in the interval of one of them, and what is rounded does not pass a
finite number on its way.

* **`exists_value_eq`** — the multiples of powers of two that are finite numbers.
* **`exists_roundsTo`** — what can be rounded.
* **`RoundsTo.value_le`**, **`RoundsTo.le_value`** — rounding keeps the order to finite numbers. -/

namespace SolutionAlgebra.Decimal

variable {d : Dyadic} {m : ℕ} {e : ℤ} {p q r v y : ℚ} {s x : Float}

/-- A sign does not change the magnitude. -/
theorem abs_signed (negative : Bool) (q : ℚ) : |signed negative q| = |q| := by
  cases negative with
  | false => rfl
  | true => exact abs_neg q

/-! ## Intervals -/

/-- The lower end of an interval is half a last place below, or a quarter at a power of two. -/
theorem interval_low (hpos : 0 < d.mantissa) : (d.interval.low : ℚ) =
    4 * d.mantissa - if d.mantissa == 2 ^ 52 && d.exponent != -1074 then 1 else 2 := by
  show ((4 * d.mantissa -
    if d.mantissa == 2 ^ 52 && d.exponent != -1074 then 1 else 2 : ℕ) : ℚ) = _
  rw [Nat.cast_sub (by split <;> omega)]
  split <;> push_cast <;> rfl

/-- What is at most half a last place away lies in the interval, unless it is in the middle to the
next number and the mantissa is odd, or more than a quarter of a last place below a power of two. -/
theorem contains_of_bounds (hpos : 0 < d.mantissa)
    (hlow : (d.mantissa - 1 / 2) * 2 ^ d.exponent ≤ r)
    (hhigh : r ≤ (d.mantissa + 1 / 2) * 2 ^ d.exponent)
    (hodd : d.mantissa % 2 = 1 →
      (d.mantissa - 1 / 2) * 2 ^ d.exponent < r ∧ r < (d.mantissa + 1 / 2) * 2 ^ d.exponent)
    (hedge : d.mantissa = 2 ^ 52 → d.exponent ≠ -1074 →
      (2 ^ 52 - 1 / 4) * 2 ^ d.exponent ≤ r) :
    d.interval.Contains r := by
  unfold Interval.Contains
  rw [Dyadic.Canonical.two_zpow_interval, interval_low hpos, Dyadic.Canonical.high_eq]
  split
  · split
    · next hm =>
      rw [Bool.and_eq_true, beq_iff_eq, bne_iff_ne] at hm
      have hedge' := hedge hm.1 hm.2
      rw [hm.1] at hhigh ⊢
      push_cast at hhigh ⊢
      constructor <;> linarith
    · constructor <;> linarith
  · -- the ends are left out if the mantissa is odd, which no power of two is
    next hclosed =>
    have hparity : d.mantissa % 2 = 1 := by
      have : ¬ (d.mantissa % 2 == 0) = true := hclosed
      rw [beq_iff_eq] at this
      omega
    obtain ⟨hlow, hhigh⟩ := hodd hparity
    have hm : ¬ (d.mantissa == 2 ^ 52 && d.exponent != -1074) = true := by
      rw [Bool.and_eq_true, beq_iff_eq]
      rintro ⟨hm, -⟩
      rw [hm] at hparity
      exact absurd hparity (by decide)
    rw [if_neg hm]
    constructor <;> linarith

/-- What lies between two numbers of an interval lies in it. -/
theorem Interval.Contains.of_between {i : Interval} (hp : i.Contains p) (hq : i.Contains q)
    (hlow : p ≤ v) (hhigh : v ≤ q) : i.Contains v := by
  unfold Contains at *
  split at hp
  · next hclosed =>
    rw [if_pos hclosed] at hq ⊢
    exact ⟨hp.1.trans hlow, hhigh.trans hq.2⟩
  · next hopen =>
    rw [if_neg hopen] at hq ⊢
    exact ⟨hp.1.trans_le hlow, hhigh.trans_lt hq.2⟩

/-! ## Multiples of powers of two -/

/-- A multiple of a power of two with at most 53 binary digits is a magnitude. -/
theorem exists_canonical_eq (hm : 0 < m) (hlt : m < 2 ^ 53) (he : -1074 ≤ e) (he' : e ≤ 900) :
    ∃ d : Dyadic, ∃ _ : d.Canonical, d.toRat = m * 2 ^ e := by
  have hlog : m.log2 < 53 := (Nat.log2_lt hm.ne').2 hlt
  -- the mantissa is shifted until it is full or the exponent is the least one
  obtain ⟨shift, hshift⟩ : ∃ shift : ℕ, shift = min (52 - m.log2) (e + 1074).toNat := ⟨_, rfl⟩
  refine ⟨⟨m * 2 ^ shift, e - shift⟩, ⟨?_, ?_, ?_, ?_, ?_⟩, ?_⟩
  · show 0 < m * 2 ^ shift
    positivity
  · calc m * 2 ^ shift < 2 ^ (m.log2 + 1) * 2 ^ shift :=
          Nat.mul_lt_mul_of_pos_right Nat.lt_log2_self (by positivity)
      _ = 2 ^ (m.log2 + 1 + shift) := (pow_add _ _ _).symm
      _ ≤ 2 ^ 53 := Nat.pow_le_pow_right (by decide) (by omega)
  · show -1074 ≤ e - shift
    omega
  · show e - shift ≤ 971
    omega
  · rcases Nat.lt_or_ge (e + 1074).toNat (52 - m.log2) with hleast | hfull
    · right
      show e - shift = -1074
      omega
    · left
      calc 2 ^ 52 = 2 ^ m.log2 * 2 ^ shift := by
            rw [← pow_add]
            congr 1
            omega
        _ ≤ m * 2 ^ shift := Nat.mul_le_mul_right _ (Nat.log2_self_le hm.ne')
  · show ((m * 2 ^ shift : ℕ) : ℚ) * 2 ^ (e - shift) = m * 2 ^ e
    rw [Nat.cast_mul, Nat.cast_pow, Nat.cast_ofNat, mul_assoc, ← zpow_natCast,
      ← zpow_add₀ (by norm_num), add_sub_cancel]

/-- With a sign before it, it is a finite number. -/
theorem exists_value_eq_signed (hm : 0 < m) (hlt : m < 2 ^ 53) (he : -1074 ≤ e) (he' : e ≤ 900)
    (negative : Bool) : ∃ x, Finite x ∧ value x = signed negative (m * 2 ^ e) := by
  obtain ⟨d, hd, hvalue⟩ := exists_canonical_eq hm hlt he he'
  exact ⟨_, Finite.View.finite (.magnitude negative hd), by rw [hd.value_ofMagnitude, hvalue]⟩

/-- **A multiple of a power of two with at most 53 binary digits is a finite number.** -/
theorem exists_value_eq {k : ℤ} (hk : k.natAbs ≤ 2 ^ 53) (he : -1074 ≤ e) (he' : e < 900) :
    ∃ x, Finite x ∧ value x = k * 2 ^ e := by
  have hcast : signed (k < 0) (k.natAbs * 2 ^ e) = k * 2 ^ e := by
    rw [← Int.cast_natCast]
    by_cases h : k < 0
    · rw [decide_eq_true h, signed_true, ← neg_mul, ← Int.cast_neg,
        show -(k.natAbs : ℤ) = k by omega]
    · rw [decide_eq_false h, signed_false, show (k.natAbs : ℤ) = k by omega]
  rw [← hcast]
  rcases Nat.eq_zero_or_pos k.natAbs with hzero | hpos
  · refine ⟨withSign false 0, Finite.View.finite (.zero false), ?_⟩
    rw [hzero, value_withSign_zero, Nat.cast_zero, zero_mul, signed_zero]
  · rcases hk.lt_or_eq with hlt | heq
    · exact exists_value_eq_signed hpos hlt he he'.le _
    · -- a power of two with one digit more
      obtain ⟨x, hx, hvalue⟩ := exists_value_eq_signed (m := 2 ^ 52) (e := e + 1) (by decide)
        (by decide) (by omega) (by omega) (k < 0)
      refine ⟨x, hx, ?_⟩
      rw [hvalue, heq, zpow_add_one₀ (by norm_num)]
      congr 1
      push_cast
      ring

/-! ## Numbers that can be rounded -/

/-- The nearest natural number, and in the middle of two the even one. -/
theorem exists_nearest (hy : 0 ≤ y) : ∃ n : ℕ, (n : ℚ) - 1 / 2 ≤ y ∧ y ≤ n + 1 / 2 ∧
    (n % 2 = 1 → (n : ℚ) - 1 / 2 < y ∧ y < n + 1 / 2) := by
  have hlow := Nat.floor_le hy
  have hhigh := Nat.lt_floor_add_one y
  generalize ⌊y⌋₊ = k at hlow hhigh
  by_cases hnear : y < k + 1 / 2 ∨ y = k + 1 / 2 ∧ k % 2 = 0
  · refine ⟨k, by linarith, by rcases hnear with h | h <;> linarith, fun hodd => ?_⟩
    have hlt := hnear.resolve_right fun h => by omega
    exact ⟨by linarith, hlt⟩
  · rw [not_or, not_lt, not_and] at hnear
    refine ⟨k + 1, ?_, ?_, fun hodd => ?_⟩ <;> push_cast
    · linarith [hnear.1]
    · linarith
    · have hne : y ≠ k + 1 / 2 := fun h => hnear.2 h (by omega)
      exact ⟨by linarith [lt_of_le_of_ne hnear.1 hne.symm], by linarith⟩

/-- A positive number is counted in units of the last place that its size allows. -/
theorem exists_units (hleast : 2 ^ (-1074 : ℤ) ≤ r) (hgreatest : r < 2 ^ (900 : ℤ)) :
    ∃ (e : ℤ) (y : ℚ), r = y * 2 ^ e ∧ -1074 ≤ e ∧ e ≤ 900 ∧ 1 ≤ y ∧ y < 2 ^ 53 ∧
      (2 ^ 52 ≤ y ∨ e = -1074) := by
  have hr : 0 < r := (two_zpow_pos _).trans_le hleast
  have hlow : 2 ^ Int.log 2 r ≤ r := Int.zpow_log_le_self (by decide) hr
  have hhigh : r < 2 ^ (Int.log 2 r + 1) := Int.lt_zpow_succ_log_self (by decide) r
  have hlog : Int.log 2 r < 900 :=
    (zpow_lt_zpow_iff_right₀ (by norm_num)).1 (hlow.trans_lt hgreatest)
  -- the place of the last of 53 digits, or the last place there is
  obtain ⟨e, he⟩ : ∃ e, e = max (Int.log 2 r - 52) (-1074) := ⟨_, rfl⟩
  have hplace := two_zpow_pos e
  have hfull : e = -1074 ∨ 2 ^ 52 ≤ r / 2 ^ e := by
    rcases le_total (Int.log 2 r - 52) (-1074) with h | h
    · exact .inl (by omega)
    · right
      rw [le_div_iff₀ hplace, ← zpow_natCast, ← zpow_add₀ (by norm_num),
        show ((52 : ℕ) : ℤ) + e = Int.log 2 r by omega]
      exact hlow
  refine ⟨e, r / 2 ^ e, (div_mul_cancel₀ r hplace.ne').symm, by omega, by omega, ?_, ?_,
    hfull.symm⟩
  · rcases hfull with h | h
    · rw [h, one_le_div₀ (two_zpow_pos _)]
      exact hleast
    · exact le_trans (by norm_num) h
  · rw [div_lt_iff₀ hplace, ← zpow_natCast, ← zpow_add₀ (by norm_num)]
    exact hhigh.trans_le (zpow_le_zpow_right₀ (by norm_num) (by omega))

/-- What is rounded up to `2 ^ 53` units lies in the interval of the next power of two. -/
theorem exists_contains_of_carry (he : -1074 ≤ e) (he' : e ≤ 900) (hlow : 2 ^ 53 - 1 / 2 ≤ y)
    (hhigh : y ≤ 2 ^ 53) : ∃ d : Dyadic, ∃ _ : d.Canonical, d.interval.Contains (y * 2 ^ e) := by
  have hplace := two_zpow_pos e
  have hbelow : (2 ^ 52 - 1 / 4) * 2 ^ (e + 1) ≤ y * 2 ^ e := by
    rw [zpow_add_one₀ (by norm_num), mul_comm ((2 : ℚ) ^ e), ← mul_assoc]
    exact mul_le_mul_of_nonneg_right (by linarith) hplace.le
  have habove : y * 2 ^ e ≤ 2 ^ 52 * 2 ^ (e + 1) := by
    rw [zpow_add_one₀ (by norm_num), mul_comm ((2 : ℚ) ^ e), ← mul_assoc]
    exact mul_le_mul_of_nonneg_right (by linarith) hplace.le
  have hplace' := two_zpow_pos (e + 1)
  have hcanonical : (Dyadic.mk (2 ^ 52) (e + 1)).Canonical :=
    ⟨Nat.two_pow_pos 52, Nat.pow_lt_pow_right (by decide) (by decide), by dsimp only; omega,
      by dsimp only; omega, .inl le_rfl⟩
  refine ⟨_, hcanonical, contains_of_bounds hcanonical.pos ?_ ?_ ?_ fun _ _ => hbelow⟩
  · push_cast
    linarith
  · push_cast
    linarith
  · intro hparity
    exact absurd hparity (by norm_num)

/-- **A number of the range lies in the interval of a magnitude.** -/
theorem exists_contains (hleast : 2 ^ (-1074 : ℤ) ≤ r) (hgreatest : r < 2 ^ (900 : ℤ)) :
    ∃ d : Dyadic, ∃ _ : d.Canonical, d.interval.Contains r := by
  obtain ⟨e, y, rfl, he, he', hone, hlt, hfull⟩ := exists_units hleast hgreatest
  have hplace := two_zpow_pos e
  obtain ⟨n, hlow, hhigh, hodd⟩ := exists_nearest (by linarith : 0 ≤ y)
  have hpos : 0 < n := by
    have : (0 : ℚ) < n := by linarith
    exact_mod_cast this
  have hmost : n < 2 ^ 53 + 1 := by
    have : (n : ℚ) < 2 ^ 53 + 1 := by linarith
    exact_mod_cast this
  have hfull' : 2 ^ 52 ≤ n ∨ e = -1074 := by
    refine hfull.imp_left fun h => ?_
    have : (2 ^ 52 : ℚ) < n + 1 := by linarith
    have : 2 ^ 52 < n + 1 := by exact_mod_cast this
    omega
  -- rounding to the nearest may carry to one digit more
  rcases Nat.lt_or_ge n (2 ^ 53) with hfits | hcarry
  · refine ⟨⟨n, e⟩, ⟨hpos, hfits, he, he'.trans (by decide), hfull'⟩, contains_of_bounds hpos
      (mul_le_mul_of_nonneg_right hlow hplace.le) (mul_le_mul_of_nonneg_right hhigh hplace.le)
      (fun h => ?_) fun h => ?_⟩
    · obtain ⟨hlow, hhigh⟩ := hodd h
      exact ⟨mul_lt_mul_of_pos_right hlow hplace, mul_lt_mul_of_pos_right hhigh hplace⟩
    · intro hleast'
      have hy := hfull.resolve_right hleast'
      exact mul_le_mul_of_nonneg_right (by linarith) hplace.le
  · obtain rfl : n = 2 ^ 53 := by omega
    push_cast at hlow
    exact exists_contains_of_carry he he' hlow hlt.le

/-- **What is zero or of the range can be rounded.** -/
theorem exists_roundsTo (hq : q = 0 ∨ 2 ^ (-1074 : ℤ) ≤ |q|) (hgreatest : |q| < 2 ^ (900 : ℤ)) :
    ∃ x, RoundsTo q x := by
  rcases eq_zero_or_signed q with rfl | ⟨negative, r, hr, rfl⟩
  · exact ⟨_, .zero false rfl⟩
  · rw [abs_signed, abs_of_pos hr] at hq hgreatest
    have hne : signed negative r ≠ 0 := fun h => hr.ne' (signed_eq_zero_iff.1 h)
    obtain ⟨d, hd, hcontains⟩ := exists_contains (hq.resolve_left hne) hgreatest
    exact ⟨_, .magnitude negative hd hcontains rfl⟩

/-! ## The order of rounded numbers -/

/-- What lies between a number and what it is rounded to is rounded to the same. -/
theorem RoundsTo.of_between (h : RoundsTo p s)
    (hv : p ≤ v ∧ v ≤ value s ∨ value s ≤ v ∧ v ≤ p) : RoundsTo v s := by
  cases h with
  | zero negative hp =>
    rw [hp, value_withSign_zero] at hv
    exact .zero negative (by rcases hv with ⟨hlow, hhigh⟩ | ⟨hlow, hhigh⟩ <;> linarith)
  | @magnitude negative d hd r hr hp =>
    rw [hp, hd.value_ofMagnitude] at hv
    have hown := hd.contains_toRat
    -- below zero the order is turned around
    cases negative with
    | false =>
      rcases hv with ⟨hlow, hhigh⟩ | ⟨hlow, hhigh⟩
      · exact .magnitude false hd (hr.of_between hown hlow hhigh) rfl
      · exact .magnitude false hd (hown.of_between hr hlow hhigh) rfl
    | true =>
      rw [signed_true, signed_true] at hv
      rcases hv with ⟨hlow, hhigh⟩ | ⟨hlow, hhigh⟩
      · exact .magnitude true hd (hown.of_between hr (le_neg.1 hhigh) (neg_le.1 hlow))
          (neg_neg v).symm
      · exact .magnitude true hd (hr.of_between hown (le_neg.1 hhigh) (neg_le.1 hlow))
          (neg_neg v).symm

/-- **What is at most a finite number** is rounded to at most this number. -/
theorem RoundsTo.value_le (h : RoundsTo q s) (hx : Finite x) (hle : q ≤ value x) :
    value s ≤ value x := by
  by_contra hgt
  rw [not_le] at hgt
  have hbetween : RoundsTo (value x) s := h.of_between (.inl ⟨hle, hgt.le⟩)
  exact hgt.ne ((RoundsTo.self hx).value_unique hbetween)

/-- **What is at least a finite number** is rounded to at least this number. -/
theorem RoundsTo.le_value (h : RoundsTo q s) (hx : Finite x) (hle : value x ≤ q) :
    value x ≤ value s := by
  by_contra hlt
  rw [not_le] at hlt
  have hbetween : RoundsTo (value x) s := h.of_between (.inr ⟨hlt.le, hle⟩)
  exact hlt.ne (hbetween.value_unique (RoundsTo.self hx))

end SolutionAlgebra.Decimal
