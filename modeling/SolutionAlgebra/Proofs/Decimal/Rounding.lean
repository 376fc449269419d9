import Mathlib.Algebra.Order.Field.Basic
import Mathlib.Algebra.Order.Field.Power
import Mathlib.Data.Rat.Cast.Order
import Mathlib.Tactic.FieldSimp
import Mathlib.Tactic.Linarith
import Mathlib.Tactic.Positivity
import Mathlib.Tactic.Ring
import SolutionAlgebra.Decimal.Binary64

/-! # Rounding to floating-point numbers

A product or quotient of numbers is cut off to a mantissa with two further bits, which tell where
the exact number lies between one mantissa and the next, and then rounded to the nearest mantissa
that fits. Whatever the exact number is: if it lies in the interval of a magnitude, it is rounded to
this magnitude.

* **`Dyadic.Canonical`** — the magnitudes of the finite floating-point numbers other than zero.
* **`Interval.Contains`** — that a rational number lies in an interval.
* **`Represents`** — what an extended mantissa tells of a number.
* **`roundWithAccuracy_eq`** — what lies in the interval of a magnitude is rounded to it;
  **`mul_eq`**, **`div_eq`** — so are products and quotients. -/

namespace SolutionAlgebra.Decimal

open Float.Model Float.Model.UnpackedFloat

/-! ## Magnitudes and their intervals -/

/-- The magnitudes of the finite floating-point numbers other than zero: the mantissa takes up all
of its bits unless the exponent is the least one. -/
structure Dyadic.Canonical (d : Dyadic) : Prop where
  /-- The mantissa is not zero. -/
  pos : 0 < d.mantissa
  /-- The mantissa fits into its bits. -/
  lt : d.mantissa < 2 ^ 53
  /-- No exponent is below the least one. -/
  least : -1074 ≤ d.exponent
  /-- No exponent is above the greatest one. -/
  greatest : d.exponent ≤ 971
  /-- The mantissa takes up all of its bits. -/
  full : 2 ^ 52 ≤ d.mantissa ∨ d.exponent = -1074

/-- A magnitude as a rational number. -/
def Dyadic.toRat (d : Dyadic) : ℚ := d.mantissa * 2 ^ d.exponent

/-- That a number lies in an interval. -/
def Interval.Contains (i : Interval) (x : ℚ) : Prop :=
  if i.closed then i.low * 2 ^ i.exponent ≤ x ∧ x ≤ i.high * 2 ^ i.exponent
  else i.low * 2 ^ i.exponent < x ∧ x < i.high * 2 ^ i.exponent

/-- What lies between the ends of an interval lies in it. -/
theorem Interval.contains_of_lt {i : Interval} {x : ℚ} (hlow : i.low * 2 ^ i.exponent < x)
    (hhigh : x < i.high * 2 ^ i.exponent) : i.Contains x := by
  unfold Contains
  split
  · exact ⟨hlow.le, hhigh.le⟩
  · exact ⟨hlow, hhigh⟩

/-- A power of two is positive. -/
theorem two_zpow_pos (n : ℤ) : (0 : ℚ) < 2 ^ n := zpow_pos (by norm_num) n

namespace Dyadic.Canonical

variable {d : Dyadic} {x : ℚ}

/-- A quarter of the last place. -/
theorem two_zpow_interval (d : Dyadic) :
    (2 : ℚ) ^ d.interval.exponent = 2 ^ d.exponent / 4 := by
  show (2 : ℚ) ^ (d.exponent - 2) = _
  rw [zpow_sub₀ (by norm_num)]
  norm_num

/-- The lower end of an interval is at most half a last place below. -/
theorem low_add_two (hd : d.Canonical) : 4 * (d.mantissa : ℚ) - 2 ≤ d.interval.low := by
  have hpos := hd.pos
  have h : 4 * d.mantissa ≤ d.interval.low + 2 := by
    show _ ≤ _ - _ + 2
    split <;> omega
  have h' : 4 * (d.mantissa : ℚ) ≤ d.interval.low + 2 := by exact_mod_cast h
  linarith

/-- The upper end of an interval is half a last place above. -/
theorem high_eq (d : Dyadic) : (d.interval.high : ℚ) = 4 * d.mantissa + 2 := by
  show ((4 * d.mantissa + 2 : ℕ) : ℚ) = _
  push_cast
  rfl

/-- What lies in the interval is at most half a last place away. -/
theorem near_of_contains (hd : d.Canonical) (h : d.interval.Contains x) :
    (d.mantissa - 1 / 2) * 2 ^ d.exponent ≤ x ∧ x ≤ (d.mantissa + 1 / 2) * 2 ^ d.exponent := by
  have hplace := two_zpow_pos d.exponent
  have hlow := mul_le_mul_of_nonneg_right hd.low_add_two hplace.le
  unfold Interval.Contains at h
  rw [two_zpow_interval, high_eq] at h
  split at h <;> constructor <;> linarith [h.1, h.2]

/-- What lies in the interval of an odd mantissa is less than half a last place away. -/
theorem near_of_contains_of_odd (hd : d.Canonical) (h : d.interval.Contains x)
    (hodd : d.mantissa % 2 = 1) :
    (d.mantissa - 1 / 2) * 2 ^ d.exponent < x ∧ x < (d.mantissa + 1 / 2) * 2 ^ d.exponent := by
  have hplace := two_zpow_pos d.exponent
  have hlow := mul_le_mul_of_nonneg_right hd.low_add_two hplace.le
  have hopen : d.interval.closed = false := by
    show (d.mantissa % 2 == 0) = false
    rw [hodd]
    rfl
  unfold Interval.Contains at h
  rw [two_zpow_interval, high_eq, if_neg (by rw [hopen]; decide)] at h
  constructor <;> linarith [h.1, h.2]

/-- At a power of two, what lies in the interval is at most a quarter of a last place below. -/
theorem near_of_contains_of_edge (h : d.interval.Contains x) (hedge : d.mantissa = 2 ^ 52)
    (hleast : d.exponent ≠ -1074) : (2 ^ 52 - 1 / 4) * 2 ^ d.exponent ≤ x := by
  have hlow : d.interval.low = 2 ^ 54 - 1 := by
    show 4 * d.mantissa - (if d.mantissa == 2 ^ 52 && d.exponent != -1074 then 1 else 2) = _
    simp [hedge, hleast]
  have hclosed : d.interval.closed = true := by
    show (d.mantissa % 2 == 0) = true
    rw [hedge]
    rfl
  unfold Interval.Contains at h
  rw [two_zpow_interval, hlow, if_pos hclosed] at h
  push_cast at h
  linarith [h.1]

/-- A magnitude lies between the ends of its interval. -/
theorem between_ends (hd : d.Canonical) :
    d.interval.low * 2 ^ d.interval.exponent < d.toRat ∧
      d.toRat < d.interval.high * 2 ^ d.interval.exponent := by
  have hplace := two_zpow_pos d.exponent
  have hlow : (d.interval.low : ℚ) < 4 * d.mantissa := by
    have hpos := hd.pos
    have : d.interval.low < 4 * d.mantissa := by
      show _ - _ < _
      split <;> omega
    exact_mod_cast this
  have hlow := mul_lt_mul_of_pos_right hlow hplace
  rw [two_zpow_interval, high_eq, toRat]
  constructor <;> linarith

/-- A magnitude lies in its own interval. -/
theorem contains_toRat (hd : d.Canonical) : d.interval.Contains d.toRat :=
  Interval.contains_of_lt hd.between_ends.1 hd.between_ends.2

end Dyadic.Canonical

/-! ## Extended mantissas -/

/-- What an extended mantissa tells of a number. -/
inductive Represents : ExtendedMantissa → ℚ → Prop where
  /-- It is the mantissa. -/
  | exact (m : ℕ) : Represents ⟨m, false, false⟩ m
  /-- It lies in the first half of the way to the next mantissa. -/
  | below {m : ℕ} {x : ℚ} (hlow : m < x) (hhigh : x < m + 1 / 2) : Represents ⟨m, false, true⟩ x
  /-- It lies in the middle. -/
  | middle (m : ℕ) : Represents ⟨m, true, false⟩ (m + 1 / 2)
  /-- It lies in the second half. -/
  | above {m : ℕ} {x : ℚ} (hlow : m + 1 / 2 < x) (hhigh : x < m + 1) : Represents ⟨m, true, true⟩ x

namespace Represents

variable {em : ExtendedMantissa} {x : ℚ}

/-- The mantissa is the whole part. -/
theorem bounds (h : Represents em x) : em.mantissa ≤ x ∧ x < em.mantissa + 1 := by
  cases h <;> constructor <;> linarith

/-- An even mantissa is shifted without loss. -/
theorem shiftRightOne_even (k : ℕ) (roundBit stickyBit : Bool) :
    ExtendedMantissa.shiftRightOne ⟨2 * k, roundBit, stickyBit⟩ =
      ⟨k, false, roundBit || stickyBit⟩ := by
  simp [ExtendedMantissa.shiftRightOne]

/-- The last place of an odd mantissa becomes the half. -/
theorem shiftRightOne_odd (k : ℕ) (roundBit stickyBit : Bool) :
    ExtendedMantissa.shiftRightOne ⟨2 * k + 1, roundBit, stickyBit⟩ =
      ⟨k, true, roundBit || stickyBit⟩ := by
  simp only [ExtendedMantissa.shiftRightOne, Nat.mul_add_mod, Nat.one_mod]
  congr 1
  omega

/-- Shifting by one place halves the number. -/
theorem shiftRightOne (h : Represents em x) : Represents em.shiftRightOne (x / 2) := by
  obtain ⟨m, roundBit, stickyBit⟩ := em
  -- the place that is shifted out becomes the half, and the old half a part of the rest
  obtain ⟨k, rfl | rfl⟩ := Nat.even_or_odd' m
  · rw [shiftRightOne_even]
    cases h with
    | exact => simpa using exact k
    | below hlow hhigh =>
        push_cast at hlow hhigh
        exact below (by linarith) (by linarith)
    | middle => exact below (by push_cast; linarith) (by push_cast; linarith)
    | above hlow hhigh =>
        push_cast at hlow hhigh
        exact below (by linarith) (by linarith)
  · rw [shiftRightOne_odd]
    cases h with
    | exact =>
        rw [show ((2 * k + 1 : ℕ) : ℚ) / 2 = k + 1 / 2 by push_cast; ring]
        exact middle k
    | below hlow hhigh =>
        push_cast at hlow hhigh
        exact above (by linarith) (by linarith)
    | middle => exact above (by push_cast; linarith) (by push_cast; linarith)
    | above hlow hhigh =>
        push_cast at hlow hhigh
        exact above (by linarith) (by linarith)

/-- Shifting by several places divides by a power of two. -/
theorem shiftRight (h : Represents em x) (n : ℕ) : Represents (em >>> n) (x / 2 ^ n) := by
  show Represents (n.repeat ExtendedMantissa.shiftRightOne em) _
  induction n with
  | zero => simpa [Nat.repeat] using h
  | succ n ih =>
      rw [Nat.repeat, pow_succ, ← div_div]
      exact ih.shiftRightOne

/-- **A number is rounded to the nearest integer**, and in the middle of two to the even one. -/
theorem roundedMantissa_eq (h : Represents em x) {n : ℕ}
    (hlow : (n : ℚ) - 1 / 2 ≤ x) (hhigh : x ≤ n + 1 / 2)
    (hodd : n % 2 = 1 → (n : ℚ) - 1 / 2 < x ∧ x < n + 1 / 2) : em.roundedMantissa = n := by
  obtain ⟨hlow', hhigh'⟩ := h.bounds
  have hfirst : n < em.mantissa + 2 := by
    have : (n : ℚ) < em.mantissa + 2 := by linarith
    exact_mod_cast this
  have hlast : em.mantissa < n + 1 := by
    have : (em.mantissa : ℚ) < n + 1 := by linarith
    exact_mod_cast this
  -- so the integer is the mantissa or the next one
  cases h with
  | exact m =>
      show m = n
      have : n ≠ m + 1 := by
        rintro rfl
        push_cast at hlow
        linarith
      simp only at hfirst hlast
      omega
  | @below m x hlow'' hhigh'' =>
      show m = n
      have : n ≠ m + 1 := by
        rintro rfl
        push_cast at hlow
        linarith
      simp only at hfirst hlast
      omega
  | middle m =>
      show m + m % 2 = n
      have heven : n % 2 = 0 := by
        obtain hparity | hparity := Nat.mod_two_eq_zero_or_one n
        · exact hparity
        · obtain ⟨hlow, hhigh⟩ := hodd hparity
          have h₁ : (n : ℚ) < m + 1 := by linarith
          have h₂ : (m : ℚ) < n := by linarith
          have : n < m + 1 := by exact_mod_cast h₁
          have : m < n := by exact_mod_cast h₂
          omega
      simp only at hfirst hlast
      omega
  | @above m x hlow'' hhigh'' =>
      show m + 1 = n
      have : n ≠ m := by
        rintro rfl
        linarith
      simp only at hfirst hlast
      omega

end Represents

/-! ## Rounding -/

/-- The exponent that a floating-point number of a given size has. -/
theorem targetExponent_eq (n : ℤ) : Format.binary64.targetExponent n = max (n - 53) (-1074) := rfl

/-- Shifting to the exponent of the size, which is not below the exponent so far. -/
theorem shiftToTargetExponent_eq {m : ℕ} {e t : ℤ} (acc : Accuracy)
    (ht : Format.binary64.targetExponent (totalExponent m e) = t) (he : e ≤ t) :
    shiftToTargetExponent Format.binary64 m e acc =
      (ExtendedMantissa.ofMantissaAndAccuracy m acc >>> (t - e).toNat, t) := by
  unfold shiftToTargetExponent shiftToExponent
  rw [ht]
  dsimp only
  congr 1
  omega

/-- The accuracy does not change the mantissa. -/
theorem mantissa_ofMantissaAndAccuracy (m : ℕ) (acc : Accuracy) :
    (ExtendedMantissa.ofMantissaAndAccuracy m acc).mantissa = m := by
  unfold ExtendedMantissa.ofMantissaAndAccuracy
  split <;> rfl

/-- A number lies between the powers of two that its size says. -/
theorem Represents.size {m : ℕ} {e : ℤ} {acc : Accuracy} {x : ℚ} (hm : 0 < m)
    (h : Represents (.ofMantissaAndAccuracy m acc) (x / 2 ^ e)) :
    2 ^ (totalExponent m e - 1) ≤ x ∧ x < 2 ^ totalExponent m e := by
  have hplace := two_zpow_pos e
  obtain ⟨hlow, hhigh⟩ := h.bounds
  rw [mantissa_ofMantissaAndAccuracy, le_div_iff₀ hplace] at hlow
  rw [mantissa_ofMantissaAndAccuracy, div_lt_iff₀ hplace] at hhigh
  have hleast : (2 : ℚ) ^ m.log2 ≤ m := by exact_mod_cast Nat.log2_self_le hm.ne'
  have hmost : (m : ℚ) + 1 ≤ 2 ^ (m.log2 + 1) := by exact_mod_cast Nat.lt_log2_self
  have htop : (2 : ℚ) ^ totalExponent m e = 2 ^ (m.log2 + 1) * 2 ^ e := by
    rw [totalExponent, zpow_add₀ (by norm_num)]
    norm_cast
  have hbottom : (2 : ℚ) ^ (totalExponent m e - 1) = 2 ^ m.log2 * 2 ^ e := by
    rw [zpow_sub₀ (by norm_num), htop, pow_succ]
    ring
  rw [htop, hbottom]
  exact ⟨(mul_le_mul_of_nonneg_right hleast hplace.le).trans hlow,
    hhigh.trans_le (mul_le_mul_of_nonneg_right hmost hplace.le)⟩

namespace Dyadic.Canonical

variable {d : Dyadic} {m : ℕ} {e : ℤ} {acc : Accuracy} {x : ℚ}

/-- The exponent of a magnitude is that of its size. -/
theorem targetExponent_totalExponent (hd : d.Canonical) :
    Format.binary64.targetExponent (totalExponent d.mantissa d.exponent) = d.exponent := by
  have hlog : d.mantissa.log2 < 53 := (Nat.log2_lt hd.pos.ne').2 hd.lt
  have hleast := hd.least
  rw [targetExponent_eq, totalExponent]
  obtain hfull | hexponent := hd.full
  · have hlog' : 52 ≤ d.mantissa.log2 := (Nat.le_log2 hd.pos.ne').2 hfull
    omega
  · omega

/-- What lies in the interval of a magnitude is below the power of two above all mantissas. -/
theorem lt_two_zpow_of_contains (hd : d.Canonical) (h : d.interval.Contains x) :
    x < 2 ^ (53 + d.exponent) := by
  have hplace := two_zpow_pos d.exponent
  have hlt : (d.mantissa : ℚ) + 1 ≤ 2 ^ 53 := by exact_mod_cast hd.lt
  calc x ≤ (d.mantissa + 1 / 2) * 2 ^ d.exponent := (hd.near_of_contains h).2
    _ < 2 ^ 53 * 2 ^ d.exponent := mul_lt_mul_of_pos_right (by linarith) hplace
    _ = 2 ^ (53 + d.exponent) := by rw [zpow_add₀ (by norm_num)]; norm_cast

/-- Unless the exponent is the least, it is above half the least full mantissa. -/
theorem two_zpow_lt_of_contains (hd : d.Canonical) (h : d.interval.Contains x)
    (hexponent : d.exponent ≠ -1074) : 2 ^ (51 + d.exponent) < x := by
  have hplace := two_zpow_pos d.exponent
  have hle : (2 : ℚ) ^ 52 ≤ d.mantissa := by exact_mod_cast hd.full.resolve_right hexponent
  calc (2 : ℚ) ^ (51 + d.exponent) = 2 ^ 51 * 2 ^ d.exponent := by
        rw [zpow_add₀ (by norm_num)]; norm_cast
    _ < (d.mantissa - 1 / 2) * 2 ^ d.exponent := mul_lt_mul_of_pos_right (by linarith) hplace
    _ ≤ x := (hd.near_of_contains h).1

/-- What lies in the interval of a magnitude is shifted to the exponent of the magnitude, or to the
one below if it lies below a power of two. -/
theorem targetExponent_cases (hd : d.Canonical) (h : d.interval.Contains x)
    (hx : Represents (.ofMantissaAndAccuracy m acc) (x / 2 ^ e))
    (he : e ≤ Format.binary64.targetExponent (totalExponent m e)) :
    Format.binary64.targetExponent (totalExponent m e) = d.exponent ∨
      Format.binary64.targetExponent (totalExponent m e) = d.exponent - 1 ∧
        d.mantissa = 2 ^ 52 ∧ d.exponent ≠ -1074 ∧ x < 2 ^ 52 * 2 ^ d.exponent := by
  have hplace := two_zpow_pos d.exponent
  have hleast := hd.least
  have htwo : (1 : ℚ) < 2 := by norm_num
  rw [targetExponent_eq] at he ⊢
  obtain rfl | hm := Nat.eq_zero_or_pos m
  · -- without a whole part, the number lies below the least place
    have htotal : totalExponent 0 e = 1 + e := rfl
    rw [htotal] at he ⊢
    have hsmall : x < 2 ^ e := by
      have := hx.bounds.2
      rwa [mantissa_ofMantissaAndAccuracy, div_lt_iff₀ (two_zpow_pos e), Nat.cast_zero, zero_add,
        one_mul] at this
    have hexponent : d.exponent = -1074 := by
      by_contra hexponent
      have :=
        (zpow_lt_zpow_iff_right₀ htwo).1 ((hd.two_zpow_lt_of_contains h hexponent).trans hsmall)
      omega
    exact .inl (by omega)
  · obtain ⟨hsize, hsize'⟩ := hx.size hm
    have htop := (zpow_lt_zpow_iff_right₀ htwo).1 (hsize.trans_lt (hd.lt_two_zpow_of_contains h))
    by_cases hexponent : d.exponent = -1074
    · exact .inl (by omega)
    · have hbottom :=
        (zpow_lt_zpow_iff_right₀ htwo).1 ((hd.two_zpow_lt_of_contains h hexponent).trans hsize')
      obtain htotal | htotal : totalExponent m e = 53 + d.exponent ∨
          totalExponent m e = 52 + d.exponent := by omega
      · exact .inl (by omega)
      · rw [htotal, zpow_add₀ (by norm_num)] at hsize'
        have hsize'' : x < 2 ^ 52 * 2 ^ d.exponent := by exact_mod_cast hsize'
        have hle : (d.mantissa : ℚ) < 2 ^ 52 + 1 := by
          have := lt_of_mul_lt_mul_right ((hd.near_of_contains h).1.trans_lt hsize'') hplace.le
          linarith
        have hle : d.mantissa < 2 ^ 52 + 1 := by exact_mod_cast hle
        have hfull := hd.full.resolve_right hexponent
        exact .inr ⟨by omega, by omega, hexponent, hsize''⟩

/-- The first rounding gives the mantissa, or the power of two above all mantissas. -/
theorem roundedMantissa_shiftRight (hx : Represents (.ofMantissaAndAccuracy m acc) (x / 2 ^ e))
    {t : ℤ} (he : e ≤ t) {n : ℕ} (hlow : (n - 1 / 2) * 2 ^ t ≤ x) (hhigh : x ≤ (n + 1 / 2) * 2 ^ t)
    (hodd : n % 2 = 1 → (n - 1 / 2) * 2 ^ t < x ∧ x < (n + 1 / 2) * 2 ^ t) :
    (ExtendedMantissa.ofMantissaAndAccuracy m acc >>> (t - e).toNat).roundedMantissa = n := by
  have hplace := two_zpow_pos t
  have hscale : x / 2 ^ e / 2 ^ (t - e).toNat = x / 2 ^ t := by
    rw [div_div, ← zpow_natCast, ← zpow_add₀ (by norm_num), Int.toNat_of_nonneg (by omega)]
    congr 2
    omega
  have h := hx.shiftRight (t - e).toNat
  rw [hscale] at h
  refine h.roundedMantissa_eq ((le_div_iff₀ hplace).2 hlow) ((div_le_iff₀ hplace).2 hhigh) ?_
  intro hparity
  obtain ⟨hlow, hhigh⟩ := hodd hparity
  exact ⟨(lt_div_iff₀ hplace).2 hlow, (div_lt_iff₀ hplace).2 hhigh⟩

/-- What two shifts leave is the rounded number, unless it is zero. -/
theorem roundWithAccuracy_of_shifts {em em' : ExtendedMantissa} {t t' : ℤ} {n q : ℕ} (s : Sign)
    (hshift : shiftToTargetExponent Format.binary64 m e acc = (em, t))
    (hrounded : em.roundedMantissa = q)
    (hshift' : shiftToTargetExponent Format.binary64 q t .exact = (em', t'))
    (hmantissa : em'.mantissa = n) (hn : 0 < n) :
    roundWithAccuracy Format.binary64 s m e acc = .finite s n t' hn := by
  subst hrounded hmantissa
  unfold roundWithAccuracy
  rw [hshift]
  dsimp only
  rw [hshift']
  exact dif_neg hn.ne'

/-- **What lies in the interval of a magnitude is rounded to the magnitude.** -/
theorem roundWithAccuracy_eq (hd : d.Canonical) (h : d.interval.Contains x) (s : Sign)
    (hx : Represents (.ofMantissaAndAccuracy m acc) (x / 2 ^ e))
    (he : e ≤ Format.binary64.targetExponent (totalExponent m e)) :
    roundWithAccuracy Format.binary64 s m e acc = .finite s d.mantissa d.exponent hd.pos := by
  have hplace := two_zpow_pos d.exponent
  obtain ⟨hlow, hhigh⟩ := hd.near_of_contains h
  obtain ht | ⟨ht, hedge, hexponent, hbelow⟩ := hd.targetExponent_cases h hx he
  · have hrounded := roundedMantissa_shiftRight hx (ht ▸ he) hlow hhigh
      (hd.near_of_contains_of_odd h)
    refine roundWithAccuracy_of_shifts s (shiftToTargetExponent_eq acc ht (ht ▸ he)) hrounded
      (shiftToTargetExponent_eq .exact hd.targetExponent_totalExponent le_rfl) ?_ hd.pos
    rw [sub_self]
    rfl
  · -- the number is rounded up to the power of two, which takes up one more bit
    have hplace' : (2 : ℚ) ^ (d.exponent - 1) = 2 ^ d.exponent / 2 := by
      rw [zpow_sub₀ (by norm_num), zpow_one]
    have hnear := near_of_contains_of_edge h hedge hexponent
    have hrounded := @roundedMantissa_shiftRight _ _ _ _ hx _ (ht ▸ he) (2 ^ 53)
      (by rw [hplace']; push_cast; linarith) (by rw [hplace']; push_cast; linarith)
      fun hodd => absurd hodd (by decide)
    have hleast := hd.least
    have htotal : Format.binary64.targetExponent (totalExponent (2 ^ 53) (d.exponent - 1)) =
        d.exponent := by
      rw [targetExponent_eq, totalExponent, Nat.log2_two_pow]
      omega
    refine roundWithAccuracy_of_shifts s (shiftToTargetExponent_eq acc ht (ht ▸ he)) hrounded
      (shiftToTargetExponent_eq .exact htotal (by omega)) ?_ hd.pos
    rw [hedge, sub_sub_cancel]
    rfl

/-! ## Products and quotients -/

variable {m₁ m₂ : ℕ} {e₁ e₂ : ℤ}

/-- A product whose mantissa takes up enough bits is not below the exponent of its size. -/
theorem exponent_le_of_bits (hbits : 2 ^ 52 ≤ m₁ * m₂) :
    e₁ + e₂ ≤ Format.binary64.targetExponent (totalExponent (m₁ * m₂) (e₁ + e₂)) := by
  have hlog : 52 ≤ (m₁ * m₂).log2 :=
    (Nat.le_log2 (Nat.pos_iff_ne_zero.1 (lt_of_lt_of_le (by decide) hbits))).2 hbits
  rw [targetExponent_eq, totalExponent]
  omega

/-- **A product is rounded to the magnitude in whose interval it lies**, if its exponent is not
above that of its size. -/
theorem mul_eq (hd : d.Canonical) (s₁ s₂ : Sign) (h₁ : 0 < m₁) (h₂ : 0 < m₂)
    (h : d.interval.Contains (m₁ * 2 ^ e₁ * (m₂ * 2 ^ e₂)))
    (he : e₁ + e₂ ≤ Format.binary64.targetExponent (totalExponent (m₁ * m₂) (e₁ + e₂))) :
    mul Format.binary64 (.finite s₁ m₁ e₁ h₁) (.finite s₂ m₂ e₂ h₂) =
      .finite (s₁ * s₂) d.mantissa d.exponent hd.pos := by
  refine hd.roundWithAccuracy_eq h (s₁ * s₂) ?_ he
  have hproduct : (m₁ * 2 ^ e₁ * (m₂ * 2 ^ e₂) : ℚ) / 2 ^ (e₁ + e₂) = (m₁ * m₂ : ℕ) := by
    rw [div_eq_iff (two_zpow_pos _).ne', zpow_add₀ (by norm_num)]
    push_cast
    ring
  rw [hproduct]
  exact .exact (m₁ * m₂)

/-- The accuracy of a quotient tells where the exact quotient lies. -/
theorem represents_quotient {n k : ℕ} (hk : 0 < k) :
    Represents (.ofMantissaAndAccuracy (n / k) (accuracyOfFraction (n % k) k)) (n / k : ℚ) := by
  have hk' : (0 : ℚ) < k := by exact_mod_cast hk
  have hsplit : (n : ℚ) / k = (n / k : ℕ) + (n % k : ℕ) / k := by
    rw [div_eq_iff hk'.ne', add_mul, div_mul_cancel₀ _ hk'.ne']
    exact_mod_cast (Nat.div_add_mod' n k).symm
  have hmod : ((n % k : ℕ) : ℚ) < k := by exact_mod_cast Nat.mod_lt n hk
  rw [hsplit]
  unfold accuracyOfFraction
  split
  · next hzero =>
    rw [hzero, Nat.cast_zero, zero_div, add_zero]
    exact .exact _
  · next hzero =>
    have hpos : (0 : ℚ) < (n % k : ℕ) / k :=
      div_pos (by exact_mod_cast Nat.pos_of_ne_zero hzero) hk'
    have hone : ((n % k : ℕ) : ℚ) / k < 1 := (div_lt_one hk').2 hmod
    -- twice the remainder is compared with the divisor, as its half need not be an integer
    cases hcompare : compare (2 * (n % k)) k with
    | lt =>
        have hhalf : ((2 * (n % k) : ℕ) : ℚ) < k := by exact_mod_cast Nat.compare_eq_lt.1 hcompare
        push_cast at hhalf
        have : ((n % k : ℕ) : ℚ) / k < 1 / 2 := by
          rw [div_lt_div_iff₀ hk' two_pos]
          linarith
        exact .below (by linarith) (by linarith)
    | eq =>
        have hhalf : ((2 * (n % k) : ℕ) : ℚ) = k := by exact_mod_cast Nat.compare_eq_eq.1 hcompare
        push_cast at hhalf
        have : ((n % k : ℕ) : ℚ) / k = 1 / 2 := by
          rw [div_eq_div_iff hk'.ne' two_ne_zero]
          linarith
        rw [this]
        exact .middle _
    | gt =>
        have hhalf : (k : ℚ) < (2 * (n % k) : ℕ) := by exact_mod_cast Nat.compare_eq_gt.1 hcompare
        push_cast at hhalf
        have : 1 / 2 < ((n % k : ℕ) : ℚ) / k := by
          rw [div_lt_div_iff₀ two_pos hk']
          linarith
        exact .above (by linarith) (by linarith)

/-- A quotient is cut off where it has enough bits. -/
theorem exponent_le_of_divCore (h₁ : 0 < m₁) (h₂ : 0 < m₂) {t : ℤ} (ht : t ≤ e₁ - e₂)
    (ht' : t ≤ Format.binary64.targetExponent (totalExponent m₁ e₁ - totalExponent m₂ e₂)) :
    t ≤ Format.binary64.targetExponent
      (totalExponent ((m₁ <<< (e₁ - e₂ - t).toNat) / m₂) t) := by
  rw [targetExponent_eq] at ht' ⊢
  obtain ht' | ht' := le_max_iff.1 ht'
  · rw [totalExponent, totalExponent] at ht'
    -- the dividend is shifted past 53 bits more than the divisor has
    have hbits : m₂.log2 + 53 ≤ m₁.log2 + (e₁ - e₂ - t).toNat := by omega
    have hquotient : 2 ^ 52 ≤ (m₁ <<< (e₁ - e₂ - t).toNat) / m₂ := by
      rw [Nat.le_div_iff_mul_le h₂, Nat.shiftLeft_eq]
      calc 2 ^ 52 * m₂ ≤ 2 ^ 52 * 2 ^ (m₂.log2 + 1) := by
            exact Nat.mul_le_mul_left _ Nat.lt_log2_self.le
        _ = 2 ^ (m₂.log2 + 53) := by rw [← pow_add]; congr 1; omega
        _ ≤ 2 ^ (m₁.log2 + (e₁ - e₂ - t).toNat) := Nat.pow_le_pow_right (by decide) hbits
        _ = 2 ^ m₁.log2 * 2 ^ (e₁ - e₂ - t).toNat := pow_add _ _ _
        _ ≤ m₁ * 2 ^ (e₁ - e₂ - t).toNat := Nat.mul_le_mul_right _ (Nat.log2_self_le h₁.ne')
    have hlog := (Nat.le_log2 (by omega)).2 hquotient
    rw [totalExponent]
    omega
  · exact ht'.trans (le_max_right _ _)

/-- **A quotient is rounded to the magnitude in whose interval it lies.** -/
theorem div_eq (hd : d.Canonical) (s₁ s₂ : Sign) (h₁ : 0 < m₁) (h₂ : 0 < m₂)
    (h : d.interval.Contains (m₁ * 2 ^ e₁ / (m₂ * 2 ^ e₂))) :
    div Format.binary64 (.finite s₁ m₁ e₁ h₁) (.finite s₂ m₂ e₂ h₂) =
      .finite (s₁ / s₂) d.mantissa d.exponent hd.pos := by
  refine hd.roundWithAccuracy_eq h (s₁ / s₂) ?_
    (exponent_le_of_divCore h₁ h₂ (min_le_left _ _) (min_le_right _ _))
  generalize ht : min (e₁ - e₂)
    (Format.binary64.targetExponent (totalExponent m₁ e₁ - totalExponent m₂ e₂)) = t
  have hle : t ≤ e₁ - e₂ := ht ▸ min_le_left _ _
  have hquotient : (m₁ * 2 ^ e₁ / (m₂ * 2 ^ e₂) : ℚ) / 2 ^ t =
      ((m₁ <<< (e₁ - e₂ - t).toNat : ℕ) : ℚ) / m₂ := by
    have hm₂ : (m₂ : ℚ) ≠ 0 := by exact_mod_cast h₂.ne'
    have hpower : (2 : ℚ) ^ (e₁ - e₂ - t).toNat = 2 ^ e₁ / 2 ^ e₂ / 2 ^ t := by
      rw [← zpow_natCast, Int.toNat_of_nonneg (by omega), zpow_sub₀ (by norm_num),
        zpow_sub₀ (by norm_num)]
    rw [Nat.shiftLeft_eq]
    push_cast
    rw [hpower]
    field_simp
  rw [hquotient]
  exact represents_quotient h₂

end Dyadic.Canonical

end SolutionAlgebra.Decimal
