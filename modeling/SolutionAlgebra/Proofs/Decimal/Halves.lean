import SolutionAlgebra.Proofs.Decimal.WholeNumbers

/-! # Rounding halves up

One half is added to a number, which is then moved down to a whole number. The sum is rounded to a
floating-point number, and so it may be carried to the next whole number: below one half, where the
sum is half a last place short of one, and at the odd integers of 53 binary digits, where it lies in
the middle of two even ones. At all other numbers the whole number is the nearest one.

* **`Strays`** — the numbers at which the sum is carried too far.
* **`RoundsTo.floor_half`** — at the other numbers the sum has the whole part that it should have.
* **`RoundsTo.floor_half_of_strays`** — at these it is the next whole number.
* **`value_floor_half`** — what adding one half and rounding down gives. -/

namespace SolutionAlgebra.Decimal

variable {x s : Float} {q : ℚ} {k n e : ℤ} {p : ℕ}

/-- The numbers that are carried to the whole number after the nearest one: the greatest one below
one half, and the odd integers with 53 binary digits. -/
def Strays (q : ℚ) : Prop :=
  q = 1 / 2 - 1 / 2 ^ 54 ∨ ∃ k : ℤ, q = k ∧ k % 2 = 1 ∧ 2 ^ 52 < |k| ∧ |k| < 2 ^ 53

/-! ## Multiples of powers of two -/

/-- A finite number is a multiple of a power of two that has 53 binary digits, or fewer if the power
is the least one. -/
theorem Finite.exists_multiple (hx : Finite x) : ∃ k e : ℤ, value x = k * 2 ^ e ∧
    k.natAbs < 2 ^ 53 ∧ -1074 ≤ e ∧ (2 ^ 52 ≤ k.natAbs ∨ e = -1074) := by
  cases hx.view with
  | zero negative =>
    exact ⟨0, -1074, by rw [value_withSign_zero, Int.cast_zero, zero_mul], by decide, le_rfl,
      .inr rfl⟩
  | @magnitude negative d hd =>
    rw [hd.value_ofMagnitude, Dyadic.toRat]
    cases negative with
    | false => exact ⟨d.mantissa, d.exponent, rfl, hd.lt, hd.least, hd.full⟩
    | true =>
      refine ⟨-d.mantissa, d.exponent, ?_, ?_, hd.least, ?_⟩
      · rw [signed_true, Int.cast_neg, Int.cast_natCast, neg_mul]
      · rw [Int.natAbs_neg, Int.natAbs_natCast]
        exact hd.lt
      · rw [Int.natAbs_neg, Int.natAbs_natCast]
        exact hd.full

/-- What is a finite number is rounded to itself. -/
theorem RoundsTo.value_eq_multiple (h : RoundsTo q s) (hq : q = k * 2 ^ e)
    (hk : k.natAbs ≤ 2 ^ 53) (he : -1074 ≤ e) (he' : e < 900) : value s = q := by
  obtain ⟨y, hy, hvalue⟩ := exists_value_eq hk he he'
  rw [← hq] at hvalue
  rw [← hvalue] at h ⊢
  exact h.value_unique (RoundsTo.self hy)

/-- What is at most a multiple is rounded to at most the multiple. -/
theorem RoundsTo.value_le_multiple (h : RoundsTo q s) (hq : q ≤ k * 2 ^ e)
    (hk : k.natAbs ≤ 2 ^ 53) (he : -1074 ≤ e) (he' : e < 900) : value s ≤ k * 2 ^ e := by
  obtain ⟨y, hy, hvalue⟩ := exists_value_eq hk he he'
  rw [← hvalue] at hq ⊢
  exact h.value_le hy hq

/-- What is at least an integer is rounded to at least the integer. -/
theorem RoundsTo.intCast_le_value (h : RoundsTo q s) (hq : n ≤ q) (hn : n.natAbs ≤ 2 ^ 53) :
    n ≤ value s := by
  obtain ⟨y, hy, hvalue⟩ := exists_value_eq hn (by decide : (-1074 : ℤ) ≤ 0) (by decide)
  rw [zpow_zero, mul_one] at hvalue
  rw [← hvalue] at hq ⊢
  exact h.le_value hy hq

/-! ## Sums with a fine last place -/

/-- Multiples below one half are at least one unit of `2 ^ 53` short of it, but for one number. -/
theorem le_of_below_half (hpos : 0 < k) (hk : k < 2 ^ 53) (h : 2 * k < 2 ^ p)
    (hnot : ¬ (p = 54 ∧ k = 2 ^ 53 - 1)) : k * 2 ^ 53 ≤ (2 ^ 52 - 1) * 2 ^ p := by
  rcases Nat.lt_trichotomy p 54 with hp | rfl | hp
  · -- the unit divides `2 ^ 53`
    obtain ⟨j, rfl⟩ : ∃ j, p = j + 1 := ⟨p - 1, by
      have : p ≠ 0 := by
        rintro rfl
        omega
      omega⟩
    have hle : (2 : ℤ) ^ j ≤ 2 ^ 52 := pow_le_pow_right₀ (by decide) (by omega)
    have hsucc : (2 : ℤ) ^ (j + 1) = 2 ^ j * 2 := pow_succ 2 j
    omega
  · omega
  · have hle : (2 : ℤ) ^ 55 ≤ 2 ^ p := pow_le_pow_right₀ (by decide) (by omega)
    nlinarith

/-- The multiple just below the next integer has 53 binary digits, or is a power of two. -/
theorem natAbs_le_of_fine {P : ℤ} (hP : P = 2 ^ p) (hP4 : 4 ≤ P) (hk : k.natAbs < 2 ^ 53)
    (hn : n ≠ 0) (hlow : n * P < k) (hhigh : 2 * k + P < 2 * ((n + 1) * P)) :
    ((n + 1) * P - 1).natAbs ≤ 2 ^ 53 := by
  rcases Int.lt_or_gt_of_ne hn with hneg | hpos
  · -- below zero the multiple is between the number and zero
    have hle : (n + 1) * P ≤ 0 := Int.mul_nonpos_of_nonpos_of_nonneg (by omega) (by omega)
    omega
  · have hone : P ≤ n * P := le_mul_of_one_le_left (by omega) hpos
    have hp : p ≤ 52 := by
      by_contra hp
      have hle : (2 : ℤ) ^ 53 ≤ 2 ^ p := pow_le_pow_right₀ (by decide) (by omega)
      omega
    have hsplit : (2 : ℤ) ^ 53 = 2 ^ (53 - p) * P := by
      rw [hP, ← pow_add]
      congr 1
      omega
    have hlt : n < 2 ^ (53 - p) := by
      refine lt_of_mul_lt_mul_right ?_ (by omega : 0 ≤ P)
      rw [← hsplit]
      omega
    have hle : (n + 1) * P ≤ 2 ^ 53 := by
      rw [hsplit]
      exact mul_le_mul_of_nonneg_right hlt (by omega)
    have hnonneg : 0 ≤ (n + 1) * P := mul_nonneg (by omega) (by omega)
    omega

/-- At most one half above an integer that is not long, the sum stays below the next one. -/
theorem RoundsTo.lt_of_le (h : RoundsTo (q + 1 / 2) s) (hn : n.natAbs ≤ 2 ^ 51) (hle : q ≤ n) :
    value s < n + 1 := by
  have hbound : value s ≤ (2 * n + 1 : ℤ) * 2 ^ (-1 : ℤ) := by
    refine h.value_le_multiple ?_ (by omega) (by decide) (by decide)
    rw [zpow_neg_one]
    push_cast
    linarith
  rw [zpow_neg_one] at hbound
  push_cast at hbound
  linarith

/-- Above zero and below one half, the sum stays below one. -/
theorem RoundsTo.lt_of_below_half (h : RoundsTo (q + 1 / 2) s) (hq : q = k / 2 ^ p) (hpos : 0 < k)
    (hk : k < 2 ^ 53) (hhalf : 2 * k < 2 ^ p) (hstrays : ¬ Strays q) : value s < 1 := by
  have hnot : ¬ (p = 54 ∧ k = 2 ^ 53 - 1) := by
    rintro ⟨rfl, rfl⟩
    refine hstrays (.inl ?_)
    rw [hq]
    norm_num
  have hbelow : q ≤ (2 ^ 52 - 1) / 2 ^ 53 := by
    rw [hq, div_le_div_iff₀ (by positivity) (by positivity)]
    exact_mod_cast le_of_below_half hpos hk hhalf hnot
  have hbound : value s ≤ (2 ^ 53 - 1 : ℤ) * 2 ^ (-53 : ℤ) := by
    refine h.value_le_multiple ?_ (by decide) (by decide) (by decide)
    norm_num at hbelow ⊢
    linarith
  norm_num at hbound
  linarith

/-- Above another integer and less than one half from it, the sum stays below the next one. -/
theorem RoundsTo.lt_of_next (h : RoundsTo (q + 1 / 2) s) (hq : q = k / 2 ^ p) (hp : 2 ≤ p)
    (hp' : p ≤ 1074) (hk : k.natAbs < 2 ^ 53) (hn : n ≠ 0) (hlow : n * 2 ^ p < k)
    (hhigh : 2 * k + 2 ^ p < 2 * ((n + 1) * 2 ^ p)) : value s < n + 1 := by
  obtain ⟨j, hj⟩ : ∃ j : ℤ, 2 ^ p = 2 * j := ⟨2 ^ (p - 1), by
    rw [← pow_succ']
    congr 1
    omega⟩
  have hP4 : (4 : ℤ) ≤ 2 ^ p := pow_le_pow_right₀ (by decide : (1 : ℤ) ≤ 2) hp
  have hbits := natAbs_le_of_fine rfl hP4 hk hn hlow hhigh
  -- both sides are even, and so at least two apart
  have hbelow : 2 * k + 2 ^ p ≤ 2 * ((n + 1) * 2 ^ p - 1) := by omega
  have hbelow' : (2 * k + 2 ^ p : ℚ) ≤ 2 * ((n + 1) * 2 ^ p - 1) := by exact_mod_cast hbelow
  have hplace : (0 : ℚ) < 2 ^ p := by positivity
  have hbound : value s ≤ ((n + 1) * 2 ^ p - 1 : ℤ) * 2 ^ (-p : ℤ) := by
    refine h.value_le_multiple ?_ hbits (by omega) (by omega)
    rw [hq, zpow_neg, zpow_natCast, ← div_eq_mul_inv, div_add_div _ _ hplace.ne' (by norm_num),
      div_le_div_iff₀ (by positivity) hplace]
    push_cast
    nlinarith
  refine hbound.trans_lt ?_
  rw [zpow_neg, zpow_natCast, ← div_eq_mul_inv, div_lt_iff₀ hplace]
  push_cast
  linarith

/-- The whole part of a number with a last place of a quarter or less is not long. -/
theorem natAbs_floor_le (hq : q = k / 2 ^ p) (hp : 2 ≤ p) (hk : k.natAbs < 2 ^ 53) :
    ⌊q + 1 / 2⌋.natAbs ≤ 2 ^ 51 := by
  have hplace : (0 : ℚ) < 2 ^ p := by positivity
  have hP4 : (4 : ℤ) ≤ 2 ^ p := pow_le_pow_right₀ (by decide : (1 : ℤ) ≤ 2) hp
  have hint : -2 ^ 51 * 2 ^ p < k ∧ k < 2 ^ 51 * 2 ^ p := by omega
  have hlow : -2 ^ 51 < q := by
    rw [hq, lt_div_iff₀ hplace]
    exact_mod_cast hint.1
  have hhigh : q < 2 ^ 51 := by
    rw [hq, div_lt_iff₀ hplace]
    exact_mod_cast hint.2
  have hbelow : -2 ^ 51 ≤ ⌊q + 1 / 2⌋ := Int.le_floor.2 (by push_cast; linarith)
  have habove : ⌊q + 1 / 2⌋ < 2 ^ 51 + 1 := Int.floor_lt.2 (by push_cast; linarith)
  omega

/-- Below the next integer the sum stays below it. -/
theorem RoundsTo.lt_succ_of_fine (h : RoundsTo (q + 1 / 2) s) (hq : q = k / 2 ^ p) (hp : 2 ≤ p)
    (hp' : p ≤ 1074) (hk : k.natAbs < 2 ^ 53) (hn : n.natAbs ≤ 2 ^ 51)
    (hhigh : q + 1 / 2 < n + 1) (hstrays : ¬ Strays q) : value s < n + 1 := by
  have hplace : (0 : ℚ) < 2 ^ p := by positivity
  have hhigh' : 2 * k + 2 ^ p < 2 * ((n + 1) * 2 ^ p) := by
    rw [hq, div_add_div _ _ hplace.ne' (by norm_num), div_lt_iff₀ (by positivity)] at hhigh
    have : (2 * k + 2 ^ p : ℚ) < 2 * ((n + 1) * 2 ^ p) := by linarith
    exact_mod_cast this
  rcases le_or_gt q n with hle | hgt
  · exact h.lt_of_le hn hle
  · have hgt' : n * 2 ^ p < k := by
      rw [hq, lt_div_iff₀ hplace] at hgt
      exact_mod_cast hgt
    by_cases hzero : n = 0
    · subst hzero
      rw [zero_mul] at hgt'
      rw [zero_add, one_mul] at hhigh'
      have hlt := h.lt_of_below_half hq hgt' (by omega) (by omega) hstrays
      rwa [Int.cast_zero, zero_add]
    · exact h.lt_of_next hq hp hp' hk hzero hgt' hhigh'

/-- **With a last place of a quarter or less** the sum keeps its whole part. -/
theorem RoundsTo.floor_of_fine (h : RoundsTo (q + 1 / 2) s) (hq : q = k / 2 ^ p) (hp : 2 ≤ p)
    (hp' : p ≤ 1074) (hk : k.natAbs < 2 ^ 53) (hstrays : ¬ Strays q) :
    ⌊value s⌋ = ⌊q + 1 / 2⌋ := by
  have hn := natAbs_floor_le hq hp hk
  exact Int.floor_eq_iff.2 ⟨h.intCast_le_value (Int.floor_le _) (by omega),
    h.lt_succ_of_fine hq hp hp' hk hn (Int.lt_floor_add_one _) hstrays⟩

/-! ## Sums with a coarse last place -/

/-- What is at most a quarter of a last place away lies in the interval. -/
theorem Dyadic.Canonical.contains_of_quarter {d : Dyadic} {r : ℚ} (hd : d.Canonical)
    (h : |r - d.toRat| ≤ 2 ^ d.exponent / 4) : d.interval.Contains r := by
  have hplace := two_zpow_pos d.exponent
  rw [Dyadic.toRat] at h
  obtain ⟨hlow, hhigh⟩ := abs_le.1 h
  refine contains_of_bounds hd.pos (by linarith) (by linarith)
    (fun _ => ⟨by linarith, by linarith⟩) fun hedge _ => ?_
  rw [hedge] at hlow
  push_cast at hlow
  linarith

/-- What is at most one half away from an even number of 53 binary digits lies in its interval. -/
theorem exists_contains_even {m : ℕ} {r : ℚ} (heven : m % 2 = 0) (hlow : 2 ^ 52 ≤ m)
    (hhigh : m ≤ 2 ^ 53) (hnear : |r - m| ≤ 1 / 2) (hr : 2 ^ 52 ≤ r) :
    ∃ d : Dyadic, ∃ _ : d.Canonical, d.interval.Contains r ∧ d.toRat = m := by
  obtain ⟨hbelow, habove⟩ := abs_le.1 hnear
  rcases hhigh.lt_or_eq with hlt | rfl
  · have hd : (Dyadic.mk m 0).Canonical :=
      ⟨by dsimp only; omega, hlt, by dsimp only; omega, by dsimp only; omega, .inl hlow⟩
    refine ⟨_, hd, contains_of_bounds hd.pos ?_ ?_ ?_ ?_, ?_⟩
    · rw [zpow_zero]
      linarith
    · rw [zpow_zero]
      linarith
    · intro hodd
      dsimp only at hodd
      omega
    · intro _ _
      rw [zpow_zero]
      linarith
    · rw [Dyadic.toRat, zpow_zero, mul_one]
  · -- the next power of two has a coarser last place
    have hd : (Dyadic.mk (2 ^ 52) 1).Canonical :=
      ⟨by decide, by decide, by decide, by decide, .inl le_rfl⟩
    have hvalue : (Dyadic.mk (2 ^ 52) 1).toRat = (2 ^ 53 : ℕ) := by
      rw [Dyadic.toRat, zpow_one]
      norm_num
    refine ⟨_, hd, hd.contains_of_quarter ?_, hvalue⟩
    rw [hvalue]
    exact hnear.trans (by norm_num)

/-- What is near an integer other than zero has its sign, and is as near in magnitude. -/
theorem signed_abs_of_near (hk : k ≠ 0) (hnear : |q - k| ≤ 1 / 2) :
    signed (k < 0) |q| = q ∧ |(|q| - (k.natAbs : ℕ))| = |q - k| := by
  obtain ⟨hbelow, habove⟩ := abs_le.1 hnear
  rcases lt_or_ge k 0 with hneg | hpos
  · have hk' : (k : ℚ) ≤ -1 := by exact_mod_cast (by omega : k ≤ -1)
    have hcast : ((k.natAbs : ℕ) : ℚ) = -k := by
      rw [← Int.cast_natCast, ← Int.cast_neg]
      exact congrArg Int.cast (by omega)
    rw [decide_eq_true hneg, signed_true, abs_of_neg (by linarith : q < 0), neg_neg, hcast,
      neg_sub_neg, abs_sub_comm]
    exact ⟨rfl, rfl⟩
  · have hk' : (1 : ℚ) ≤ k := by exact_mod_cast (by omega : 1 ≤ k)
    have hcast : ((k.natAbs : ℕ) : ℚ) = k := by
      rw [← Int.cast_natCast]
      exact congrArg Int.cast (by omega)
    rw [decide_eq_false hpos.not_gt, signed_false, abs_of_pos (by linarith : 0 < q), hcast]
    exact ⟨rfl, rfl⟩

/-- What is at most one half away from an even integer of 53 binary digits is rounded to it. -/
theorem RoundsTo.value_eq_even (h : RoundsTo q s) (heven : k % 2 = 0) (hlow : 2 ^ 52 ≤ |k|)
    (hhigh : |k| ≤ 2 ^ 53) (hnear : |q - k| ≤ 1 / 2) (hq : 2 ^ 52 ≤ |q|) : value s = k := by
  rw [Int.abs_eq_natAbs] at hlow hhigh
  obtain ⟨hsign, hdistance⟩ := signed_abs_of_near (by omega) hnear
  rw [← hdistance] at hnear
  obtain ⟨d, hd, hcontains, hvalue⟩ := exists_contains_even (by omega : k.natAbs % 2 = 0)
    (by omega) (by omega) hnear hq
  have hrounds : RoundsTo q (ofMagnitude (k < 0) d hd.pos) :=
    .magnitude _ hd hcontains hsign.symm
  rw [h.value_unique hrounds, hd.value_ofMagnitude, hvalue, signed_natAbs]

/-- Adding to a number changes its magnitude by as much. -/
theorem abs_signed_add_sub (negative : Bool) (a b : ℚ) :
    |signed negative (signed negative a + b) - a| = |b| := by
  cases negative with
  | false => rw [signed_false, signed_false, add_sub_cancel_left]
  | true =>
    rw [signed_true, signed_true, neg_add, neg_neg, add_sub_cancel_left, abs_neg]

/-- Two signs are none. -/
theorem signed_signed (negative : Bool) (q : ℚ) : signed negative (signed negative q) = q := by
  cases negative with
  | false => rfl
  | true => exact neg_neg q

/-- Beyond `2 ^ 53` the last place is two at least. -/
theorem Dyadic.Canonical.exponent_pos {d : Dyadic} (hd : d.Canonical) (hlarge : 2 ^ 53 ≤ d.toRat) :
    0 < d.exponent := by
  by_contra hsmall
  have hone : (2 : ℚ) ^ d.exponent ≤ 1 := zpow_le_one_of_nonpos₀ (by norm_num) (by omega)
  have hlt : (d.mantissa : ℚ) < 2 ^ 53 := by exact_mod_cast hd.lt
  have hle : d.toRat ≤ d.mantissa := mul_le_of_le_one_right (by positivity) hone
  linarith

/-- Beyond `2 ^ 53` one half is too little to change a number. -/
theorem roundsTo_half_of_large (hx : Finite x) (hlarge : 2 ^ 53 ≤ |value x|) :
    RoundsTo (value x + 1 / 2) x := by
  cases hx.view with
  | zero negative =>
    rw [value_withSign_zero, abs_zero] at hlarge
    norm_num at hlarge
  | @magnitude negative d hd =>
    rw [hd.value_ofMagnitude] at hlarge ⊢
    rw [abs_signed, abs_of_pos hd.toRat_pos] at hlarge
    have hplace : (2 : ℚ) ^ (1 : ℤ) ≤ 2 ^ d.exponent :=
      zpow_le_zpow_right₀ (by norm_num) (hd.exponent_pos hlarge)
    refine .magnitude negative hd (hd.contains_of_quarter ?_) (signed_signed _ _).symm
    rw [abs_signed_add_sub, abs_of_pos (by norm_num)]
    rw [zpow_one] at hplace
    linarith

/-- **The sum with one half can be rounded.** -/
theorem exists_roundsTo_half (hx : Finite x) : ∃ s, RoundsTo (value x + 1 / 2) s := by
  rcases le_or_gt (2 ^ 53) |value x| with hlarge | hsmall
  · exact ⟨x, roundsTo_half_of_large hx hlarge⟩
  · obtain ⟨k, e, hq, -, he, -⟩ := hx.exists_multiple
    -- the sum is a multiple of the least power of two
    obtain ⟨t, ht⟩ : ∃ t : ℕ, e = t + -1074 := ⟨(e + 1074).toNat, by omega⟩
    have hhalf : (1 / 2 : ℚ) = 2 ^ 1073 * 2 ^ (-1074 : ℤ) := by
      rw [← zpow_natCast, ← zpow_add₀ (by norm_num),
        show ((1073 : ℕ) : ℤ) + -1074 = -1 from rfl, zpow_neg_one, one_div]
    have hsum : value x + 1 / 2 = (k * 2 ^ t + 2 ^ 1073 : ℤ) * 2 ^ (-1074 : ℤ) := by
      rw [hq, ht, hhalf, zpow_add₀ (by norm_num), zpow_natCast, ← mul_assoc, ← add_mul,
        Int.cast_add, Int.cast_mul, Int.cast_pow, Int.cast_pow, Int.cast_ofNat]
    refine exists_roundsTo ?_ ?_
    · rw [hsum]
      rcases eq_or_ne (k * 2 ^ t + 2 ^ 1073) 0 with hzero | hne
      · exact .inl (by rw [hzero, Int.cast_zero, zero_mul])
      · right
        rw [abs_mul, abs_of_pos (two_zpow_pos (-1074))]
        exact le_mul_of_one_le_left (two_zpow_pos _).le (by exact_mod_cast Int.one_le_abs hne)
    · calc |value x + 1 / 2| ≤ |value x| + |1 / 2| := abs_add_le _ _
        _ < 2 ^ 53 + 1 := add_lt_add hsmall (by norm_num)
        _ ≤ 2 ^ (54 : ℤ) := by norm_num
        _ ≤ 2 ^ (900 : ℤ) := zpow_le_zpow_right₀ (by norm_num) (by decide)

/-! ## The whole part of the sum -/

/-- The whole part of an integer and one half. -/
theorem floor_intCast_add_half (k : ℤ) : ⌊(k : ℚ) + 1 / 2⌋ = k :=
  Int.floor_eq_iff.2 ⟨by linarith, by linarith⟩

/-- One half does not take a long integer below `2 ^ 52`, unless it is the greatest negative one. -/
theorem le_abs_add_half (hlarge : 2 ^ 52 ≤ |k|) (hne : k ≠ -2 ^ 52) :
    2 ^ 52 ≤ |(k : ℚ) + 1 / 2| := by
  rw [Int.abs_eq_natAbs] at hlarge
  rcases lt_or_ge k 0 with hneg | hpos
  · have hk : (k : ℚ) ≤ -2 ^ 52 - 1 := by exact_mod_cast (by omega : k ≤ -2 ^ 52 - 1)
    exact le_abs.2 (.inr (by linarith))
  · have hk : (2 ^ 52 : ℚ) ≤ k := by exact_mod_cast (by omega : 2 ^ 52 ≤ k)
    exact le_abs.2 (.inl (by linarith))

/-- **With a last place of one** the sum keeps its whole part. -/
theorem RoundsTo.floor_of_units (h : RoundsTo (k + 1 / 2) s) (hlow : 2 ^ 52 ≤ |k|)
    (hhigh : |k| < 2 ^ 53) (hstrays : ¬ Strays k) : ⌊value s⌋ = ⌊(k : ℚ) + 1 / 2⌋ := by
  by_cases hleast : k = -2 ^ 52
  · -- one half more has one binary digit less before the point
    have hsum : (k : ℚ) + 1 / 2 = (2 * k + 1 : ℤ) * 2 ^ (-1 : ℤ) := by
      rw [zpow_neg_one]
      push_cast
      ring
    rw [h.value_eq_multiple hsum (by omega) (by decide) (by decide)]
  · have heven : k % 2 = 0 := by
      by_contra hodd
      refine hstrays (.inr ⟨k, rfl, by omega, lt_of_le_of_ne hlow fun heq => ?_, hhigh⟩)
      rw [Int.abs_eq_natAbs] at heq
      omega
    have hnear : |(k : ℚ) + 1 / 2 - k| ≤ 1 / 2 := by
      rw [add_sub_cancel_left, abs_of_pos (by norm_num)]
    rw [h.value_eq_even heven hlow hhigh.le hnear (le_abs_add_half hlow hleast),
      Int.floor_intCast, floor_intCast_add_half]

/-- **With a last place of two or more** the sum keeps its whole part. -/
theorem RoundsTo.floor_of_large (hx : Finite x) (h : RoundsTo (value x + 1 / 2) s)
    (hq : value x = k * 2 ^ e) (hk : 2 ^ 52 ≤ |k|) (he : 0 < e) :
    ⌊value s⌋ = ⌊value x + 1 / 2⌋ := by
  have hwhole : value x = (k * 2 ^ e.toNat : ℤ) := by
    rw [hq, Int.cast_mul, Int.cast_pow, Int.cast_ofNat, ← zpow_natCast,
      Int.toNat_of_nonneg he.le]
  have hlarge : 2 ^ 53 ≤ |value x| := by
    have hk' : (2 : ℚ) ^ 52 ≤ |(k : ℚ)| := by exact_mod_cast hk
    have hplace : (2 : ℚ) ^ (1 : ℤ) ≤ 2 ^ e := zpow_le_zpow_right₀ (by norm_num) he
    rw [hq, abs_mul, abs_of_pos (two_zpow_pos e)]
    calc (2 : ℚ) ^ 53 = 2 ^ 52 * 2 ^ (1 : ℤ) := by norm_num
      _ ≤ |(k : ℚ)| * 2 ^ e := mul_le_mul hk' hplace (two_zpow_pos 1).le (abs_nonneg _)
  rw [h.value_unique (roundsTo_half_of_large hx hlarge), hwhole, Int.floor_intCast,
    floor_intCast_add_half]

/-- **At the numbers that do not stray** the sum has the whole part that it should have. -/
theorem RoundsTo.floor_half (hx : Finite x) (h : RoundsTo (value x + 1 / 2) s)
    (hstrays : ¬ Strays (value x)) : ⌊value s⌋ = ⌊value x + 1 / 2⌋ := by
  obtain ⟨k, e, hq, hk, he, hfull⟩ := hx.exists_multiple
  have hlong : e ≠ -1074 → 2 ^ 52 ≤ |k| := fun hne => by
    have := hfull.resolve_right hne
    rw [Int.abs_eq_natAbs]
    omega
  -- by the last place: a quarter or less, one half, one, two or more
  rcases lt_trichotomy e 0 with hneg | rfl | hpos
  · rcases lt_or_ge e (-1) with hfine | hcoarse
    · refine h.floor_of_fine (k := k) (p := (-e).toNat) ?_ (by omega) (by omega) hk hstrays
      rw [hq, ← zpow_natCast, Int.toNat_of_nonneg (by omega), zpow_neg, div_inv_eq_mul]
    · -- halves are added exactly
      obtain rfl : e = -1 := by omega
      have hsum : value x + 1 / 2 = (k + 1 : ℤ) * 2 ^ (-1 : ℤ) := by
        rw [hq, zpow_neg_one]
        push_cast
        ring
      rw [h.value_eq_multiple hsum (by omega) he (by decide)]
  · rw [zpow_zero, mul_one] at hq
    rw [hq] at h hstrays ⊢
    exact h.floor_of_units (hlong (by decide)) (by rw [Int.abs_eq_natAbs]; omega) hstrays
  · exact h.floor_of_large hx hq (hlong (by omega)) hpos

/-- **At the numbers that stray** the sum is the next whole number. -/
theorem RoundsTo.floor_half_of_strays (h : RoundsTo (q + 1 / 2) s) (hstrays : Strays q) :
    ⌊value s⌋ = ⌊q + 1 / 2⌋ + 1 := by
  rcases hstrays with rfl | ⟨k, rfl, hodd, hlow, hhigh⟩
  · have hd : (Dyadic.mk (2 ^ 52) (-52)).Canonical :=
      ⟨by decide, by decide, by decide, by decide, .inl le_rfl⟩
    have hone : (Dyadic.mk (2 ^ 52) (-52)).toRat = 1 := by
      rw [Dyadic.toRat]
      norm_num
    have hcontains : (Dyadic.mk (2 ^ 52) (-52)).interval.Contains (1 / 2 - 1 / 2 ^ 54 + 1 / 2) := by
      refine hd.contains_of_quarter ?_
      rw [hone]
      norm_num
    have hvalue := h.value_unique (.magnitude false hd hcontains rfl)
    rw [hd.value_ofMagnitude, signed_false, hone] at hvalue
    rw [hvalue, Int.floor_one]
    norm_num
  · -- in the middle of two integers, of which the next one is even
    have hne : k ≠ -2 ^ 52 := by
      rintro rfl
      exact absurd hodd (by decide)
    have hbig := le_abs_add_half hlow.le hne
    rw [Int.abs_eq_natAbs] at hlow hhigh
    have hnear : |(k : ℚ) + 1 / 2 - (k + 1 : ℤ)| ≤ 1 / 2 := by
      rw [abs_le]
      push_cast
      exact ⟨by linarith, by linarith⟩
    have hvalue := h.value_eq_even (by omega) (by rw [Int.abs_eq_natAbs]; omega)
      (by rw [Int.abs_eq_natAbs]; omega) hnear hbig
    rw [hvalue, Int.floor_intCast, floor_intCast_add_half]

/-- One half is a floating-point number. -/
theorem value_one_half : Finite 0.5 ∧ value 0.5 = 1 / 2 := by
  have hsign : isNegative 0.5 = false := by decide +kernel
  have hmagnitude : magnitude 0.5 = ⟨2 ^ 52, -53⟩ := by decide +kernel
  refine ⟨⟨by decide +kernel, by decide +kernel⟩, ?_⟩
  rw [value, hsign, hmagnitude, signed_false, Dyadic.toRat]
  norm_num

/-- **Rounding halves up** gives the nearest whole number, and the next one for the numbers that
stray. -/
theorem value_floor_half (hx : Finite x) : Finite (floor (x + 0.5)) ∧
    (¬ Strays (value x) → value (floor (x + 0.5)) = ⌊value x + 1 / 2⌋) ∧
    (Strays (value x) → value (floor (x + 0.5)) = ⌊value x + 1 / 2⌋ + 1) := by
  obtain ⟨hhalf, hvalue⟩ := value_one_half
  obtain ⟨s, hs⟩ := exists_roundsTo_half hx
  rw [← hvalue] at hs
  have hsum := roundsTo_add hx hhalf hs
  rw [hvalue] at hsum
  obtain ⟨hfinite, hfloor⟩ := value_floor hsum.finite
  refine ⟨hfinite, fun hnot => ?_, fun hstrays => ?_⟩
  · rw [hfloor, hsum.floor_half hx hnot]
  · rw [hfloor, hsum.floor_half_of_strays hstrays, Int.cast_add, Int.cast_one]

end SolutionAlgebra.Decimal
