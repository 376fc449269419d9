import SolutionAlgebra.Proofs.Decimal.Nearest

/-! # The shortest digits read back

Whatever grid the shortest digits are found on, the number that they write lies in the interval of
the magnitude, so that it is read as this magnitude. On the finest grid that is tried the two
neighbours of a magnitude are closer to each other than the ends of its interval, so that one of
them lies in it.

* **`Interval.holds_iff`** — the integer test for the points of a grid.
* **`Dyadic.Canonical.decimalExponent_bounds`** — the least power of ten above a magnitude.
* **`Dyadic.Canonical.contains_shortest`** — the shortest digits write a number in the interval.
* **`Dyadic.Canonical.shortest_exponent_nonneg_iff`** — they do without a fraction if and only if
  the magnitude is a whole number. -/

namespace SolutionAlgebra.Decimal

/-! ## Points of a grid -/

/-- The denominator of a ratio is positive. -/
theorem ratio_snd_pos (n : ℕ) (two ten : ℤ) : 0 < (ratio n two ten).2 := by
  show 0 < 2 ^ (-two).toNat * 10 ^ ten.toNat
  positivity

/-- A power of which one of two exponents is zero. -/
theorem zpow_eq_div {b : ℚ} (hb : b ≠ 0) (k : ℤ) : b ^ k = b ^ k.toNat / b ^ (-k).toNat := by
  rw [← zpow_natCast, ← zpow_natCast, ← zpow_sub₀ hb]
  congr 1
  omega

/-- A ratio is the quotient that it stands for. -/
theorem ratio_fst (n : ℕ) (two ten : ℤ) :
    ((ratio n two ten).1 : ℚ) = n * 2 ^ two / 10 ^ ten * (ratio n two ten).2 := by
  show ((n * 2 ^ two.toNat * 10 ^ (-ten).toNat : ℕ) : ℚ) =
    n * 2 ^ two / 10 ^ ten * (2 ^ (-two).toNat * 10 ^ ten.toNat : ℕ)
  rw [zpow_eq_div (by norm_num) two, zpow_eq_div (by norm_num) ten]
  push_cast
  field_simp

/-- A whole quotient is at most one below the quotient. -/
theorem div_bounds {n unit : ℕ} {x : ℚ} (hunit : 0 < unit) (h : (n : ℚ) = x * unit) :
    ((n / unit : ℕ) : ℚ) ≤ x ∧ x < (n / unit : ℕ) + 1 := by
  have hunit' : (0 : ℚ) < unit := by exact_mod_cast hunit
  have hlow : ((n / unit : ℕ) : ℚ) * unit ≤ n := by exact_mod_cast Nat.div_mul_le_self n unit
  have hhigh : (n : ℚ) < ((n / unit : ℕ) + 1) * unit := by
    exact_mod_cast Nat.lt_mul_of_div_lt (Nat.lt_succ_self _) hunit
  rw [h] at hlow hhigh
  exact ⟨le_of_mul_le_mul_right hlow hunit', lt_of_mul_lt_mul_right hhigh hunit'.le⟩

namespace Interval

variable {i : Interval} {ten : ℤ} {point : ℕ}

/-- A point of a grid passes the test of an interval if and only if it lies in it. -/
theorem holds_iff : i.holds ten point = true ↔ i.Contains (point * 10 ^ ten) := by
  have hunit : (0 : ℚ) < (ratio i.low i.exponent ten).2 := by exact_mod_cast ratio_snd_pos _ _ _
  have hten := zpow_pos (by norm_num : (0 : ℚ) < 10) ten
  have hlow := ratio_fst i.low i.exponent ten
  have hhigh : ((ratio i.high i.exponent ten).1 : ℚ) =
      i.high * 2 ^ i.exponent / 10 ^ ten * (ratio i.low i.exponent ten).2 :=
    ratio_fst i.high i.exponent ten
  unfold holds Contains
  dsimp only
  split
  all_goals
    rw [Bool.and_eq_true, decide_eq_true_iff, decide_eq_true_iff]
    simp only [← Nat.cast_le (α := ℚ), ← Nat.cast_lt (α := ℚ), Nat.cast_mul]
    rw [hlow, hhigh]
  · rw [mul_le_mul_iff_of_pos_right hunit, mul_le_mul_iff_of_pos_right hunit, div_le_iff₀ hten,
      le_div_iff₀ hten]
  · rw [mul_lt_mul_iff_of_pos_right hunit, mul_lt_mul_iff_of_pos_right hunit, div_lt_iff₀ hten,
      lt_div_iff₀ hten]

/-- A neighbour that is found passes the test and is not zero. -/
theorem holds_of_pointOn? (h : i.pointOn? ten = some point) :
    i.holds ten point = true ∧ point ≠ 0 := by
  unfold pointOn? at h
  dsimp only at h
  split at h
  · next hbelow habove =>
    rw [Bool.and_eq_true, bne_iff_ne] at hbelow
    obtain rfl := Option.some_inj.1 h
    split
    · exact hbelow
    · exact ⟨habove, Nat.succ_ne_zero _⟩
  · next hbelow _ =>
    rw [Bool.and_eq_true, bne_iff_ne] at hbelow
    obtain rfl := Option.some_inj.1 h
    exact hbelow
  · next habove =>
    obtain rfl := Option.some_inj.1 h
    exact ⟨habove, Nat.succ_ne_zero _⟩
  · exact absurd h (by simp)

/-- Where no neighbour is found, the value has none in the interval but zero. -/
theorem not_holds_of_pointOn? (h : i.pointOn? ten = none) :
    let below := (ratio i.value i.exponent ten).1 / (ratio i.value i.exponent ten).2
    (below = 0 ∨ ¬ i.holds ten below) ∧ ¬ i.holds ten (below + 1) := by
  unfold pointOn? at h
  dsimp only at h ⊢
  split at h
  · exact absurd h (by simp)
  · exact absurd h (by simp)
  · exact absurd h (by simp)
  · next hbelow habove =>
    refine ⟨?_, by rw [habove]; decide⟩
    rw [Bool.and_eq_false_iff, bne_eq_false_iff_eq] at hbelow
    exact hbelow.symm.imp_right fun h => by rw [h]; decide

end Interval

/-- Writing ten points as one of the next grid does not change the number. -/
theorem Scaled.ofPoint_value (point : ℕ) (ten : ℤ) :
    ((Scaled.ofPoint point ten).digits : ℚ) * 10 ^ (Scaled.ofPoint point ten).exponent =
      point * 10 ^ ten := by
  unfold Scaled.ofPoint
  split
  · next h =>
    rw [beq_iff_eq] at h
    subst h
    rw [zpow_add₀ (by norm_num)]
    push_cast
    ring
  · rfl

/-! ## Shortest digits -/

/-- The count of digits of a positive number tells between which powers of ten it lies. -/
theorem digitCount_bounds {n : ℕ} (hn : 0 < n) :
    10 ^ (digitCount n - 1) ≤ n ∧ n < 10 ^ digitCount n ∧ 0 < digitCount n := by
  have hpos : 0 < digitCount n := Nat.length_toDigits_pos
  refine ⟨?_, (Nat.length_toDigits_le_iff (by decide) hpos).1 le_rfl, hpos⟩
  obtain hone | hmore : digitCount n = 1 ∨ 0 < digitCount n - 1 := by omega
  · rw [hone]
    exact hn
  · refine Nat.le_of_not_lt fun hlt => ?_
    have : digitCount n ≤ digitCount n - 1 :=
      (Nat.length_toDigits_le_iff (by decide) hmore).2 hlt
    omega

/-- A number between whole powers of ten, by the count of digits of its whole part. -/
theorem between_powers {n : ℕ} {x : ℚ} (hn : 0 < n) (hlow : n ≤ x) (hhigh : x < n + 1) :
    10 ^ ((digitCount n : ℤ) - 1) ≤ x ∧ x < 10 ^ (digitCount n : ℤ) := by
  obtain ⟨hleast, hgreatest, hpos⟩ := digitCount_bounds hn
  have hleast' : (10 : ℚ) ^ (digitCount n - 1) ≤ n := by exact_mod_cast hleast
  have hgreatest' : (n : ℚ) + 1 ≤ 10 ^ digitCount n := by exact_mod_cast hgreatest
  constructor
  · rw [show (digitCount n : ℤ) - 1 = (digitCount n - 1 : ℕ) by omega, zpow_natCast]
    exact hleast'.trans hlow
  · rw [zpow_natCast]
    exact hhigh.trans_le hgreatest'

namespace Dyadic

variable {d : Dyadic}

/-- The denominator of the remainder is positive. -/
theorem unit_pos (d : Dyadic) : 0 < d.unit := by
  unfold unit
  split
  · exact Nat.one_pos
  · exact Nat.pow_pos (by decide)

/-- The last place, where it is a fraction. -/
theorem two_zpow_eq_unit (h : d.exponent < 0) : (2 : ℚ) ^ d.exponent = 1 / d.unit := by
  rw [unit, if_neg (by omega), zpow_eq_div (by norm_num), show d.exponent.toNat = 0 by omega,
    pow_zero]
  show _ = 1 / ((2 ^ (-d.exponent).toNat : ℕ) : ℚ)
  push_cast
  rfl

/-- The whole part and the remainder make up the magnitude. -/
theorem toRat_eq (d : Dyadic) : d.toRat = d.whole + d.remainder / d.unit := by
  obtain h | h := le_or_gt 0 d.exponent
  · unfold toRat whole remainder
    rw [if_pos h, if_pos h, Nat.cast_zero, zero_div, add_zero]
    conv_lhs => rw [← Int.toNat_of_nonneg h, zpow_natCast]
    show _ = ((d.mantissa * 2 ^ d.exponent.toNat : ℕ) : ℚ)
    push_cast
    rfl
  · have hunit : (d.unit : ℚ) ≠ 0 := by exact_mod_cast d.unit_pos.ne'
    rw [toRat, two_zpow_eq_unit h, ← d.whole_mul_unit_add_remainder h]
    push_cast
    field_simp

/-- The remainder is smaller than its denominator. -/
theorem remainder_lt (d : Dyadic) : d.remainder < d.unit := by
  unfold remainder unit
  split
  · exact Nat.one_pos
  · exact Nat.mod_lt _ (Nat.pow_pos (by decide))

/-- The whole part of a magnitude is less than one below it. -/
theorem whole_bounds (d : Dyadic) : (d.whole : ℚ) ≤ d.toRat ∧ d.toRat < d.whole + 1 := by
  have hunit : (0 : ℚ) < d.unit := by exact_mod_cast d.unit_pos
  have hlt : (d.remainder : ℚ) < d.unit := by exact_mod_cast d.remainder_lt
  have hfraction : (d.remainder : ℚ) / d.unit < 1 := (div_lt_one hunit).2 hlt
  have hnonneg : (0 : ℚ) ≤ d.remainder / d.unit := by positivity
  rw [toRat_eq]
  constructor <;> linarith

/-- A magnitude without a remainder is a whole number. -/
theorem toRat_of_whole (h : d.remainder = 0) : d.toRat = d.whole := by
  rw [toRat_eq, h, Nat.cast_zero, zero_div, add_zero]

/-- A magnitude of at least one has a whole part. -/
theorem whole_pos (h : d.unit ≤ d.mantissa) (hpos : 0 < d.mantissa) : 0 < d.whole := by
  unfold unit at h
  unfold whole
  split at h
  · next hexponent =>
    rw [if_pos hexponent]
    exact Nat.mul_pos hpos (Nat.pow_pos (by decide))
  · next hexponent =>
    rw [if_neg hexponent]
    exact Nat.div_pos h (Nat.pow_pos (by decide))

namespace Canonical

/-- The least power of ten above a magnitude is less than ten times as large. -/
theorem decimalExponent_bounds (hd : d.Canonical) :
    10 ^ (d.decimalExponent - 1) ≤ d.toRat ∧ d.toRat < 10 ^ d.decimalExponent := by
  unfold decimalExponent
  split
  · next h => exact between_powers (whole_pos h hd.pos) d.whole_bounds.1 d.whole_bounds.2
  · dsimp only
    -- the magnitude is counted in units so small that it has a whole part
    have hunit := ratio_snd_pos d.mantissa d.exponent (-400)
    have hratio := ratio_fst d.mantissa d.exponent (-400)
    obtain ⟨hlow, hhigh⟩ := div_bounds hunit hratio
    have hscale : (0 : ℚ) < 10 ^ (-400 : ℤ) := zpow_pos (by norm_num) _
    have hleast : (10 : ℚ) ^ (-400 : ℤ) ≤ d.mantissa * 2 ^ d.exponent := by
      have hmantissa : (1 : ℚ) ≤ d.mantissa := by exact_mod_cast hd.pos
      calc (10 : ℚ) ^ (-400 : ℤ) ≤ 2 ^ (-1074 : ℤ) := by
            rw [zpow_neg, zpow_neg]
            exact inv_anti₀ (two_zpow_pos 1074) (by exact_mod_cast
              (by decide +kernel : 2 ^ 1074 ≤ 10 ^ 400))
        _ ≤ 2 ^ d.exponent := zpow_le_zpow_right₀ (by norm_num) hd.least
        _ ≤ d.mantissa * 2 ^ d.exponent := le_mul_of_one_le_left (two_zpow_pos _).le hmantissa
    have hwhole : 0 < (ratio d.mantissa d.exponent (-400)).1 /
        (ratio d.mantissa d.exponent (-400)).2 := by
      have hone := (one_le_div hscale).2 hleast
      refine Nat.pos_of_ne_zero fun hzero => ?_
      rw [hzero] at hhigh
      norm_num only at hhigh
      linarith
    obtain ⟨hleast, hgreatest⟩ := between_powers hwhole hlow hhigh
    rw [le_div_iff₀ hscale, ← zpow_add₀ (by norm_num)] at hleast
    rw [div_lt_iff₀ hscale, ← zpow_add₀ (by norm_num)] at hgreatest
    rw [sub_right_comm]
    exact ⟨hleast, hgreatest⟩

/-- A magnitude in quarters of its last place. -/
theorem toRat_eq_value (d : Dyadic) :
    d.toRat = d.interval.value * 2 ^ d.interval.exponent := by
  show _ = ((4 * d.mantissa : ℕ) : ℚ) * _
  rw [two_zpow_interval, toRat]
  push_cast
  ring

/-- With seventeen digits, one step of the grid is shorter than the interval. -/
theorem width (hd : d.Canonical) :
    4 * d.mantissa + 10 ^ 16 * d.interval.low < 10 ^ 16 * d.interval.high := by
  have hlt := hd.lt
  have hpos := hd.pos
  show 4 * d.mantissa + 10 ^ 16 * (4 * d.mantissa -
    (if d.mantissa == 2 ^ 52 && d.exponent != -1074 then 1 else 2)) <
      10 ^ 16 * (4 * d.mantissa + 2)
  split
  · next hedge =>
    rw [Bool.and_eq_true, beq_iff_eq] at hedge
    omega
  · omega

/-- On a grid of seventeen digits a neighbour of a magnitude reads back. -/
theorem exists_pointOn? (hd : d.Canonical) {ten : ℤ} (hstep : 10 ^ ten * 10 ^ 16 ≤ d.toRat) :
    ∃ point, d.interval.pointOn? ten = some point := by
  cases hfound : d.interval.pointOn? ten with
  | some point => exact ⟨point, rfl⟩
  | none =>
    obtain ⟨hbelow, habove⟩ := Interval.not_holds_of_pointOn? hfound
    have hratio := ratio_fst d.interval.value d.interval.exponent ten
    rw [← toRat_eq_value] at hratio
    obtain ⟨hlow, hhigh⟩ := div_bounds (ratio_snd_pos _ _ _) hratio
    generalize (ratio d.interval.value d.interval.exponent ten).1 /
      (ratio d.interval.value d.interval.exponent ten).2 = below at hbelow habove hlow hhigh
    have hten := zpow_pos (by norm_num : (0 : ℚ) < 10) ten
    rw [le_div_iff₀ hten] at hlow
    rw [div_lt_iff₀ hten] at hhigh
    have hquarter := two_zpow_pos d.interval.exponent
    have hwidth : (4 * d.mantissa + 10 ^ 16 * d.interval.low : ℚ) < 10 ^ 16 * d.interval.high := by
      exact_mod_cast hd.width
    have hvalue : d.toRat = 4 * d.mantissa * 2 ^ d.interval.exponent := by
      rw [toRat_eq_value]
      show ((4 * d.mantissa : ℕ) : ℚ) * _ = _
      push_cast
      rfl
    -- neither neighbour lies between the ends, so that the ends lie between the neighbours
    have hends := hd.between_ends
    have hleft : (below * 10 ^ ten : ℚ) ≤ d.interval.low * 2 ^ d.interval.exponent := by
      obtain rfl | hbelow := hbelow
      · exfalso
        norm_num at hhigh
        linarith
      · refine le_of_not_gt fun hlt => hbelow (Interval.holds_iff.2 ?_)
        exact Interval.contains_of_lt hlt (hlow.trans_lt hends.2)
    have hright : (d.interval.high * 2 ^ d.interval.exponent : ℚ) ≤ (below + 1) * 10 ^ ten := by
      refine le_of_not_gt fun hlt => habove (Interval.holds_iff.2 ?_)
      push_cast
      exact Interval.contains_of_lt (hends.1.trans hhigh) hlt
    have := mul_lt_mul_of_pos_right hwidth hquarter
    linarith

/-- The first grid of a row that has a neighbour which reads back. -/
theorem first_of_findSome? {f : ℕ → Option α} {count : ℕ} {a : α}
    (h : (List.range count).findSome? f = some a) :
    ∃ n < count, f n = some a ∧ ∀ k < n, f k = none := by
  obtain ⟨coarser, n, finer, hrange, hn, hnone⟩ := List.findSome?_eq_some_iff.1 h
  rw [List.range_eq_range', List.range'_eq_append_iff] at hrange
  obtain ⟨k, hk, rfl, hrange⟩ := hrange
  obtain ⟨rfl, hpos, -⟩ := List.range'_eq_cons_iff.1 hrange.symm
  refine ⟨_, ?_, hn, fun i hi => hnone i (List.mem_range'.2 ⟨i, ?_, ?_⟩)⟩ <;> omega

/-- The shortest digits come from the coarsest grid that has a neighbour which reads back. -/
theorem exists_shortest (hd : d.Canonical) :
    ∃ n < maxDigits, ∃ point,
      d.interval.pointOn? (d.decimalExponent - (n + 1)) = some point ∧
      d.shortest = Scaled.ofPoint point (d.decimalExponent - (n + 1)) ∧
      ∀ k < n, d.interval.pointOn? (d.decimalExponent - (k + 1)) = none := by
  unfold shortest
  dsimp only
  cases hfound : (List.range maxDigits).findSome? fun (n : ℕ) =>
      (d.interval.pointOn? (d.decimalExponent - ((n : ℤ) + 1))).map fun point =>
        Scaled.ofPoint point (d.decimalExponent - ((n : ℤ) + 1)) with
  | some s =>
    obtain ⟨n, hn, hsome, hnone⟩ := first_of_findSome? hfound
    obtain ⟨point, hpoint, rfl⟩ := Option.map_eq_some_iff.1 hsome
    exact ⟨n, hn, point, hpoint, rfl, fun k hk => Option.map_eq_none_iff.1 (hnone k hk)⟩
  | none =>
    -- the finest grid has one
    have hnone := List.findSome?_eq_none_iff.1 hfound 16 (by decide)
    obtain ⟨point, hpoint⟩ :
        ∃ point, d.interval.pointOn? (d.decimalExponent - 17) = some point := by
      refine hd.exists_pointOn? ?_
      rw [← zpow_natCast, ← zpow_add₀ (by norm_num)]
      convert hd.decimalExponent_bounds.1 using 2
      push_cast
      ring
    rw [show ((16 : ℕ) : ℤ) + 1 = 17 by rfl, hpoint] at hnone
    exact absurd hnone (by simp)

/-- **The shortest digits of a magnitude write a number in its interval.** -/
theorem contains_shortest (hd : d.Canonical) :
    d.interval.Contains (d.shortest.digits * 10 ^ d.shortest.exponent) := by
  obtain ⟨n, -, point, hpoint, hshortest, -⟩ := hd.exists_shortest
  rw [hshortest, Scaled.ofPoint_value]
  exact Interval.holds_iff.1 (Interval.holds_of_pointOn? hpoint).1

/-- A whole number is at least one. -/
theorem whole_pos_of_whole (hd : d.Canonical) (h : d.remainder = 0) : 0 < d.whole := by
  have hpos : 0 < d.toRat := mul_pos (by exact_mod_cast hd.pos) (two_zpow_pos _)
  rw [toRat_of_whole h] at hpos
  exact_mod_cast hpos

/-- A whole number is a point of the grid of whole numbers. -/
theorem pointOn?_whole (hd : d.Canonical) (h : d.remainder = 0) :
    d.interval.pointOn? 0 ≠ none := by
  intro hnone
  obtain ⟨hbelow, -⟩ := Interval.not_holds_of_pointOn? hnone
  have hratio := ratio_fst d.interval.value d.interval.exponent 0
  rw [← toRat_eq_value, zpow_zero, div_one] at hratio
  obtain ⟨hlow, hhigh⟩ := div_bounds (ratio_snd_pos _ _ _) hratio
  generalize (ratio d.interval.value d.interval.exponent 0).1 /
    (ratio d.interval.value d.interval.exponent 0).2 = below at hbelow hlow hhigh
  have hwhole := toRat_of_whole h
  rw [hwhole] at hlow hhigh
  have hlow : below ≤ d.whole := by exact_mod_cast hlow
  have hhigh : d.whole < below + 1 := by exact_mod_cast hhigh
  obtain rfl : below = d.whole := by omega
  refine hbelow.elim (hd.whole_pos_of_whole h).ne' fun hnot => hnot (Interval.holds_iff.2 ?_)
  rw [zpow_zero, mul_one, ← hwhole]
  exact hd.contains_toRat

/-- Only one whole number may lie in the interval of a magnitude: the magnitude. -/
theorem eq_of_contains_whole (hd : d.Canonical) {n : ℕ} (h : d.interval.Contains n) :
    d.remainder = 0 := by
  obtain hexponent | hexponent := le_or_gt 0 d.exponent
  · rw [remainder, if_pos hexponent]
  · have hunit : (0 : ℚ) < d.unit := by exact_mod_cast d.unit_pos
    obtain ⟨hlow, hhigh⟩ := hd.near_of_contains h
    rw [two_zpow_eq_unit hexponent, mul_one_div, div_le_iff₀ hunit] at hlow
    rw [two_zpow_eq_unit hexponent, mul_one_div, le_div_iff₀ hunit] at hhigh
    -- in units of the last place both are integers, and they are at most a half apart
    have hlow : 2 * d.mantissa ≤ 2 * (n * d.unit) + 1 := by
      rw [← Nat.cast_le (α := ℚ)]
      push_cast
      linarith
    have hhigh : 2 * (n * d.unit) ≤ 2 * d.mantissa + 1 := by
      rw [← Nat.cast_le (α := ℚ)]
      push_cast
      linarith
    have hequal : d.mantissa = n * d.unit := by omega
    unfold unit at hequal
    rw [if_neg (by omega)] at hequal
    rw [remainder, if_neg (by omega), hequal]
    exact Nat.mul_mod_left _ _

/-- **The shortest digits have no fraction if and only if the magnitude is a whole number.** -/
theorem shortest_exponent_nonneg_iff (hd : d.Canonical) :
    0 ≤ d.shortest.exponent ↔ d.remainder = 0 := by
  constructor
  · intro hexponent
    have h := hd.contains_shortest
    rw [← Int.toNat_of_nonneg hexponent, zpow_natCast] at h
    exact hd.eq_of_contains_whole (by exact_mod_cast h)
  · intro hwhole
    obtain ⟨n, hn, point, -, hshortest, hcoarser⟩ := hd.exists_shortest
    have hten : 0 ≤ d.decimalExponent - ((n : ℤ) + 1) := by
      by_contra hnegative
      -- a whole number has digits before the point, and would be found on the grid of the integers
      have htop : 0 < d.decimalExponent := by
        by_contra htop
        have hone : (1 : ℚ) ≤ d.whole := by exact_mod_cast hd.whole_pos_of_whole hwhole
        have hlt := hd.decimalExponent_bounds.2
        rw [toRat_of_whole hwhole] at hlt
        have := zpow_le_one_of_nonpos₀ (by norm_num : (1 : ℚ) ≤ 10) (by omega :
          d.decimalExponent ≤ 0)
        linarith
      have hnone := hcoarser (d.decimalExponent - 1).toNat (by omega)
      rw [Int.toNat_of_nonneg (by omega), sub_add_cancel, sub_self] at hnone
      exact hd.pointOn?_whole hwhole hnone
    rw [hshortest, Scaled.ofPoint]
    split
    · show 0 ≤ _ + 1
      omega
    · exact hten

end Canonical

end Dyadic

end SolutionAlgebra.Decimal
