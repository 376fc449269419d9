import SolutionAlgebra.Proofs.Decimal.Notation
import SolutionAlgebra.Proofs.Decimal.Operations

/-! # Integers as floating-point numbers

An integer of up to 53 binary digits is a floating-point number. Of a longer one the first 53 digits
are kept: it is rounded to the nearest multiple of the power of two that takes the place of the last
of them, and of two equally near multiples to the even one.

* **`rounded`** — the integer that an integer is rounded to.
* **`exists_roundsTo_rounded`** — it is the value of the floating-point number.
* **`nearestInt?_eq_some`** — a number whose value is an integer is nearest to it. -/

namespace SolutionAlgebra.Decimal

/-! ## Rounded integers -/

/-- The multiple of a step that is nearest to a number, in steps; of two, the even one. -/
def nearestMultiple (step n : ℕ) : ℕ :=
  let below := n / step
  let rest := n % step
  if 2 * rest < step ∨ 2 * rest = step ∧ below % 2 = 0 then below else below + 1

/-- The place of the 53rd binary digit of a number, counted from the first one; of a shorter number,
the place of the last digit. -/
def lastPlace (n : ℕ) : ℕ := n.log2 - 52

/-- A natural number rounded to its first 53 binary digits. -/
def roundedNat (n : ℕ) : ℕ := nearestMultiple (2 ^ lastPlace n) n * 2 ^ lastPlace n

/-- An integer rounded to its first 53 binary digits. -/
def rounded (n : ℤ) : ℤ := if n < 0 then -roundedNat n.natAbs else roundedNat n.natAbs

variable {n m k step : ℕ}

/-- The nearest multiple is the one below or the next one, and at most half a step away. -/
theorem nearestMultiple_spec (hstep : 0 < step) :
    let q := nearestMultiple step n
    (q = n / step ∧ q * step ≤ n ∨ q = n / step + 1) ∧
      2 * (q * step) ≤ 2 * n + step ∧ 2 * n ≤ 2 * (q * step) + step ∧
      (q % 2 = 1 → 2 * (q * step) < 2 * n + step ∧ 2 * n < 2 * (q * step) + step) := by
  have hsplit := Nat.div_add_mod' n step
  have hrest := Nat.mod_lt n hstep
  unfold nearestMultiple
  dsimp only
  split
  · next hnear =>
    refine ⟨.inl ⟨rfl, ?_⟩, ?_, ?_, fun hodd => ?_⟩ <;> omega
  · next hfar =>
    rw [Nat.add_one_mul]
    refine ⟨.inr rfl, ?_, ?_, fun hodd => ?_⟩ <;> omega

/-- A number of up to 53 binary digits is kept. -/
theorem roundedNat_of_lt (h : n < 2 ^ 53) : roundedNat n = n := by
  have hplace : lastPlace n = 0 := by
    rcases Nat.eq_zero_or_pos n with rfl | hn
    · rfl
    · have hlog := (Nat.log2_lt hn.ne').2 h
      rw [lastPlace]
      omega
  rw [roundedNat, hplace, nearestMultiple, pow_zero, Nat.mod_one, Nat.div_one]
  simp

/-- **An integer of up to 53 binary digits is kept**, and so is `2 ^ 53`. -/
theorem rounded_of_le {a : ℤ} (h : a.natAbs ≤ 2 ^ 53) : rounded a = a := by
  have hnat : roundedNat a.natAbs = a.natAbs := by
    rcases h.lt_or_eq with hlt | heq
    · exact roundedNat_of_lt hlt
    · rw [heq]
      decide +kernel
  rw [rounded, hnat]
  split <;> omega

/-- A rounded number is less than twice as large. -/
theorem roundedNat_le (n : ℕ) : roundedNat n ≤ 2 * n := by
  rcases Nat.eq_zero_or_pos n with rfl | hn
  · decide
  · obtain ⟨-, hhigh, -⟩ := @nearestMultiple_spec n _ (Nat.two_pow_pos (lastPlace n))
    have hplace : 2 ^ lastPlace n ≤ n :=
      (Nat.pow_le_pow_right (by decide) (Nat.sub_le _ _)).trans (Nat.log2_self_le hn.ne')
    rw [roundedNat]
    omega

/-- A rounded integer is less than twice as large. -/
theorem natAbs_rounded_le (a : ℤ) : (rounded a).natAbs ≤ 2 * a.natAbs := by
  have hle := roundedNat_le a.natAbs
  unfold rounded
  split <;> omega

/-! ## Integers in intervals -/

/-- An integer at most half a last place away from a magnitude lies in its interval. -/
theorem contains_of_near (hm : 0 < m) (hlow : 2 * (m * 2 ^ k) ≤ 2 * n + 2 ^ k)
    (hhigh : 2 * n ≤ 2 * (m * 2 ^ k) + 2 ^ k)
    (hodd : m % 2 = 1 → 2 * (m * 2 ^ k) < 2 * n + 2 ^ k ∧ 2 * n < 2 * (m * 2 ^ k) + 2 ^ k)
    (hedge : m = 2 ^ 52 → 4 * (m * 2 ^ k) ≤ 4 * n + 2 ^ k) :
    (Dyadic.mk m k).interval.Contains n := by
  have hplace : (2 : ℚ) ^ (Dyadic.mk m k).interval.exponent = 2 ^ k / 4 := by
    rw [Dyadic.Canonical.two_zpow_interval]
    exact congrArg (· / 4) (zpow_natCast 2 k)
  have hbottom : ((Dyadic.mk m k).interval.low : ℚ) = 4 * m - if m = 2 ^ 52 then 1 else 2 := by
    have hexponent : ((k : ℤ) != -1074) = true := bne_iff_ne.2 (by omega)
    show ((4 * m - if m == 2 ^ 52 && (k : ℤ) != -1074 then 1 else 2 : ℕ) : ℚ) = _
    rw [hexponent, Bool.and_true, Nat.cast_sub (by split <;> omega)]
    simp only [beq_iff_eq]
    split <;> push_cast <;> rfl
  have hlow' : (2 * (m * 2 ^ k) : ℚ) ≤ 2 * n + 2 ^ k := by exact_mod_cast hlow
  have hhigh' : (2 * n : ℚ) ≤ 2 * (m * 2 ^ k) + 2 ^ k := by exact_mod_cast hhigh
  unfold Interval.Contains
  rw [hplace, hbottom, Dyadic.Canonical.high_eq]
  dsimp only
  split
  · split
    · next hm =>
      have hedge' : (4 * (m * 2 ^ k) : ℚ) ≤ 4 * n + 2 ^ k := by exact_mod_cast hedge hm
      constructor <;> linarith
    · constructor <;> linarith
  · -- an odd mantissa, which is not the power of two either
    next hclosed =>
    have hparity : m % 2 = 1 := by
      have : ¬ (m % 2 == 0) = true := hclosed
      rw [beq_iff_eq] at this
      omega
    obtain ⟨hlow, hhigh⟩ := hodd hparity
    have hlow' : (2 * (m * 2 ^ k) : ℚ) < 2 * n + 2 ^ k := by exact_mod_cast hlow
    have hhigh' : (2 * n : ℚ) < 2 * (m * 2 ^ k) + 2 ^ k := by exact_mod_cast hhigh
    rw [if_neg (by rintro rfl; exact absurd hparity (by decide))]
    constructor <;> linarith

/-- **A natural number lies in the interval of a magnitude**, which is what it is rounded to. -/
theorem exists_magnitude (hn : 0 < n) (hlt : n < 2 ^ 200) :
    ∃ d : Dyadic, ∃ _ : d.Canonical, d.interval.Contains n ∧ d.toRat = roundedNat n := by
  by_cases hshort : n < 2 ^ 53
  · have hd := canonical_ofNatMagnitude hn hshort
    have hvalue := toRat_ofNatMagnitude hshort hn
    exact ⟨_, hd, hvalue ▸ hd.contains_toRat, by rw [hvalue, roundedNat_of_lt hshort]⟩
  · have hlog : n.log2 < 200 := (Nat.log2_lt hn.ne').2 hlt
    have hlog' : 53 ≤ n.log2 := (Nat.le_log2 hn.ne').2 (by omega)
    have hstep := Nat.two_pow_pos (lastPlace n)
    obtain ⟨hmultiple, hlow, hhigh, hodd⟩ := @nearestMultiple_spec n _ hstep
    -- what is below takes up exactly 53 binary digits
    have hbelow : 2 ^ 52 ≤ n / 2 ^ lastPlace n := by
      rw [Nat.le_div_iff_mul_le hstep, ← pow_add, lastPlace, Nat.add_sub_cancel' (by omega)]
      exact Nat.log2_self_le hn.ne'
    have habove : n / 2 ^ lastPlace n < 2 ^ 53 := by
      rw [Nat.div_lt_iff_lt_mul hstep, ← pow_add, lastPlace,
        show 53 + (n.log2 - 52) = n.log2 + 1 by omega]
      exact Nat.lt_log2_self
    have hvalue : ∀ {m k : ℕ}, (Dyadic.mk m k).toRat = (m * 2 ^ k : ℕ) := by
      intro m k
      rw [Dyadic.toRat, Nat.cast_mul, Nat.cast_pow, Nat.cast_ofNat, ← zpow_natCast]
    rw [roundedNat]
    have hplace : lastPlace n = n.log2 - 52 := rfl
    generalize nearestMultiple (2 ^ lastPlace n) n = q at *
    by_cases hcarry : q = 2 ^ 53
    · -- rounded up to a power of two, which takes up one more bit
      subst hcarry
      refine ⟨⟨2 ^ 52, (lastPlace n + 1 : ℕ)⟩, ⟨Nat.two_pow_pos 52,
        Nat.pow_lt_pow_right (by decide) (by decide), ?_, ?_, .inl le_rfl⟩, ?_, ?_⟩
      · show (-1074 : ℤ) ≤ (lastPlace n + 1 : ℕ)
        omega
      · show ((lastPlace n + 1 : ℕ) : ℤ) ≤ 971
        omega
      · refine contains_of_near (by decide) ?_ ?_ (fun h => absurd h (by decide)) fun _ => ?_ <;>
          rw [pow_succ] <;> omega
      · rw [hvalue, pow_succ]
        congr 1
        ring
    · refine ⟨⟨q, lastPlace n⟩, ⟨?_, ?_, ?_, ?_, .inl ?_⟩, ?_, hvalue⟩
      · show 0 < q
        omega
      · show q < 2 ^ 53
        omega
      · show (-1074 : ℤ) ≤ lastPlace n
        omega
      · show (lastPlace n : ℤ) ≤ 971
        omega
      · show 2 ^ 52 ≤ q
        omega
      · refine contains_of_near (by omega) hlow hhigh hodd fun hedge => ?_
        -- the least full mantissa is not rounded up to
        rcases hmultiple with ⟨-, hle⟩ | hnext
        · omega
        · omega

/-! ## Integers as numbers -/

variable {a b : ℤ} {x : Float}

/-- An integer is its natural number with its sign. -/
theorem signed_natAbs (a : ℤ) : signed (a < 0) (a.natAbs : ℕ) = a := by
  rw [← Int.cast_natCast]
  by_cases h : a < 0
  · rw [decide_eq_true h, signed_true, ← Int.cast_neg]
    exact congrArg Int.cast (by omega)
  · rw [decide_eq_false h, signed_false]
    exact congrArg Int.cast (by omega)

/-- A rounded integer is its rounded natural number with its sign. -/
theorem signed_roundedNat (a : ℤ) : signed (a < 0) (roundedNat a.natAbs : ℕ) = rounded a := by
  unfold rounded
  split
  · next h => rw [decide_eq_true h, signed_true, Int.cast_neg, Int.cast_natCast]
  · next h => rw [decide_eq_false h, signed_false, Int.cast_natCast]

/-- **The number nearest to an integer** stands for the rounded integer. -/
theorem exists_roundsTo_rounded (ha : a.natAbs < 2 ^ 200) :
    ∃ x, RoundsTo a x ∧ value x = rounded a := by
  rcases Nat.eq_zero_or_pos a.natAbs with hzero | hpos
  · obtain rfl := Int.natAbs_eq_zero.1 hzero
    exact ⟨_, .zero false Int.cast_zero, value_withSign_zero false⟩
  · obtain ⟨d, hd, hcontains, hvalue⟩ := exists_magnitude hpos ha
    refine ⟨_, .magnitude (a < 0) hd hcontains (signed_natAbs a).symm, ?_⟩
    rw [hd.value_ofMagnitude, hvalue, signed_roundedNat]

/-- What an integer is rounded to stands for the rounded integer. -/
theorem RoundsTo.value_eq (h : RoundsTo a x) (ha : a.natAbs < 2 ^ 200) : value x = rounded a := by
  obtain ⟨y, hy, hvalue⟩ := exists_roundsTo_rounded ha
  rw [h.value_unique hy, hvalue]

/-- An integer is read as the number nearest to it. -/
theorem roundsTo_nearest (ha : a.natAbs < 2 ^ 200) (negative : Bool)
    (hsign : a ≠ 0 → negative = decide (a < 0)) :
    RoundsTo a (withSign negative (nearest a.natAbs 0)) := by
  rcases Nat.eq_zero_or_pos a.natAbs with hzero | hpos
  · obtain rfl := Int.natAbs_eq_zero.1 hzero
    rw [Int.natAbs_zero, nearest_zero]
    exact .zero negative Int.cast_zero
  · obtain ⟨d, hd, hcontains, -⟩ := exists_magnitude hpos ha
    have hnearest : nearest a.natAbs 0 = ofMagnitude false d hd.pos :=
      hd.nearest_eq (by rwa [zpow_zero, mul_one])
    have hwithSign : withSign negative (ofMagnitude false d hd.pos) =
        ofMagnitude negative d hd.pos := by
      cases negative with
      | false => rfl
      | true => exact hd.neg_ofMagnitude false
    rw [hnearest, hwithSign]
    refine .magnitude negative hd hcontains ?_
    rw [hsign (Int.natAbs_pos.1 hpos), signed_natAbs]

/-- A number and what it is rounded to are less than twice as large as each other. -/
theorem RoundsTo.abs_bounds {q : ℚ} (h : RoundsTo q x) :
    |q| ≤ 2 * |value x| ∧ |value x| ≤ 2 * |q| := by
  cases h with
  | zero negative hq =>
    rw [hq, value_withSign_zero, abs_zero, mul_zero]
    exact ⟨le_rfl, le_rfl⟩
  | @magnitude negative d hd r hr hq =>
    have habs : ∀ {p : ℚ}, 0 < p → |signed negative p| = p := by
      intro p hp
      cases negative with
      | false => exact abs_of_pos hp
      | true => rw [signed_true, abs_neg, abs_of_pos hp]
    rw [hq, hd.value_ofMagnitude, habs (hd.pos_of_contains hr), habs hd.toRat_pos, Dyadic.toRat]
    obtain ⟨hlow, hhigh⟩ := hd.near_of_contains hr
    -- half a last place is at most half of the magnitude
    have hplace := mul_le_mul_of_nonneg_right
      (by exact_mod_cast hd.pos : (1 : ℚ) ≤ d.mantissa) (two_zpow_pos d.exponent).le
    constructor <;> linarith

/-- Integers that are rounded to one number are of one size. -/
theorem RoundsTo.natAbs_le (ha : RoundsTo a x) (hb : RoundsTo b x) : b.natAbs ≤ 4 * a.natAbs := by
  have hrat : |(b : ℚ)| ≤ 4 * |(a : ℚ)| := by linarith [hb.abs_bounds.1, ha.abs_bounds.2]
  have hint : |b| ≤ 4 * |a| := by exact_mod_cast hrat
  rw [Int.abs_eq_natAbs, Int.abs_eq_natAbs] at hint
  omega

/-! ## Texts of integers -/

/-- Digits after an optional sign make up an integer. -/
theorem exists_digits_of_readInt? {cs : List Char} (h : readInt? cs = some a) :
    ∃ negative digits, readSign cs = (negative, digits) ∧ digits ≠ [] ∧ IsDigits digits ∧
      a.natAbs = digitsValue digits ∧ (a ≠ 0 → negative = decide (a < 0)) := by
  rw [readInt?_eq] at h
  obtain ⟨n, hn, ha⟩ := Option.map_eq_some_iff.1 h
  rcases hsign : readSign cs with ⟨negative, digits⟩
  rw [hsign] at hn ha
  dsimp only at hn ha
  unfold readNat? at hn
  split at hn
  · next hdigits =>
    obtain rfl := Option.some.inj hn
    have hsplit : a.natAbs = digitsValue digits ∧ (a ≠ 0 → negative = decide (a < 0)) := by
      cases negative with
      | false =>
        rw [if_neg Bool.false_ne_true] at ha
        exact ⟨by omega, fun _ => (decide_eq_false (by omega)).symm⟩
      | true =>
        rw [if_pos rfl] at ha
        exact ⟨by omega, fun _ => (decide_eq_true (by omega)).symm⟩
    exact ⟨negative, digits, rfl, hdigits.1, List.all_eq_true.1 hdigits.2, hsplit⟩
  · cases hn

/-- **A text of an integer is read as the number nearest to the integer.** -/
theorem exists_read?_of_readInt? {cs : List Char} (h : readInt? cs = some a)
    (ha : a.natAbs < 2 ^ 200) : ∃ x, read? cs = some x ∧ RoundsTo a x := by
  obtain ⟨negative, digits, hsign, hne, hdigits, hvalue, hnegative⟩ := exists_digits_of_readInt? h
  refine ⟨_, ?_, roundsTo_nearest ha negative hnegative⟩
  have hread := (Positional.whole hdigits hne).readUnsigned?_eq ends_nil (by simp)
  rw [List.append_nil] at hread
  rw [read?, hsign]
  dsimp only
  rw [hread, hvalue]
  rfl

/-- The digits of a multiple of a power of ten end with zeros. -/
theorem digitChars_append_zeros (hn : 0 < n) (k : ℕ) :
    digitChars n ++ List.replicate k '0' = digitChars (n * 10 ^ k) := by
  induction k with
  | zero => rw [List.replicate_zero, List.append_nil, pow_zero, mul_one]
  | succ k ih =>
    have hpos : 0 < n * 10 ^ k := Nat.mul_pos hn (Nat.pow_pos (by decide))
    rw [List.replicate_succ', ← List.append_assoc, ih, pow_succ, ← mul_assoc, mul_comm _ 10]
    exact Nat.toDigits_append_toDigits (by decide) hpos (by decide : 0 < 10)

/-- The natural number that a decimal number without a fraction is. -/
def Scaled.natural (s : Scaled) : ℕ := s.digits * 10 ^ s.exponent.toNat

namespace Dyadic.Canonical

variable {d : Dyadic}

/-- The shortest digits of a whole number make up a natural number in its interval. -/
theorem contains_natural (hd : d.Canonical) (hwhole : d.remainder = 0) :
    d.interval.Contains d.shortest.natural := by
  have hcontains := hd.contains_shortest
  rw [← Int.toNat_of_nonneg (hd.shortest_exponent_nonneg_iff.2 hwhole), zpow_natCast] at hcontains
  exact_mod_cast hcontains

/-- A canonical whole number is positive. -/
theorem natural_pos (hd : d.Canonical) (hwhole : d.remainder = 0) : 0 < d.shortest.natural := by
  exact_mod_cast hd.pos_of_contains (hd.contains_natural hwhole)

/-- Written positionally, they are the digits of this number. -/
theorem positional_shortest (hd : d.Canonical) (hwhole : d.remainder = 0) :
    d.shortest.positional = digitChars d.shortest.natural := by
  rw [Scaled.positional, if_pos (hd.shortest_exponent_nonneg_iff.2 hwhole)]
  exact digitChars_append_zeros (Nat.pos_of_mul_pos_right (hd.natural_pos hwhole)) _

/-- **The shortest digits of a whole number up to `2 ^ 53` are its own.** -/
theorem natural_eq (hd : d.Canonical) (hwhole : d.remainder = 0) (hle : d.toRat ≤ 2 ^ 53) :
    (d.shortest.natural : ℚ) = d.toRat := by
  have hplace := two_zpow_pos d.exponent
  rcases le_or_gt d.exponent 0 with hexponent | hexponent
  · -- numbers in the interval are less than one away
    have hone : (2 : ℚ) ^ d.exponent ≤ 1 := zpow_le_one_of_nonpos₀ (by norm_num) hexponent
    obtain ⟨hlow, hhigh⟩ := hd.near_of_contains (hd.contains_natural hwhole)
    have htoRat : (d.mantissa : ℚ) * 2 ^ d.exponent = d.whole := toRat_of_whole hwhole
    have hlow' : (d.whole : ℚ) < d.shortest.natural + 1 := by linarith
    have hhigh' : (d.shortest.natural : ℚ) < d.whole + 1 := by linarith
    have hlow'' : d.whole < d.shortest.natural + 1 := by exact_mod_cast hlow'
    have hhigh'' : d.shortest.natural < d.whole + 1 := by exact_mod_cast hhigh'
    rw [toRat_of_whole hwhole, show d.shortest.natural = d.whole by omega]
  · -- only the power of two is left
    have hfull : (2 : ℚ) ^ 52 ≤ d.mantissa := by
      exact_mod_cast hd.full.resolve_right (by omega)
    have htwo : (2 : ℚ) ≤ 2 ^ d.exponent := by
      have := zpow_le_zpow_right₀ (by norm_num : (1 : ℚ) ≤ 2) (by omega : 1 ≤ d.exponent)
      rwa [zpow_one] at this
    have hmantissa : d.mantissa = 2 ^ 52 := by
      have hle' : (d.mantissa : ℚ) * 2 ≤ 2 ^ 53 :=
        (mul_le_mul_of_nonneg_left htwo (by positivity)).trans hle
      have hle'' : (d.mantissa : ℚ) ≤ 2 ^ 52 := by linarith
      exact le_antisymm (by exact_mod_cast hle'') (by exact_mod_cast hfull)
    have hexponent' : d.exponent = 1 := by
      have hle' : (2 : ℚ) ^ d.exponent ≤ 2 ^ (1 : ℤ) := by
        rw [toRat, hmantissa] at hle
        push_cast at hle
        rw [zpow_one]
        linarith
      have := (zpow_le_zpow_iff_right₀ (by norm_num)).1 hle'
      omega
    obtain ⟨mantissa, exponent⟩ := d
    dsimp only at hmantissa hexponent'
    subst hmantissa hexponent'
    have hshortest : (Dyadic.mk (2 ^ 52) 1).shortest.natural = 2 ^ 53 := by decide +kernel
    rw [hshortest, toRat]
    norm_num

end Dyadic.Canonical

/-! ## Numbers as integers -/

/-- A magnitude that is a whole number is its whole part, with nothing left. -/
theorem Dyadic.eq_whole {d : Dyadic} {n : ℤ} (h : d.toRat = n) : d.whole = n ∧ d.remainder = 0 := by
  obtain ⟨hlow, hhigh⟩ := d.whole_bounds
  have hwhole : (d.whole : ℤ) = n := by
    rw [h] at hlow hhigh
    have hlow' : (d.whole : ℤ) ≤ n := by exact_mod_cast hlow
    have hhigh' : n < d.whole + 1 := by exact_mod_cast hhigh
    omega
  have hunit : (d.unit : ℚ) ≠ 0 := by exact_mod_cast d.unit_pos.ne'
  have htoRat := d.toRat_eq
  rw [h, ← hwhole, Int.cast_natCast, left_eq_add, div_eq_zero_iff, or_iff_left hunit] at htoRat
  exact ⟨hwhole, by exact_mod_cast htoRat⟩

/-- **The nearest integer of a number whose value is an integer** is its value. -/
theorem nearestInt?_eq_some (hx : Finite x) (h : value x = a) : nearestInt? x = some a := by
  have hvalue : (magnitude x).toRat = ((if isNegative x then -a else a : ℤ) : ℚ) := by
    rw [value] at h
    cases hsign : isNegative x with
    | false => simpa [hsign] using h
    | true => simpa [hsign, neg_eq_iff_eq_neg] using h
  obtain ⟨hwhole, hremainder⟩ := Dyadic.eq_whole hvalue
  have hcut : ¬ (magnitude x).unit ≤ 2 * 0 := (magnitude x).unit_pos.not_ge
  rw [nearestInt?, hx.isNaN, hx.isInf, Bool.or_self, if_neg Bool.false_ne_true]
  dsimp only
  rw [hremainder, if_neg hcut, hwhole]
  cases isNegative x with
  | false => rfl
  | true => exact congrArg some (neg_neg a)

/-- The number of an integer is the nearest one to it. -/
theorem roundsTo_ofInt (ha : a.natAbs < 2 ^ 200) : RoundsTo a (ofInt a) :=
  roundsTo_nearest ha _ fun _ => rfl

/-- Rounding keeps on which side of one an integer is. -/
theorem RoundsTo.lt_one_iff (h : RoundsTo a x) (ha : a.natAbs ≤ 2 ^ 53) : x < 1 ↔ a < 1 := by
  have hone : RoundsTo (1 : ℤ) (1 : Float) := roundsTo_ofInt (by decide)
  rw [lt_iff_value h.finite hone.finite, h.value_eq (by omega), hone.value_eq (by decide),
    rounded_of_le ha, rounded_of_le (by decide), Int.cast_lt]

end SolutionAlgebra.Decimal
