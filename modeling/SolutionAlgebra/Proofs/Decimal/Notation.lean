import SolutionAlgebra.Proofs.Decimal.Digits
import SolutionAlgebra.Proofs.Decimal.Shortest

/-! # Written numbers read back

A number is written as digits with at most one point among them, and scientifically with an
exponent after them. Reading takes the same parts off again and finds the decimal number that was
written, which lies in the interval of the number, so that this is the number that is read.

* **`Positional`** — the texts of digits with at most one point, and what they stand for.
* **`Positional.read?_eq`** — how such a text is read, with a sign and an exponent.
* **`read?_positional`**, **`read?_scientific`** — a finite number reads back from either
  notation. -/

namespace SolutionAlgebra.Decimal

open Float.Model

/-- A text of digits with at most one point among them, the number that its digits stand for, and
the count of digits after the point. -/
inductive Positional : List Char → ℕ → ℕ → Prop where
  /-- Digits without a point. -/
  | whole {cs : List Char} (hdigits : IsDigits cs) (hne : cs ≠ []) :
      Positional cs (digitsValue cs) 0
  /-- Digits with a point among them. -/
  | pointed {cs ds : List Char} (hwhole : IsDigits cs) (hne : cs ≠ []) (hfraction : IsDigits ds)
      (hne' : ds ≠ []) : Positional (cs ++ '.' :: ds) (digitsValue (cs ++ ds)) ds.length

namespace Positional

variable {cs rest : List Char} {digits places : ℕ}

/-- The text starts with a digit. -/
theorem first (h : Positional cs digits places) : ∃ c ds, cs = c :: ds ∧ isDigit c = true := by
  cases h with
  | whole hdigits hne =>
    obtain ⟨c, ds, rfl⟩ := List.exists_cons_of_ne_nil hne
    exact ⟨c, ds, rfl, hdigits c List.mem_cons_self⟩
  | pointed hwhole hne _ _ =>
    obtain ⟨c, ds, rfl⟩ := List.exists_cons_of_ne_nil hne
    exact ⟨c, _, rfl, hwhole c List.mem_cons_self⟩

/-- The text has nothing but digits and a point. -/
theorem mem (h : Positional cs digits places) {c : Char} (hc : c ∈ cs) :
    isDigit c = true ∨ c = '.' := by
  cases h with
  | whole hdigits _ => exact .inl (hdigits c hc)
  | pointed hwhole _ hfraction _ =>
    rw [List.mem_append, List.mem_cons] at hc
    obtain hc | rfl | hc := hc
    · exact .inl (hwhole c hc)
    · exact .inr rfl
    · exact .inl (hfraction c hc)

/-- The text has as many points as there are, at most one. -/
theorem count_point (h : Positional cs digits places) :
    cs.count '.' = if places = 0 then 0 else 1 := by
  cases h with
  | whole hdigits _ => rw [hdigits.count_point, if_pos rfl]
  | pointed hwhole _ hfraction hne' =>
    rw [List.count_append, List.count_cons_self, hwhole.count_point, hfraction.count_point,
      if_neg (fun hzero => hne' (List.length_eq_zero_iff.1 hzero))]

/-- What is read of the text, if it goes on with neither a digit nor a point. -/
theorem readUnsigned?_eq (h : Positional cs digits places) (hends : Ends rest)
    (hpoint : rest.head? ≠ some '.') :
    readUnsigned? (cs ++ rest) =
      (readExponent? rest).map fun exponent => nearest digits (exponent - places) := by
  unfold readUnsigned?
  cases h with
  | whole hdigits hne =>
    rw [spanDigits_append hdigits hends]
    have hempty : cs.isEmpty = false := List.isEmpty_eq_false_iff.2 hne
    dsimp only
    split
    · exact absurd rfl hpoint
    · rw [hempty, List.append_nil]
      rfl
  | @pointed cs ds hwhole hne hfraction _ =>
    have hempty : cs.isEmpty = false := List.isEmpty_eq_false_iff.2 hne
    rw [List.append_assoc, List.cons_append,
      spanDigits_append hwhole (ends_cons.2 (by decide))]
    show (if cs.isEmpty && (spanDigits (ds ++ rest)).1.isEmpty then none
      else (readExponent? (spanDigits (ds ++ rest)).2).map fun exponent =>
        nearest (digitsValue (cs ++ (spanDigits (ds ++ rest)).1))
          (exponent - (spanDigits (ds ++ rest)).1.length)) = _
    rw [spanDigits_append hfraction hends, hempty]
    rfl

/-- **A text of digits with at most one point, with or without a minus sign.** -/
theorem read?_eq (h : Positional cs digits places) (negative : Bool) {exponent : ℤ}
    (hends : Ends rest) (hpoint : rest.head? ≠ some '.')
    (hexponent : readExponent? rest = some exponent) :
    read? (if negative then '-' :: (cs ++ rest) else cs ++ rest) =
      some (withSign negative (nearest digits (exponent - places))) := by
  have hsign : readSign (if negative then '-' :: (cs ++ rest) else cs ++ rest) =
      (negative, cs ++ rest) := by
    cases negative with
    | true => rfl
    | false =>
      obtain ⟨c, ds, rfl, hc⟩ := h.first
      exact readSign_of_digit hc
  rw [read?, hsign]
  dsimp only
  rw [h.readUnsigned?_eq hends hpoint, hexponent]
  rfl

end Positional

/-! ## The notations -/

/-- The digits of a number make up a text without a point. -/
theorem positional_digitChars (n : ℕ) : Positional (digitChars n) n 0 := by
  simpa using Positional.whole (isDigits_digitChars n) (digitChars_ne_nil n)

/-- A point among the digits of a number. -/
theorem positional_pointed {cs : List Char} (h : IsDigits cs) {places : ℕ} (hpos : 0 < places) :
    Positional (pointed cs places) (digitsValue cs) places := by
  unfold pointed
  -- zeros in front leave at least one digit before the point
  set padded := List.replicate (places + 1 - cs.length) '0' ++ cs with hpadded
  have hdigits : IsDigits padded := isDigits_append.2 ⟨isDigits_replicate _, h⟩
  have hlength : places + 1 ≤ padded.length := by
    rw [hpadded, List.length_append, List.length_replicate]
    omega
  have hvalue : digitsValue cs = digitsValue
      (padded.take (padded.length - places) ++ padded.drop (padded.length - places)) := by
    rw [List.take_append_drop, hpadded, digitsValue_zeros_append]
  have hplaces : places = (padded.drop (padded.length - places)).length := by
    rw [List.length_drop]
    omega
  rw [hvalue]
  conv => arg 3; rw [hplaces]
  refine .pointed (fun c hc => hdigits c (List.mem_of_mem_take hc)) (List.ne_nil_of_length_pos ?_)
    (fun c hc => hdigits c (List.mem_of_mem_drop hc)) (List.ne_nil_of_length_pos (by omega))
  rw [List.length_take]
  omega

namespace Scaled

/-- A number written positionally, without a point if and only if it has no fraction. -/
theorem positional_eq (s : Scaled) : ∃ digits, Positional s.positional digits (-s.exponent).toNat ∧
    (digits : ℚ) * 10 ^ (-((-s.exponent).toNat : ℤ)) = s.digits * 10 ^ s.exponent := by
  unfold positional
  split
  · next h =>
    have htext : Positional (digitChars s.digits ++ List.replicate s.exponent.toNat '0')
        (s.digits * 10 ^ s.exponent.toNat) 0 := by
      have := Positional.whole
        (isDigits_append.2 ⟨isDigits_digitChars s.digits, isDigits_replicate s.exponent.toNat⟩)
        (List.append_ne_nil_of_left_ne_nil (digitChars_ne_nil _) _)
      rwa [digitsValue_append_zeros, digitsValue_digitChars] at this
    rw [show (-s.exponent).toNat = 0 by omega]
    refine ⟨_, htext, ?_⟩
    conv_rhs => rw [← Int.toNat_of_nonneg h, zpow_natCast]
    push_cast
    simp
  · next h =>
    refine ⟨s.digits, ?_, by rw [Int.toNat_of_nonneg (by omega), neg_neg]⟩
    simpa using positional_pointed (isDigits_digitChars s.digits)
      (by omega : 0 < (-s.exponent).toNat)

/-- A number written scientifically. -/
theorem scientific_eq (s : Scaled) : ∃ cs places, Positional cs s.digits places ∧
    s.scientific = cs ++ 'E' :: intChars (s.exponent + places) := by
  unfold scientific
  have hdigits := isDigits_digitChars s.digits
  have hvalue := digitsValue_digitChars s.digits
  have hne := digitChars_ne_nil s.digits
  generalize digitChars s.digits = cs at hdigits hvalue hne
  -- the point stands after the first of several digits
  match cs, hne with
  | [c], _ =>
    refine ⟨[c], 0, hvalue ▸ .whole hdigits (List.cons_ne_nil _ _), rfl⟩
  | c :: d :: ds, _ =>
    refine ⟨c :: '.' :: d :: ds, (d :: ds).length, ?_, rfl⟩
    obtain ⟨hc, hds⟩ := List.forall_mem_cons.1 hdigits
    rw [← hvalue]
    exact .pointed (fun _ h => List.eq_of_mem_singleton h ▸ hc) (List.cons_ne_nil c []) hds
      (List.cons_ne_nil _ _)

end Scaled

/-! ## Finite numbers -/

/-- The numbers that are read as a magnitude: zero for zero, else those in the interval. -/
def Dyadic.Admits (d : Dyadic) (value : ℚ) : Prop :=
  if d.mantissa = 0 then value = 0 else d.interval.Contains value

/-- Zero is read as zero, whatever the exponent. -/
theorem nearest_zero (exponent : ℤ) : nearest 0 exponent = 0 := by
  have htable : ∀ k : Fin Float.exactlyRepresentablePowersOfTen.size, ∀ negative : Bool,
      Float.ofScientific 0 negative k = 0 := by decide +kernel
  -- small exponents are those of the table, others are not looked at
  by_cases hsmall : exponent.natAbs ≤ 22
  · exact htable ⟨exponent.natAbs, Nat.lt_succ_of_le hsmall⟩ (exponent < 0)
  · unfold nearest Float.ofScientific
    rw [dif_neg (fun h => hsmall h.2)]
    show Float.ofModel (.pack (UnpackedFloat.ofScientific Format.binary64 0 _)) = 0
    unfold UnpackedFloat.ofScientific
    rw [dif_pos rfl]
    decide +kernel

variable {x : Float}

/-- **A finite number is read from every decimal number that its magnitude admits.** -/
theorem withSign_nearest (hx : Finite x) {digits : ℕ} {exponent : ℤ}
    (h : (magnitude x).Admits (digits * 10 ^ exponent)) :
    withSign (isNegative x) (nearest digits exponent) = x := by
  unfold Dyadic.Admits at h
  split at h
  · next hzero =>
    have hten : (10 : ℚ) ^ exponent ≠ 0 := zpow_ne_zero _ (by norm_num)
    obtain rfl : digits = 0 := by exact_mod_cast (mul_eq_zero.1 h).resolve_right hten
    rw [nearest_zero]
    exact (eq_zero hzero).symm
  · next hpos =>
    have hd := hx.canonical hpos
    have hnearest := hd.nearest_eq h
    have hvalue := ofMagnitude_magnitude hx hd.pos
    rw [hnearest]
    -- digits have no sign of their own: it is set after they are read
    cases hsign : isNegative x with
    | true =>
      rw [hsign] at hvalue
      exact (hd.neg_ofMagnitude false).trans hvalue
    | false =>
      rw [hsign] at hvalue
      exact hvalue

/-- Zero in a notation. -/
theorem notate_of_zero {write : Scaled → List Char} {zero : List Char}
    (h : (magnitude x).mantissa = 0) :
    notate write zero x = if isNegative x then '-' :: zero else zero := by
  rw [notate, h]
  rfl

/-- A number other than zero in a notation. -/
theorem notate_of_ne_zero {write : Scaled → List Char} {zero : List Char}
    (h : (magnitude x).mantissa ≠ 0) :
    notate write zero x = if isNegative x then '-' :: write (magnitude x).shortest
      else write (magnitude x).shortest := by
  rw [notate, beq_eq_false_iff_ne.2 h]
  rfl

/-- A finite number written positionally: there is a point if and only if the number has a
fraction. -/
theorem positional_eq (hx : Finite x) : ∃ cs digits places,
    positional x = (if isNegative x then '-' :: cs else cs) ∧ Positional cs digits places ∧
      (magnitude x).Admits (digits * 10 ^ (-places : ℤ)) ∧ (places = 0 ↔ isWhole x = true) := by
  rw [isWhole, beq_iff_eq]
  by_cases hzero : (magnitude x).mantissa = 0
  · have hwhole : (magnitude x).remainder = 0 := by
      rw [Dyadic.remainder, hzero]
      split
      · rfl
      · exact Nat.zero_mod _
    refine ⟨['0'], 0, 0, notate_of_zero hzero, positional_digitChars 0, ?_, by simp [hwhole]⟩
    rw [Dyadic.Admits, if_pos hzero, Nat.cast_zero, zero_mul]
  · have hd := hx.canonical hzero
    obtain ⟨digits, htext, hvalue⟩ := (magnitude x).shortest.positional_eq
    refine ⟨_, digits, _, notate_of_ne_zero hzero, htext, ?_, ?_⟩
    · rw [Dyadic.Admits, if_neg hzero, hvalue]
      exact hd.contains_shortest
    · rw [← hd.shortest_exponent_nonneg_iff]
      omega

/-- A finite number written scientifically. -/
theorem scientific_eq (hx : Finite x) : ∃ cs digits places exponent,
    scientific x = (if isNegative x then '-' :: (cs ++ 'E' :: intChars exponent)
      else cs ++ 'E' :: intChars exponent) ∧ Positional cs digits places ∧
      (magnitude x).Admits (digits * 10 ^ (exponent - places : ℤ)) := by
  by_cases hzero : (magnitude x).mantissa = 0
  · refine ⟨['0'], 0, 0, 0, notate_of_zero hzero, positional_digitChars 0, ?_⟩
    rw [Dyadic.Admits, if_pos hzero, Nat.cast_zero, zero_mul]
  · have hd := hx.canonical hzero
    obtain ⟨cs, places, htext, hscientific⟩ := (magnitude x).shortest.scientific_eq
    refine ⟨cs, _, places, (magnitude x).shortest.exponent + places, ?_, htext, ?_⟩
    · rw [← hscientific]
      exact notate_of_ne_zero hzero
    · rw [Dyadic.Admits, if_neg hzero, add_sub_cancel_right]
      exact hd.contains_shortest

/-- **A finite number reads back from its positional notation.** -/
theorem read?_positional (hx : Finite x) : read? (positional x) = some x := by
  obtain ⟨cs, digits, places, htext, hcs, hadmits, -⟩ := positional_eq hx
  have hread := hcs.read?_eq (isNegative x) ends_nil (by simp) (rfl : readExponent? [] = some 0)
  rw [List.append_nil] at hread
  rw [htext, hread, zero_sub, withSign_nearest hx hadmits]

/-- **A finite number reads back from its scientific notation.** -/
theorem read?_scientific (hx : Finite x) : read? (scientific x) = some x := by
  obtain ⟨cs, digits, places, exponent, htext, hcs, hadmits⟩ := scientific_eq hx
  have hread := hcs.read?_eq (isNegative x) (ends_cons.2 (by decide)) (by simp)
    (show readExponent? ('E' :: intChars exponent) = some exponent from readInt?_intChars exponent)
  rw [htext, hread, withSign_nearest hx hadmits]

end SolutionAlgebra.Decimal
