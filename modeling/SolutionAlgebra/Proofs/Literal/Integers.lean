import SolutionAlgebra.Literal.Basic
import SolutionAlgebra.Literal.Operations
import SolutionAlgebra.Proofs.Decimal.Integers
import SolutionAlgebra.Proofs.Literal.NumericType

/-! # Integer literals

The value of an integer literal is the floating-point number nearest to the integer. Sums,
differences and products are rounded to such a number again, and a computed one is written as an
integer that is read as it: as its value where this is at most `2 ^ 53` in size, else with the
shortest digits and zeros after them.

* **`NumericType.exists_read?_integer`** — how integers are read.
* **`NumericType.exists_format_integer`** — how whole numbers are written.
* **`Literal.StandsFor`**, **`Literal.WrittenFor`** — that the value of a literal, or its text, is
  that of an integer.
* **`Literal.exists_apply_integers`**, **`Literal.compare_integers`** — how two of them are computed
  with and compared. -/

namespace SolutionAlgebra

open Decimal

/-! ## Texts -/

namespace NumericType

variable {a : ℤ} {x : Float}

/-- A sign and digits are not blank. -/
theorem not_blank_of_readSign {cs digits : List Char} {negative : Bool}
    (h : readSign cs = (negative, digits)) (hdigits : IsDigits digits) :
    ∀ c ∈ cs, Text.isBlank c = false := by
  have hrest : ∀ c ∈ digits, Text.isBlank c = false := fun c hc => isBlank_of_digit (hdigits c hc)
  unfold readSign at h
  split at h
  · cases h
    exact List.forall_mem_cons.2 ⟨by decide, hrest⟩
  · cases h
    exact List.forall_mem_cons.2 ⟨by decide, hrest⟩
  · cases h
    exact hrest

/-- **A text of an integer is read as the number nearest to it.** -/
theorem exists_read?_integer {text : String} (h : readInt? text.toList = some a)
    (ha : a.natAbs < 2 ^ 200) : ∃ x, integer.read? text = some x ∧ RoundsTo a x := by
  obtain ⟨x, hread, hx⟩ := exists_read?_of_readInt? h ha
  obtain ⟨negative, digits, hsign, hne, hdigits, -⟩ := exists_digits_of_readInt? h
  refine ⟨x, ?_, hx⟩
  have hempty : digits.isEmpty = false := List.isEmpty_eq_false_iff.2 hne
  have hall : digits.all isDigit = true := List.all_eq_true.2 hdigits
  rw [read?, Text.trim_of_no_blank (not_blank_of_readSign hsign hdigits), readTrimmed?,
    dropSign_eq, hsign, hempty, hall, if_neg (by decide), hread]

/-- A negative integer is written with a minus sign. -/
theorem intChars_neg {n : ℕ} (h : 0 < n) (negative : Bool) :
    intChars (if negative then -(n : ℤ) else n) =
      if negative then '-' :: digitChars n else digitChars n := by
  cases negative with
  | false => exact if_neg (by show ¬ (n : ℤ) < 0; omega)
  | true =>
    have habs : (-(n : ℤ)).natAbs = n := by omega
    show intChars (-(n : ℤ)) = '-' :: digitChars n
    rw [intChars, if_pos (by omega), habs]

/-- What is written of the number of a whole magnitude. -/
theorem exists_finiteChars_integer {d : Decimal.Dyadic} (hd : d.Canonical)
    (hwhole : d.remainder = 0) (negative : Bool) :
    ∃ n : ℕ, 0 < n ∧ d.interval.Contains n ∧ (d.toRat ≤ 2 ^ 53 → (n : ℚ) = d.toRat) ∧
      integer.finiteChars (ofMagnitude negative d hd.pos) =
        intChars (if negative then -(n : ℤ) else n) := by
  have hpos := hd.whole_pos_of_whole hwhole
  rw [finiteChars, isWhole, hd.magnitude_ofMagnitude, hd.isNegative_ofMagnitude, hwhole]
  dsimp only
  split
  · -- below the limit the whole part is written
    refine ⟨d.whole, hpos, ?_, fun _ => (Dyadic.toRat_of_whole hwhole).symm, rfl⟩
    rw [← Dyadic.toRat_of_whole hwhole]
    exact hd.contains_toRat
  · have hpositional : positional (ofMagnitude negative d hd.pos) =
        if negative then '-' :: d.shortest.positional else d.shortest.positional := by
      have hzero : (magnitude (ofMagnitude negative d hd.pos)).mantissa ≠ 0 := by
        rw [hd.magnitude_ofMagnitude]
        exact hd.pos.ne'
      rw [positional, notate_of_ne_zero hzero, hd.magnitude_ofMagnitude,
        hd.isNegative_ofMagnitude]
    have hnatural := hd.natural_pos hwhole
    refine ⟨_, hnatural, hd.contains_natural hwhole, hd.natural_eq hwhole, ?_⟩
    rw [hpositional, hd.positional_shortest hwhole, intChars_neg hnatural]

/-- Zero is written without a sign. -/
theorem format_integer_zero (negative : Bool) :
    integer.format (withSign negative 0) = String.ofList (intChars 0) := by
  cases negative <;> decide +kernel

/-- **A whole number is written as an integer that is read as the number**: as its value up to
`2 ^ 53`. -/
theorem exists_format_integer (h : RoundsTo a x) (ha : a.natAbs < 2 ^ 190) :
    ∃ b : ℤ, integer.format x = String.ofList (intChars b) ∧ rounded b = rounded a ∧
      (a.natAbs ≤ 2 ^ 53 → b = a) := by
  have hvalue := h.value_eq (by omega)
  rcases Nat.eq_zero_or_pos a.natAbs with hzero | hpos
  · obtain rfl := Int.natAbs_eq_zero.1 hzero
    rw [Int.cast_zero] at h
    obtain ⟨negative, rfl⟩ := h.eq_zero
    exact ⟨0, format_integer_zero negative, rfl, fun _ => rfl⟩
  · have hpos' : (0 : ℚ) < (a.natAbs : ℕ) := Nat.cast_pos.2 hpos
    obtain ⟨d, hd, hcontains, rfl⟩ := (signed_natAbs a ▸ h).eq_magnitude hpos'
    obtain ⟨n, hn, hn', hexact, hchars⟩ :=
      exists_finiteChars_integer hd (hd.eq_of_contains_whole hcontains) (a < 0)
    have hcast : (((if decide (a < 0) then -(n : ℤ) else n) : ℤ) : ℚ) = signed (a < 0) n := by
      cases decide (a < 0) <;> simp
    have hb := RoundsTo.magnitude (a < 0) hd hn' hcast
    refine ⟨_, (format_of_finite _ h.finite).trans (congrArg _ hchars), ?_, fun hle => ?_⟩
    · -- both are rounded to the value of the number
      have hsize := h.natAbs_le hb
      have hvalue' := hb.value_eq (by omega)
      rw [hvalue] at hvalue'
      exact_mod_cast hvalue'.symm
    · rw [rounded_of_le hle, hd.value_ofMagnitude, ← signed_natAbs a,
        signed_inj hd.toRat_pos hpos'] at hvalue
      have hle' : (a.natAbs : ℚ) ≤ 2 ^ 53 := by exact_mod_cast hle
      have hequal := (hexact (hvalue.2 ▸ hle')).trans hvalue.2
      rw [hequal, signed_natAbs] at hcast
      exact_mod_cast hcast

end NumericType

/-! ## Operators -/

namespace ArithmeticOperator

variable {op : ArithmeticOperator} {a b r : ℤ} {x y : Float}

/-- An operator on integers whose result is an integer, whatever the operands are. -/
def onIntegers? (op : ArithmeticOperator) (a b : ℤ) : Option ℤ :=
  match op with
  | add => some (a + b)
  | subtract => some (a - b)
  | multiply => some (a * b)
  | divide => none

/-- An exact result is computed with one rounding. -/
theorem roundsTo_compute (h : op.onIntegers? a b = some r) (hr : r.natAbs < 2 ^ 200) (hx : Finite x)
    (hy : Finite y) (ha : value x = a) (hb : value y = b) : RoundsTo r (op.compute x y) := by
  obtain ⟨z, hz, -⟩ := exists_roundsTo_rounded hr
  cases op with
  | add =>
    obtain rfl := Option.some.inj h
    rw [Int.cast_add, ← ha, ← hb] at hz ⊢
    exact roundsTo_add hx hy hz
  | subtract =>
    obtain rfl := Option.some.inj h
    rw [Int.cast_sub, ← ha, ← hb] at hz ⊢
    exact roundsTo_sub hx hy hz
  | multiply =>
    obtain rfl := Option.some.inj h
    rw [Int.cast_mul, ← ha, ← hb] at hz ⊢
    exact roundsTo_mul hx hy hz
  | divide => cases h

/-- An exact result is no larger than a product. -/
theorem natAbs_onIntegers?_le {bound : ℕ} (h : op.onIntegers? a b = some r) (ha : a.natAbs ≤ bound)
    (hb : b.natAbs ≤ bound) (hbound : 2 ≤ bound) : r.natAbs ≤ bound * bound := by
  have hdouble : 2 * bound ≤ bound * bound := Nat.mul_le_mul_right _ hbound
  cases op with
  | add =>
    obtain rfl := Option.some.inj h
    omega
  | subtract =>
    obtain rfl := Option.some.inj h
    omega
  | multiply =>
    obtain rfl := Option.some.inj h
    rw [Int.natAbs_mul]
    exact Nat.mul_le_mul ha hb
  | divide => cases h

end ArithmeticOperator

/-! ## Literals -/

namespace Literal

variable {l m : Literal} {a b r : ℤ} {text : String}

/-- That the value of a literal is the number nearest to an integer. -/
def StandsFor (l : Literal) (a : ℤ) : Prop := ∃ x, l.kind = .numeric x .integer ∧ RoundsTo a x

/-- **An integer literal is read**, and stands for its integer. -/
theorem exists_typed_integer (h : readInt? text.toList = some a) (ha : a.natAbs < 2 ^ 200) :
    ∃ l, typed text Vocabulary.integer = .ok l ∧ l.StandsFor a := by
  obtain ⟨x, hread, hx⟩ := NumericType.exists_read?_integer h ha
  have hdecode : decode? text Vocabulary.integer = some (.numeric x .integer) := by
    have htype : NumericType.ofDatatype? Vocabulary.integer = some .integer :=
      NumericType.ofDatatype?_datatype .integer
    rw [decode?, htype]
    dsimp only
    rw [hread]
    rfl
  refine ⟨⟨text, some Vocabulary.integer, none, .numeric x .integer⟩, ?_, x, rfl, hx⟩
  rw [typed, hdecode]

/-- That a literal is an integer literal that is written for an integer: with the digits of this
integer if it is at most `2 ^ 53` in size, else with those of one that is rounded to the same. -/
structure WrittenFor (l : Literal) (a : ℤ) : Prop where
  /-- The datatype is that of integers. -/
  datatype : l.datatype = some Vocabulary.integer
  /-- There is no language. -/
  language : l.language = none
  /-- The text consists of the digits. -/
  lexical : ∃ b : ℤ, l.lexical = String.ofList (intChars b) ∧ rounded b = rounded a ∧
    (a.natAbs ≤ 2 ^ 53 → b = a)
  /-- The value is the number nearest to the integer. -/
  standsFor : l.StandsFor a

/-- A literal that is made of an integer is written for it. -/
theorem writtenFor_integer (ha : a.natAbs < 2 ^ 190) : (integer a).WrittenFor a := by
  have hx : RoundsTo a (ofInt a) := roundsTo_ofInt (by omega)
  exact ⟨rfl, rfl, NumericType.exists_format_integer hx ha, _, rfl, hx⟩

/-- **Sums, differences and products of integer literals** are those of the rounded integers, and
are rounded once more. -/
theorem exists_apply_integers (hl : l.StandsFor a) (hm : m.StandsFor b)
    (ha : a.natAbs ≤ 2 ^ 63) (hb : b.natAbs ≤ 2 ^ 63) {op : ArithmeticOperator}
    (h : op.onIntegers? (rounded a) (rounded b) = some r) :
    ∃ result, apply op l m = .ok result ∧ result.WrittenFor r := by
  obtain ⟨x, hkind, hx⟩ := hl
  obtain ⟨y, hkind', hy⟩ := hm
  -- even a product of the two is of a size for which the written form is known
  have hr : r.natAbs < 2 ^ 190 := by
    have hsize := ArithmeticOperator.natAbs_onIntegers?_le h
      ((natAbs_rounded_le a).trans (Nat.mul_le_mul_left 2 ha))
      ((natAbs_rounded_le b).trans (Nat.mul_le_mul_left 2 hb)) (by decide)
    omega
  have hresult : RoundsTo r (op.compute x y) :=
    ArithmeticOperator.roundsTo_compute h (by omega) hx.finite hy.finite (hx.value_eq (by omega))
      (hy.value_eq (by omega))
  refine ⟨numeric (op.compute x y) .integer, ?_, rfl, rfl,
    NumericType.exists_format_integer hresult hr, _, rfl, hresult⟩
  have hcompute : compute? op l m = some (numeric (op.compute x y) .integer) := by
    rw [compute?, hkind, operand?, hkind']
    cases op with
    | divide => cases h
    | _ => rfl
  rw [apply, hcompute]

/-- **Integer literals are compared as the rounded integers are.** -/
theorem compare_integers (hl : l.StandsFor a) (hm : m.StandsFor b)
    (ha : a.natAbs < 2 ^ 200) (hb : b.natAbs < 2 ^ 200) :
    l.equal m = decide (rounded a = rounded b) ∧ l.order m = compare (rounded a) (rounded b) := by
  obtain ⟨x, hkind, hx⟩ := hl
  obtain ⟨y, hkind', hy⟩ := hm
  constructor
  · rw [equal, hkind, hkind']
    dsimp only
    rw [Bool.eq_iff_iff, beq_iff_value hx.finite hy.finite, hx.value_eq ha, hy.value_eq hb,
      decide_eq_true_iff, Int.cast_inj]
  · rw [order, hkind, hkind']
    dsimp only
    rw [numberOrder_eq, compare_place hx.finite hy.finite, hx.value_eq ha, hy.value_eq hb]
    rcases lt_trichotomy (rounded a) (rounded b) with h | h | h
    · rw [compare_lt_iff_lt.2 h, compare_lt_iff_lt.2 (Int.cast_lt.2 h)]
    · rw [compare_eq_iff_eq.2 h, compare_eq_iff_eq.2 (congrArg _ h)]
    · rw [compare_gt_iff_gt.2 h, compare_gt_iff_gt.2 (Int.cast_lt.2 h)]

end Literal

end SolutionAlgebra
