import SolutionAlgebra.Literal.NumericType
import SolutionAlgebra.Proofs.Decimal.Notation

/-! # Written values read back

Each class of numbers writes its values by rules of its own and reads texts by others. A value reads
back where the class has a text for it: integers only write whole numbers so that they read them,
decimal fractions only finite numbers; the other classes have words for infinity and for the
undefined number.

* **`NumericType.Has`** — the values for which a class has a text.
* **`NumericType.read?_format`**, **`NumericType.read?_format_eq_none`** — these are the values that
  read back. -/

namespace SolutionAlgebra

namespace Decimal

/-- That two numbers are equal, or both undefined. -/
def SameNumber (x y : Float) : Prop := (x == y) = true ∨ x.isNaN = true ∧ y.isNaN = true

/-- A number is the same as itself. -/
theorem SameNumber.refl (x : Float) : SameNumber x x := by
  show (x.toModel.unpack.beq x.toModel.unpack) = true ∨
    x.toModel.unpack.isNaN = true ∧ x.toModel.unpack.isNaN = true
  cases x.toModel.unpack with
  | notANumber => exact .inr ⟨rfl, rfl⟩
  | infinity sign => cases sign <;> exact .inl rfl
  | zero sign => exact .inl rfl
  | finite sign mantissa exponent h =>
    have hself : (compare exponent exponent).then (compare mantissa mantissa) = .eq := by
      rw [Std.compare_self, Std.compare_self]
      rfl
    left
    -- the order of negative numbers is turned around
    cases sign with
    | positive =>
      show (some ((compare exponent exponent).then (compare mantissa mantissa)) ==
        some Ordering.eq) = true
      rw [hself]
      rfl
    | negative =>
      show (some ((compare exponent exponent).then (compare mantissa mantissa)).swap ==
        some Ordering.eq) = true
      rw [hself]
      rfl

/-- Zeros are the same whatever their signs. -/
theorem sameNumber_zero (a b : Bool) : SameNumber (withSign a 0) (withSign b 0) := by
  cases a <;> cases b <;> exact .inl (by decide +kernel)

end Decimal

namespace NumericType

open Decimal

variable {cs : List Char} {digits places : ℕ}

/-- The values for which a class has a text. -/
def Has (type : NumericType) (value : Float) : Prop :=
  match type with
  | integer => Finite value ∧ isWhole value = true
  | decimal => Finite value
  | _ => True

/-! ## Texts with a sign -/

/-- What a text and a minus sign consist of. -/
theorem forall_mem_signed {p : Char → Prop} (negative : Bool) (hsign : p '-')
    (h : ∀ c ∈ cs, p c) : ∀ c ∈ (if negative then '-' :: cs else cs), p c := by
  cases negative with
  | true => exact List.forall_mem_cons.2 ⟨hsign, h⟩
  | false => exact h

/-- The sign is dropped. -/
theorem dropSign_signed (h : Positional cs digits places) (negative : Bool) :
    dropSign (if negative then '-' :: cs else cs) = cs := by
  cases negative with
  | true => rfl
  | false =>
    obtain ⟨c, ds, rfl, hc⟩ := h.first
    show dropSign (c :: ds) = c :: ds
    unfold dropSign
    split
    · next heq =>
      cases heq
      exact absurd hc (by decide)
    · next heq =>
      cases heq
      exact absurd hc (by decide)
    · rfl

/-- A text of digits with a sign has a digit. -/
theorem any_isDigit_signed (h : Positional cs digits places) (negative : Bool) (rest : List Char) :
    (if negative then '-' :: (cs ++ rest) else cs ++ rest).any isDigit = true := by
  obtain ⟨c, ds, rfl, hc⟩ := h.first
  rw [List.any_eq_true]
  refine ⟨c, ?_, hc⟩
  cases negative with
  | true => exact List.mem_cons_of_mem _ List.mem_cons_self
  | false => exact List.mem_cons_self

/-- A text without blanks is read as it stands. -/
theorem read?_ofList (type : NumericType) (h : ∀ c ∈ cs, Text.isBlank c = false) :
    type.read? (String.ofList cs) = type.readTrimmed? cs := by
  rw [read?, String.toList_ofList, Text.trim_of_no_blank h]

/-! ## What the classes read -/

/-- Digits are read as a whole number. -/
theorem readTrimmed?_integer (h : Positional cs digits 0) (negative : Bool) :
    integer.readTrimmed? (if negative then '-' :: cs else cs) =
      some (withSign negative (nearest digits 0)) := by
  have hread := h.read?_eq negative ends_nil (by simp) (rfl : readExponent? [] = some 0)
  rw [List.append_nil] at hread
  obtain ⟨c, ds, rfl, hc⟩ := h.first
  have hall : (c :: ds).all isDigit = true := by
    refine List.all_eq_true.2 fun d hd => (h.mem hd).resolve_right ?_
    rintro rfl
    have := h.count_point
    rw [if_pos rfl, List.count_eq_zero] at this
    exact this hd
  show (if _ then none else Decimal.read? _) = _
  rw [dropSign_signed h, hall, if_neg (by simp), hread]
  rfl

/-- A text with a point is not read as a whole number. -/
theorem readTrimmed?_integer_of_point (h : Positional cs digits places) (hplaces : places ≠ 0)
    (negative : Bool) : integer.readTrimmed? (if negative then '-' :: cs else cs) = none := by
  have hpoint : '.' ∈ cs := by
    have := h.count_point
    rw [if_neg hplaces] at this
    exact List.count_pos_iff.1 (by omega)
  have hall : cs.all isDigit = false :=
    List.all_eq_false.2 ⟨'.', hpoint, by decide⟩
  show (if _ then none else Decimal.read? _) = _
  rw [dropSign_signed h, hall, if_pos (by simp)]

/-- Digits with at most one point are read as a decimal fraction. -/
theorem readTrimmed?_decimal (h : Positional cs digits places) (negative : Bool) :
    decimal.readTrimmed? (if negative then '-' :: cs else cs) =
      some (withSign negative (nearest digits (-places))) := by
  have hread := h.read?_eq negative ends_nil (by simp) (rfl : readExponent? [] = some 0)
  rw [List.append_nil, zero_sub] at hread
  have hany := any_isDigit_signed h false []
  rw [List.append_nil] at hany
  have hall : cs.all (fun c => isDigit c || c == '.') = true :=
    List.all_eq_true.2 fun c hc => by simpa using h.mem hc
  have hcount : cs.count '.' ≤ 1 := by
    rw [h.count_point]
    split <;> omega
  show (if isDecimalBody _ then Decimal.read? _ else none) = _
  rw [dropSign_signed h, if_pos, hread]
  rw [isDecimalBody, Bool.and_eq_true, Bool.and_eq_true]
  exact ⟨⟨hany, hall⟩, decide_eq_true hcount⟩

/-- A character of a number with an exponent. -/
def IsScientific (c : Char) : Prop :=
  (isDigit c || c == '.' || c == 'e' || c == 'E' || c == '+' || c == '-') = true

/-- Digits may stand in a number with an exponent. -/
theorem isScientific_of_digit {c : Char} (h : isDigit c = true) : IsScientific c := by
  simp [IsScientific, h]

/-- An integer consists of digits and a minus sign. -/
theorem mem_intChars {c : Char} {n : ℤ} (h : c ∈ intChars n) : c = '-' ∨ isDigit c = true := by
  unfold intChars at h
  split at h
  · exact (List.mem_cons.1 h).imp_right (isDigits_digitChars _ c)
  · exact .inr (isDigits_digitChars _ c h)

/-- Digits with an exponent are read as a floating-point number. -/
theorem readTrimmed?_scientific {type : NumericType} (htype : type = float ∨ type = double)
    (h : Positional cs digits places) (negative : Bool) (exponent : ℤ) :
    type.readTrimmed? (if negative then '-' :: (cs ++ 'E' :: intChars exponent)
      else cs ++ 'E' :: intChars exponent) =
      some (withSign negative (nearest digits (exponent - places))) := by
  have hread := h.read?_eq negative (ends_cons.2 (by decide)) (by simp)
    (show readExponent? ('E' :: intChars exponent) = some exponent from readInt?_intChars exponent)
  have hany := any_isDigit_signed h negative ('E' :: intChars exponent)
  have hcharacters : ∀ c ∈ (if negative then '-' :: (cs ++ 'E' :: intChars exponent)
      else cs ++ 'E' :: intChars exponent), IsScientific c := by
    refine forall_mem_signed negative rfl (List.forall_mem_append.2
      ⟨fun c hc => ?_, List.forall_mem_cons.2 ⟨rfl, fun c hc => ?_⟩⟩)
    · obtain hdigit | rfl := h.mem hc
      · exact isScientific_of_digit hdigit
      · rfl
    · obtain rfl | hdigit := mem_intChars hc
      · rfl
      · exact isScientific_of_digit hdigit
  generalize (if negative then '-' :: (cs ++ 'E' :: intChars exponent)
    else cs ++ 'E' :: intChars exponent) = text at hread hany hcharacters ⊢
  have htext : isScientificText text = true := by
    rw [isScientificText, hany]
    exact List.all_eq_true.2 hcharacters
  -- a text with a digit is none of the words
  have hplus : ¬ (text = ['I', 'N', 'F'] ∨ text = ['+', 'I', 'N', 'F']) := by
    rintro (rfl | rfl) <;> exact absurd hany (by decide)
  have hminus : text ≠ ['-', 'I', 'N', 'F'] := by
    rintro rfl
    exact absurd hany (by decide)
  have hundefined : text ≠ ['N', 'a', 'N'] := by
    rintro rfl
    exact absurd hany (by decide)
  obtain rfl | rfl := htype
  all_goals
    unfold readTrimmed?
    dsimp only
    rw [if_neg hplus, if_neg hminus, if_neg hundefined, if_pos htext, hread]

/-! ## Written values -/

variable {x : Float}

/-- A text of digits with a sign has no blanks. -/
theorem not_blank_signed (h : Positional cs digits places) (negative : Bool) :
    ∀ c ∈ (if negative then '-' :: cs else cs), Text.isBlank c = false := by
  refine forall_mem_signed negative (by decide) fun c hc => ?_
  obtain hdigit | rfl := h.mem hc
  · exact isBlank_of_digit hdigit
  · decide

/-- What a finite value is written as. -/
theorem format_of_finite (type : NumericType) (hx : Finite x) :
    type.format x = String.ofList (type.finiteChars x) := by
  rw [format, hx.isNaN, hx.isInf]
  rfl

/-- The digits of an integer are read as the integer. -/
theorem read?_intChars (n : ℤ) : integer.read? (String.ofList (intChars n)) =
    some (withSign (n < 0) (nearest n.natAbs 0)) := by
  have hdigits := positional_digitChars n.natAbs
  have htext : intChars n =
      if decide (n < 0) then '-' :: digitChars n.natAbs else digitChars n.natAbs := by
    simp [intChars]
  rw [htext, read?_ofList _ (not_blank_signed hdigits _), readTrimmed?_integer hdigits]

/-- A whole number is the integer that its sign and its whole part make up; zero may lose its
sign. -/
theorem sameNumber_whole (hx : Finite x) (hwhole : isWhole x = true) {n : ℤ}
    (hn : n = if isNegative x then -((magnitude x).whole : ℤ) else (magnitude x).whole) :
    SameNumber (withSign (n < 0) (nearest n.natAbs 0)) x := by
  have habs : n.natAbs = (magnitude x).whole := by
    rw [hn]
    split <;> omega
  have hremainder : (magnitude x).remainder = 0 := by simpa [isWhole] using hwhole
  rw [habs]
  -- an integer has no negative zero, so that only the value is kept there
  by_cases hzero : (magnitude x).mantissa = 0
  · have hnone : (magnitude x).whole = 0 := by
      rw [Dyadic.whole, hzero]
      split
      · exact Nat.zero_mul _
      · exact Nat.zero_div _
    rw [hnone, nearest_zero, eq_zero hzero]
    exact sameNumber_zero _ _
  · have hd := hx.canonical hzero
    have hpos := hd.whole_pos_of_whole hremainder
    have hsign : decide (n < 0) = isNegative x := by
      rw [hn]
      cases isNegative x with
      | true => exact decide_eq_true (by show -((magnitude x).whole : ℤ) < 0; omega)
      | false => exact decide_eq_false (by show ¬ ((magnitude x).whole : ℤ) < 0; omega)
    have hadmits : (magnitude x).Admits ((magnitude x).whole * 10 ^ (0 : ℤ)) := by
      rw [zpow_zero, mul_one, Dyadic.Admits, if_neg hzero, ← Dyadic.toRat_of_whole hremainder]
      exact hd.contains_toRat
    rw [hsign, withSign_nearest hx hadmits]
    exact .refl x

/-- A whole number reads back. -/
theorem read?_integer (hx : Finite x) (hwhole : isWhole x = true) :
    ∃ y, integer.read? (integer.format x) = some y ∧ SameNumber y x := by
  rw [format_of_finite _ hx, finiteChars]
  split
  · exact ⟨_, read?_intChars _, sameNumber_whole hx hwhole rfl⟩
  · obtain ⟨cs, digits, places, htext, hcs, hadmits, hplaces⟩ := positional_eq hx
    obtain rfl := hplaces.2 hwhole
    refine ⟨x, ?_, .refl x⟩
    rw [htext, read?_ofList _ (not_blank_signed hcs _), readTrimmed?_integer hcs]
    exact congrArg some (withSign_nearest hx hadmits)

/-- A number with a fraction is not read as a whole number. -/
theorem read?_integer_of_fraction (hx : Finite x) (hwhole : isWhole x = false) :
    integer.read? (integer.format x) = none := by
  rw [format_of_finite _ hx, finiteChars, hwhole]
  obtain ⟨cs, digits, places, htext, hcs, -, hplaces⟩ := positional_eq hx
  show integer.read? (String.ofList (positional x)) = none
  rw [htext, read?_ofList _ (not_blank_signed hcs _)]
  exact readTrimmed?_integer_of_point hcs (fun h => by simp [hplaces.1 h] at hwhole) _

/-- Digits written as a decimal fraction: with a point and a zero where there is no point. -/
theorem exists_decimal (h : Positional cs digits places) (negative : Bool) :
    ∃ ds digits' places', Positional ds digits' places' ∧
      (digits' : ℚ) * 10 ^ (-places' : ℤ) = digits * 10 ^ (-places : ℤ) ∧
      (let text := if negative then '-' :: cs else cs
        if text.contains '.' then text else text ++ ['.', '0']) =
          if negative then '-' :: ds else ds := by
  have hcontains : (if negative then '-' :: cs else cs).contains '.' = true ↔ places ≠ 0 := by
    have hcount := h.count_point
    rw [List.contains_iff_mem, ← List.count_pos_iff]
    cases negative <;> split at hcount <;> simp_all
  dsimp only
  by_cases hplaces : places = 0
  · rw [if_neg (fun h => hcontains.1 h hplaces)]
    cases h with
    | whole hdigits hne =>
      refine ⟨cs ++ ['.', '0'], _, _, .pointed hdigits hne (isDigits_replicate 1) (by simp), ?_, ?_⟩
      · rw [show ['0'] = List.replicate 1 '0' from rfl, digitsValue_append_zeros]
        simp
      · cases negative <;> rfl
    | pointed _ _ _ hne' => exact absurd (List.length_eq_zero_iff.1 hplaces) hne'
  · rw [if_pos (hcontains.2 hplaces)]
    exact ⟨cs, digits, places, h, rfl, rfl⟩

/-- A finite number reads back as a decimal fraction. -/
theorem read?_decimal (hx : Finite x) : decimal.read? (decimal.format x) = some x := by
  obtain ⟨cs, digits, places, htext, hcs, hadmits, -⟩ := positional_eq hx
  obtain ⟨ds, digits', places', hds, hvalue, hdecimal⟩ := exists_decimal hcs (isNegative x)
  rw [← hvalue] at hadmits
  rw [format_of_finite _ hx, finiteChars, htext, hdecimal, read?_ofList _ (not_blank_signed hds _),
    readTrimmed?_decimal hds, withSign_nearest hx hadmits]

/-- A finite number reads back as a floating-point number. -/
theorem read?_scientific {type : NumericType} (htype : type = float ∨ type = double)
    (hx : Finite x) : type.read? (type.format x) = some x := by
  obtain ⟨cs, digits, places, exponent, htext, hcs, hadmits⟩ := scientific_eq hx
  have hchars : type.finiteChars x = scientific x := by
    obtain rfl | rfl := htype <;> rfl
  have hblank : ∀ c ∈ (if isNegative x then '-' :: (cs ++ 'E' :: intChars exponent)
      else cs ++ 'E' :: intChars exponent), Text.isBlank c = false := by
    refine forall_mem_signed _ (by decide) (List.forall_mem_append.2
      ⟨not_blank_signed hcs false, List.forall_mem_cons.2 ⟨by decide, fun c hc => ?_⟩⟩)
    obtain rfl | hdigit := mem_intChars hc
    · decide
    · exact isBlank_of_digit hdigit
  rw [format_of_finite _ hx, hchars, htext, read?_ofList _ hblank,
    readTrimmed?_scientific htype hcs, withSign_nearest hx hadmits]

/-- The values that are not finite. -/
theorem not_finite_cases (hx : ¬ Finite x) :
    x.isNaN = true ∨ ∃ negative, x = withSign negative infinity := by
  by_cases hundefined : x.isNaN = true
  · exact .inl hundefined
  · by_cases hinfinite : x.isInf = true
    · exact .inr ⟨_, eq_infinity hinfinite⟩
    · exact absurd ⟨by simpa using hundefined, by simpa using hinfinite⟩ hx

/-- The undefined number has a word in the classes of floating-point numbers. -/
theorem read?_undefined (type : NumericType) : type.read? "NaN" =
    if type = integer ∨ type = decimal then none else some undefined := by
  cases type <;> decide +kernel

/-- So has infinity. -/
theorem read?_infinity (type : NumericType) (negative : Bool) :
    type.read? (type.format (withSign negative infinity)) =
      if type = integer ∨ type = decimal then none else some (withSign negative infinity) := by
  cases type <;> cases negative <;> decide +kernel

/-- **A value that its class has a text for reads back.** -/
theorem read?_format {type : NumericType} (h : type.Has x) :
    ∃ y, type.read? (type.format x) = some y ∧ SameNumber y x := by
  by_cases hx : Finite x
  · cases type with
    | integer => exact read?_integer hx h.2
    | decimal => exact ⟨x, read?_decimal hx, .refl x⟩
    | float => exact ⟨x, read?_scientific (.inl rfl) hx, .refl x⟩
    | double => exact ⟨x, read?_scientific (.inr rfl) hx, .refl x⟩
  · have htype : ¬ (type = integer ∨ type = decimal) := by
      rintro (rfl | rfl)
      · exact hx h.1
      · exact hx h
    obtain hundefined | ⟨negative, rfl⟩ := not_finite_cases hx
    · refine ⟨undefined, ?_, .inr ⟨by decide +kernel, hundefined⟩⟩
      rw [format, if_pos hundefined, read?_undefined, if_neg htype]
    · exact ⟨_, by rw [read?_infinity, if_neg htype], .refl _⟩

/-- **Any other value is written as a text that its class does not read.** -/
theorem read?_format_eq_none {type : NumericType} (h : ¬ type.Has x) :
    type.read? (type.format x) = none := by
  by_cases hx : Finite x
  · cases type with
    | integer => exact read?_integer_of_fraction hx (by simpa using fun hwhole => h ⟨hx, hwhole⟩)
    | decimal => exact absurd hx h
    | float => exact absurd trivial h
    | double => exact absurd trivial h
  · have htype : type = integer ∨ type = decimal := by
      cases type with
      | integer => exact .inl rfl
      | decimal => exact .inr rfl
      | float => exact absurd trivial h
      | double => exact absurd trivial h
    obtain hundefined | ⟨negative, rfl⟩ := not_finite_cases hx
    · rw [format, if_pos hundefined, read?_undefined, if_pos htype]
    · rw [read?_infinity, if_pos htype]

end NumericType

end SolutionAlgebra
