import Mathlib.Tactic.Ring
import SolutionAlgebra.Decimal.Notation
import SolutionAlgebra.Text.Basic

/-! # Digits

The digits of a number stand for the number, zeros in front of them do not count, and zeros after
them multiply it by ten. Reading digits stops at the first character that is none.

* **`IsDigits`** — the texts of digits; **`Ends`** — the texts that do not go on with a digit.
* **`digitsValue_digitChars`** — the digits of a number stand for it.
* **`readInt?_intChars`** — an integer reads back. -/

namespace SolutionAlgebra.Decimal

variable {c : Char} {cs ds rest : List Char} {n : Nat}

/-! ## Texts of digits -/

/-- A text of nothing but digits. -/
def IsDigits (cs : List Char) : Prop := ∀ c ∈ cs, isDigit c = true

instance (cs : List Char) : Decidable (IsDigits cs) :=
  decidable_of_iff (cs.all isDigit = true) List.all_eq_true

/-- A text that does not go on with a digit. -/
def Ends (rest : List Char) : Prop := ∀ c ∈ rest.head?, isDigit c = false

/-- No digit follows at the end of the text. -/
@[simp] theorem ends_nil : Ends [] := fun _ h => nomatch h

/-- No digit follows if the next character is none. -/
@[simp] theorem ends_cons : Ends (c :: cs) ↔ isDigit c = false :=
  ⟨fun h => h c rfl, fun h _ hc => Option.some_inj.1 hc ▸ h⟩

/-- A joined text has only digits if its parts do. -/
@[simp] theorem isDigits_append : IsDigits (cs ++ ds) ↔ IsDigits cs ∧ IsDigits ds :=
  List.forall_mem_append

/-- Zeros are digits. -/
theorem isDigits_replicate (n : Nat) : IsDigits (List.replicate n '0') :=
  fun _ h => List.eq_of_mem_replicate h ▸ rfl

/-- The digits of a number are digits. -/
theorem isDigits_digitChars (n : Nat) : IsDigits (digitChars n) := by
  intro c hc
  have h := Nat.isDigit_of_mem_toDigits (by decide) (by decide) hc
  rw [Char.isDigit, Bool.and_eq_true, decide_eq_true_iff, decide_eq_true_iff] at h
  rw [isDigit, Bool.and_eq_true, decide_eq_true_iff, decide_eq_true_iff]
  exact h

/-- A text of digits has no point. -/
theorem IsDigits.count_point (h : IsDigits cs) : cs.count '.' = 0 :=
  List.count_eq_zero.2 fun hmem => absurd (h '.' hmem) (by decide)

/-- A number has at least one digit. -/
theorem digitChars_ne_nil (n : Nat) : digitChars n ≠ [] := Nat.toDigits_ne_nil

/-- A number has few digits if it is small. -/
theorem length_digitChars_le {width : Nat} (hwidth : 0 < width) (h : n < 10 ^ width) :
    (digitChars n).length ≤ width :=
  (Nat.length_toDigits_le_iff (by decide) hwidth).2 h

/-- The digits at the start of a text are taken off up to where they end. -/
theorem spanDigits_append (h : IsDigits cs) (hrest : Ends rest) :
    spanDigits (cs ++ rest) = (cs, rest) := by
  have htake : rest.takeWhile isDigit = [] ∧ rest.dropWhile isDigit = rest := by
    cases rest with
    | nil => exact ⟨rfl, rfl⟩
    | cons c rest =>
      rw [ends_cons] at hrest
      simp [hrest]
  rw [spanDigits, List.takeWhile_append_of_pos h, List.dropWhile_append_of_pos h, htake.1, htake.2,
    List.append_nil]

/-- A digit is not blank. -/
theorem isBlank_of_digit (h : isDigit c = true) : Text.isBlank c = false := by
  rw [isDigit, Bool.and_eq_true, decide_eq_true_iff, decide_eq_true_iff] at h
  have hlow : 48 ≤ c.toNat := h.1
  have hhigh : c.toNat ≤ 57 := h.2
  unfold Text.isBlank
  simp only [Bool.or_eq_false_iff, Bool.and_eq_false_iff, decide_eq_false_iff_not,
    beq_eq_false_iff_ne]
  omega

/-! ## What digits stand for -/

/-- Digits are read from left to right. -/
theorem digitsValue_eq (cs : List Char) : digitsValue cs = Nat.ofDigitChars 10 cs 0 := by
  rw [digitsValue, Nat.ofDigitChars_eq_foldl]
  rfl

/-- The digits of a number stand for the number. -/
@[simp] theorem digitsValue_digitChars (n : Nat) : digitsValue (digitChars n) = n := by
  rw [digitsValue_eq]
  exact Nat.ofDigitChars_ten_toDigits

/-- Zeros in front do not count. -/
@[simp] theorem digitsValue_zeros_append (k : Nat) (cs : List Char) :
    digitsValue (List.replicate k '0' ++ cs) = digitsValue cs := by
  rw [digitsValue_eq, digitsValue_eq, Nat.ofDigitChars_append, Nat.ofDigitChars_replicate_zero,
    Nat.mul_zero]

/-- Zeros at the end multiply by ten. -/
theorem digitsValue_append_zeros (k : Nat) (cs : List Char) :
    digitsValue (cs ++ List.replicate k '0') = digitsValue cs * 10 ^ k := by
  rw [digitsValue_eq, digitsValue_eq, Nat.ofDigitChars_append, Nat.ofDigitChars_replicate_zero,
    Nat.mul_comm]

/-! ## Integers -/

/-- A digit is no sign. -/
theorem readSign_of_digit (h : isDigit c = true) : readSign (c :: cs) = (false, c :: cs) := by
  unfold readSign
  split
  · next heq =>
    cases heq
    exact absurd h (by decide)
  · next heq =>
    cases heq
    exact absurd h (by decide)
  · rfl

/-- A text of digits has no sign. -/
theorem readSign_of_digits (h : IsDigits cs) : readSign cs = (false, cs) := by
  cases cs with
  | nil => rfl
  | cons c cs => exact readSign_of_digit (h c List.mem_cons_self)

/-- A number reads back. -/
theorem readNat?_digitChars (n : Nat) : readNat? (digitChars n) = some n := by
  rw [readNat?, if_pos ⟨digitChars_ne_nil n, List.all_eq_true.2 (isDigits_digitChars n)⟩,
    digitsValue_digitChars]

/-- The digits after the sign make up the integer. -/
theorem readInt?_eq (cs : List Char) : readInt? cs =
    (readNat? (readSign cs).2).map fun (n : Nat) =>
      if (readSign cs).1 then -(n : Int) else n := by
  unfold readInt?
  obtain ⟨negative, digits⟩ := readSign cs
  dsimp only
  cases readNat? digits <;> rfl

/-- **An integer reads back.** -/
theorem readInt?_intChars (n : Int) : readInt? (intChars n) = some n := by
  rw [readInt?_eq, intChars]
  split
  · show (readNat? (digitChars n.natAbs)).map (fun (k : Nat) => -(k : Int)) = some n
    rw [readNat?_digitChars, Option.map_some]
    congr 1
    omega
  · rw [readSign_of_digits (isDigits_digitChars _)]
    show (readNat? (digitChars n.natAbs)).map (fun (k : Nat) => (k : Int)) = some n
    rw [readNat?_digitChars, Option.map_some]
    congr 1
    omega

end SolutionAlgebra.Decimal
