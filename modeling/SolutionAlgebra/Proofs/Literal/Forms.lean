import SolutionAlgebra.Literal.Basic
import SolutionAlgebra.Proofs.Decimal.Forms

/-! # The grammar of numbers

Each class of numbers has a form, and a text is taken under a datatype of the class if it has the
form, blanks around it aside. Every other text is refused as one that the datatype does not have.

* **`NumericType.form`** — the forms of the classes.
* **`NumericType.isSome_readTrimmed?_iff`** — what a class reads.
* **`Literal.takes_numbers`** — which literals are made under the datatypes of numbers. -/

namespace SolutionAlgebra

namespace NumericType

open Decimal

variable {cs : List Char} {type : NumericType}

/-! ## Forms -/

/-- The words for infinity and for the undefined number. -/
def wordForm : RegularExpression Char :=
  Text.word "INF".toList + Text.word "+INF".toList + Text.word "-INF".toList +
    Text.word "NaN".toList

/-- One of the words, or a number that may have an exponent. -/
def scientificForm : RegularExpression Char :=
  wordForm + signForm * (unsignedForm * Text.optional exponentForm)

/-- The form of the texts of a class. -/
def form : NumericType → RegularExpression Char
  | integer => signForm * digitsForm
  | decimal => signForm * unsignedForm
  | float => scientificForm
  | double => scientificForm

/-! ## What the classes read -/

/-- Integers are an optional sign and digits. -/
theorem isSome_readTrimmed?_integer :
    (integer.readTrimmed? cs).isSome = true ↔ cs ∈ (signForm * digitsForm).matches' := by
  rw [mem_signForm_mul_digitsForm, mem_digitsForm, readTrimmed?, dropSign_eq]
  refine ⟨fun hread => ?_, fun h => ?_⟩
  · split at hread
    · cases hread
    · next hdigits => simpa [IsDigits] using hdigits
  · have hall : (readSign cs).2.all isDigit = true := List.all_eq_true.2 h.2
    simp [h, hall, isSome_read?_of_unsigned (.whole h.2 h.1)]

/-- Digits with at most one point are the body of a decimal fraction. -/
theorem isDecimalBody_of_unsigned (h : Unsigned cs) : isDecimalBody cs = true := by
  rw [isDecimalBody, Bool.and_eq_true, Bool.and_eq_true, List.all_eq_true]
  exact ⟨⟨h.any_isDigit, fun c hc => by simpa using h.mem c hc⟩,
    decide_eq_true h.count_point_le⟩

/-- The body of a decimal fraction goes on with no exponent. -/
theorem eq_nil_of_isDecimalBody {number rest : List Char}
    (hbody : isDecimalBody (number ++ rest) = true)
    (h : rest ∈ (Text.optional exponentForm).matches') : rest = [] := by
  rw [isDecimalBody, Bool.and_eq_true, Bool.and_eq_true, List.all_eq_true] at hbody
  have hletters : ∀ c ∈ ['e', 'E'], (isDigit c || c == '.') = false := by
    intro c hc
    rcases List.mem_pair.1 hc with rfl | rfl <;> rfl
  cases rest with
  | nil => rfl
  | cons c rest =>
    have hc := hbody.1.2 c (List.mem_append_right _ List.mem_cons_self)
    rw [hletters c (head_of_mem_exponentForm h c rfl)] at hc
    cases hc

/-- Decimal fractions are an optional sign and digits with at most one point. -/
theorem isSome_readTrimmed?_decimal :
    (decimal.readTrimmed? cs).isSome = true ↔ cs ∈ (signForm * unsignedForm).matches' := by
  rw [mem_signForm_mul_unsignedForm, readTrimmed?, dropSign_eq]
  refine ⟨fun hread => ?_, fun h => ?_⟩
  · -- the characters of a body leave no room for an exponent
    split at hread
    · next hbody =>
      rw [isSome_read?, isSome_readUnsigned?_iff] at hread
      obtain ⟨number, hnumber, rest, hrest, hbytes⟩ := Text.mem_mul.1 hread
      rw [← hbytes] at hbody ⊢
      rw [eq_nil_of_isDecimalBody hbody hrest, List.append_nil]
      exact mem_unsignedForm.1 hnumber
    · cases hread
  · rw [if_pos (isDecimalBody_of_unsigned h)]
    exact isSome_read?_of_unsigned h

/-- A number that may have an exponent has a digit, and no other characters than it may have. -/
theorem isScientificText_of_read? (h : (Decimal.read? cs).isSome = true) :
    isScientificText cs = true := by
  have hform := isSome_read?_iff.1 h
  have hatoms : ((Text.atoms (signForm * (unsignedForm * Text.optional exponentForm))).all fun c =>
      isDigit c || c == '.' || c == 'e' || c == 'E' || c == '+' || c == '-') = true := by decide
  obtain ⟨sign, -, _, hunsigned, rfl⟩ := Text.mem_mul.1 hform
  obtain ⟨number, hnumber, rest, -, rfl⟩ := Text.mem_mul.1 hunsigned
  rw [isScientificText, Bool.and_eq_true, List.all_eq_true]
  refine ⟨?_, fun c hc => List.all_eq_true.1 hatoms c (Text.mem_atoms hform c hc)⟩
  rw [List.any_append, List.any_append, (mem_unsignedForm.1 hnumber).any_isDigit]
  simp

/-- The words, one by one. -/
theorem mem_wordForm : cs ∈ wordForm.matches' ↔
    cs = ['I', 'N', 'F'] ∨ cs = ['+', 'I', 'N', 'F'] ∨ cs = ['-', 'I', 'N', 'F'] ∨
      cs = ['N', 'a', 'N'] := by
  simp only [wordForm, Text.mem_add, Text.mem_word, or_assoc]
  exact Iff.rfl

/-- The other numbers are one of the words, or a number that may have an exponent. -/
theorem isSome_readTrimmed?_scientific (htype : type = float ∨ type = double) :
    (type.readTrimmed? cs).isSome = true ↔ cs ∈ scientificForm.matches' := by
  have hread : type.readTrimmed? cs =
      if cs = ['I', 'N', 'F'] ∨ cs = ['+', 'I', 'N', 'F'] then some infinity
      else if cs = ['-', 'I', 'N', 'F'] then some (-infinity)
      else if cs = ['N', 'a', 'N'] then some undefined
      else if isScientificText cs then Decimal.read? cs
      else none := by
    rcases htype with rfl | rfl <;> rfl
  -- what is read as a number has the characters of one
  have htext : (if isScientificText cs then Decimal.read? cs else none) = Decimal.read? cs := by
    split
    · rfl
    · next h =>
      have hnone : Decimal.read? cs = none :=
        Option.not_isSome_iff_eq_none.1 fun hsome => h (isScientificText_of_read? hsome)
      exact hnone.symm
  rw [hread, htext, scientificForm, Text.mem_add, mem_wordForm, ← isSome_read?_iff]
  split_ifs with hplus hminus hundefined
  · rcases hplus with h | h <;> simp [h]
  · simp [hminus]
  · simp [hundefined]
  · simp [hplus, hminus, hundefined]

/-- **What a class reads** are the texts of its form. -/
theorem isSome_readTrimmed?_iff :
    (type.readTrimmed? cs).isSome = true ↔ cs ∈ type.form.matches' := by
  cases type with
  | integer => exact isSome_readTrimmed?_integer
  | decimal => exact isSome_readTrimmed?_decimal
  | float => exact isSome_readTrimmed?_scientific (.inl rfl)
  | double => exact isSome_readTrimmed?_scientific (.inr rfl)

/-- The datatypes of a class. -/
theorem ofDatatype?_of_mem {datatype : Iri}
    (h : datatype ∈ Vocabulary.integer :: Vocabulary.derivedIntegers) :
    ofDatatype? datatype = some integer := by
  revert datatype
  decide +kernel

end NumericType

namespace Literal

open Decimal NumericType

variable {lexical : String} {datatype : Iri} {type : NumericType}

/-- That a datatype takes the texts of a form, blanks around them aside, and no others: a text that
has the form makes a literal that keeps it and whose value is a number of the class, and any other
text is refused. -/
def TakesNumbers (datatype : Iri) (type : NumericType) (form : RegularExpression Char) : Prop :=
  ∀ lexical : String,
    (Text.trim lexical.toList ∈ form.matches' →
      ∃ value, make lexical (some datatype) none =
        .ok ⟨lexical, some datatype, none, .numeric value type⟩) ∧
    (Text.trim lexical.toList ∉ form.matches' →
      make lexical (some datatype) none = .error (.literal lexical datatype))

/-- A datatype of a class takes the texts of the class. -/
theorem takesNumbers_of_ofDatatype? (h : ofDatatype? datatype = some type) :
    TakesNumbers datatype type type.form := by
  intro lexical
  have hmake : make lexical (some datatype) none = typed lexical datatype := rfl
  have hkind : decode? lexical datatype =
      (type.read? lexical).map fun value => .numeric value type := by
    rw [decode?, h]
  rw [← isSome_readTrimmed?_iff, hmake, typed, hkind, NumericType.read?]
  cases type.readTrimmed? (Text.trim lexical.toList) with
  | some value => exact ⟨fun _ => ⟨value, rfl⟩, fun hnone => absurd rfl hnone⟩
  | none => exact ⟨fun hsome => (nomatch hsome), fun _ => rfl⟩

/-- **The literals of numbers.** Integers, and the datatypes derived from them, take an optional
sign and digits; decimal fractions take an optional sign and digits with at most one point; the
floating-point numbers take these also with an exponent, and the words. -/
theorem takes_numbers :
    (∀ datatype ∈ Vocabulary.integer :: Vocabulary.derivedIntegers,
      TakesNumbers datatype .integer (signForm * digitsForm)) ∧
    TakesNumbers Vocabulary.decimal .decimal (signForm * unsignedForm) ∧
    TakesNumbers Vocabulary.float .float scientificForm ∧
    TakesNumbers Vocabulary.double .double scientificForm :=
  ⟨fun _ hdatatype => takesNumbers_of_ofDatatype? (ofDatatype?_of_mem hdatatype),
    takesNumbers_of_ofDatatype? (ofDatatype?_datatype .decimal),
    takesNumbers_of_ofDatatype? (ofDatatype?_datatype .float),
    takesNumbers_of_ofDatatype? (ofDatatype?_datatype .double)⟩

/-- A byte with a sign, zeros in front and blanks around it. -/
theorem takes_numbers_byte :
    ∃ byte ∈ Vocabulary.integer :: Vocabulary.derivedIntegers,
      byte.text = "http://www.w3.org/2001/XMLSchema#byte" ∧
      Text.trim "\u00a0+007\n".toList ∈ (signForm * digitsForm).matches' ∧
      ∃ value, make "\u00a0+007\n" (some byte) none =
        .ok ⟨"\u00a0+007\n", some byte, none, .numeric value .integer⟩ := by
  have hbyte : (⟨"http://www.w3.org/2001/XMLSchema#byte"⟩ : Iri) ∈
      Vocabulary.integer :: Vocabulary.derivedIntegers := by decide +kernel
  have hform : Text.trim "\u00a0+007\n".toList ∈ (signForm * digitsForm).matches' := by
    decide +kernel
  exact ⟨_, hbyte, rfl, hform, (takes_numbers.1 _ hbyte _).1 hform⟩

/-- A point may stand at an end, but an exponent needs digits before it and after it. -/
example : [".5", "5.", "-1.5E+3", "+INF", ".", "e5", "1e", "1e5.0", "--1", "inf"].map
    (fun text => decide (text.toList ∈ scientificForm.matches')) =
      [true, true, true, true, false, false, false, false, false, false] := by
  decide +kernel

end Literal

end SolutionAlgebra
