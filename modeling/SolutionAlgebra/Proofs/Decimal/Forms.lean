import Mathlib.Data.List.TakeWhile
import SolutionAlgebra.Proofs.Decimal.Digits
import SolutionAlgebra.Proofs.Text.Forms

/-! # The grammar of decimal numbers

A decimal number is read if it has the form that its notation prescribes: an optional sign, digits
with at most one point before, among or after them, and an optional exponent.

* **`digitsForm`**, **`unsignedForm`**, **`exponentForm`**, **`signForm`** — the forms of the parts.
* **`Unsigned`** — the texts of digits with at most one point.
* **`isSome_readUnsigned?_iff`**, **`isSome_read?_iff`** — what is read, without and with a sign. -/

namespace SolutionAlgebra.Decimal

open Text (mem_add mem_mul mem_char mem_oneOf mem_optional mem_repeated_oneOf mem_star_oneOf)
open RegularExpression (char)

variable {c : Char} {cs ds rest : List Char} {form : RegularExpression Char}

/-! ## Forms -/

/-- A digit. -/
def digitForm : RegularExpression Char := Text.oneOf "0123456789".toList

/-- At least one digit. -/
def digitsForm : RegularExpression Char := Text.repeated digitForm

/-- A sign that may be left out. -/
def signForm : RegularExpression Char := Text.optional (Text.oneOf ['+', '-'])

/-- Digits, or digits with a point after or among them, or a point and digits. -/
def unsignedForm : RegularExpression Char :=
  digitsForm * Text.optional (char '.' * digitForm.star) + char '.' * digitsForm

/-- An exponent. -/
def exponentForm : RegularExpression Char :=
  Text.oneOf ['e', 'E'] * (signForm * digitsForm)

/-! ## Digits -/

/-- The digits, one by one. -/
theorem isDigit_iff_mem : isDigit c = true ↔ c ∈ "0123456789".toList := by
  constructor
  · intro h
    rw [isDigit, Bool.and_eq_true, decide_eq_true_iff, decide_eq_true_iff] at h
    have hlow : 48 ≤ c.toNat := h.1
    have hhigh : c.toNat ≤ 57 := h.2
    have hall : ∀ n < 58, 48 ≤ n → Char.ofNat n ∈ "0123456789".toList := by decide
    rw [← Char.ofNat_toNat c]
    exact hall _ (by omega) hlow
  · have hall : "0123456789".toList.all isDigit = true := by decide
    exact List.all_eq_true.1 hall c

/-- Any number of digits. -/
theorem mem_star_digitForm : cs ∈ digitForm.star.matches' ↔ IsDigits cs := by
  simp only [digitForm, mem_star_oneOf, ← isDigit_iff_mem, IsDigits]

/-- At least one digit. -/
theorem mem_digitsForm : cs ∈ digitsForm.matches' ↔ cs ≠ [] ∧ IsDigits cs := by
  simp only [digitsForm, digitForm, mem_repeated_oneOf, ← isDigit_iff_mem, IsDigits]

/-- What is read as a number has the form of digits. -/
theorem isSome_readNat?_iff : (readNat? cs).isSome = true ↔ cs ∈ digitsForm.matches' := by
  rw [mem_digitsForm, readNat?]
  split <;> simp_all [IsDigits]

/-! ## Signs -/

/-- A text that does not start with a sign. -/
def Bare (cs : List Char) : Prop := ∀ c ∈ cs.head?, c ≠ '+' ∧ c ≠ '-'

/-- A text that does not start with a sign has none to be taken off. -/
theorem Bare.readSign (h : Bare cs) : readSign cs = (false, cs) := by
  unfold Decimal.readSign
  split
  · exact absurd rfl (h _ rfl).2
  · exact absurd rfl (h _ rfl).1
  · rfl

/-- A form with an optional sign in front, if the form itself has no sign there. -/
theorem mem_signForm_mul (h : ∀ ds ∈ form.matches', Bare ds) :
    cs ∈ (signForm * form).matches' ↔ (readSign cs).2 ∈ form.matches' := by
  simp only [mem_mul, signForm, mem_optional, mem_oneOf]
  constructor
  · -- without a sign the reader would take one off if the form started with it
    rintro ⟨sign, rfl | ⟨c, hc, rfl⟩, ds, hds, rfl⟩
    · rwa [List.nil_append, (h ds hds).readSign]
    · rcases List.mem_pair.1 hc with rfl | rfl <;> exact hds
  · intro hmem
    unfold Decimal.readSign at hmem
    split at hmem
    · next rest => exact ⟨['-'], .inr ⟨'-', by decide, rfl⟩, rest, hmem, rfl⟩
    · next rest => exact ⟨['+'], .inr ⟨'+', by decide, rfl⟩, rest, hmem, rfl⟩
    · exact ⟨[], .inl rfl, cs, hmem, rfl⟩

/-- Digits do not start with a sign. -/
theorem bare_of_digit (h : isDigit c = true ∨ c = '.') : Bare (c :: cs) := by
  intro d hd
  cases hd
  constructor
  · rintro rfl
    exact absurd h (by decide)
  · rintro rfl
    exact absurd h (by decide)

/-- An optional sign and digits. -/
theorem mem_signForm_mul_digitsForm :
    cs ∈ (signForm * digitsForm).matches' ↔ (readSign cs).2 ∈ digitsForm.matches' := by
  refine mem_signForm_mul fun ds hds => ?_
  obtain ⟨hne, hdigits⟩ := mem_digitsForm.1 hds
  obtain ⟨c, ds, rfl⟩ := List.exists_cons_of_ne_nil hne
  exact bare_of_digit (.inl (hdigits c List.mem_cons_self))

/-- What is read as an integer has the form of an optional sign and digits. -/
theorem isSome_readInt?_iff :
    (readInt? cs).isSome = true ↔ cs ∈ (signForm * digitsForm).matches' := by
  rw [mem_signForm_mul_digitsForm, readInt?_eq, Option.isSome_map, isSome_readNat?_iff]

/-- What is read as an exponent is one, or nothing. -/
theorem isSome_readExponent?_iff :
    (readExponent? cs).isSome = true ↔ cs ∈ (Text.optional exponentForm).matches' := by
  rw [mem_optional, exponentForm, mem_mul]
  simp only [mem_oneOf, ← isSome_readInt?_iff]
  cases cs with
  | nil => simp [readExponent?]
  | cons c cs =>
    simp only [readExponent?]
    grind

/-! ## Digits with a point -/

/-- Digits with at most one point, which may stand at either end, but not alone. -/
inductive Unsigned : List Char → Prop where
  /-- Digits without a point. -/
  | whole {cs : List Char} (hdigits : IsDigits cs) (hne : cs ≠ []) : Unsigned cs
  /-- Digits before or after a point. -/
  | pointed {cs ds : List Char} (hwhole : IsDigits cs) (hfraction : IsDigits ds)
      (hne : cs ≠ [] ∨ ds ≠ []) : Unsigned (cs ++ '.' :: ds)

/-- The form of digits with a point is the one that it should be. -/
theorem mem_unsignedForm : cs ∈ unsignedForm.matches' ↔ Unsigned cs := by
  rw [unsignedForm, mem_add, mem_mul, mem_mul]
  simp only [mem_optional, mem_mul, mem_char, mem_digitsForm, mem_star_digitForm]
  constructor
  · rintro (⟨whole, ⟨hne, hwhole⟩, _, rfl | ⟨_, rfl, fraction, hfraction, rfl⟩, rfl⟩ |
      ⟨_, rfl, fraction, ⟨hne, hfraction⟩, rfl⟩)
    · rw [List.append_nil]
      exact .whole hwhole hne
    · exact .pointed hwhole hfraction (.inl hne)
    · exact @Unsigned.pointed [] fraction (fun _ h => nomatch h) hfraction (.inr hne)
  · intro h
    cases h with
    | whole hdigits hne => exact .inl ⟨cs, ⟨hne, hdigits⟩, [], .inl rfl, List.append_nil _⟩
    | @pointed whole fraction hwhole hfraction hne =>
      by_cases hempty : whole = []
      · subst hempty
        exact .inr ⟨_, rfl, fraction, ⟨hne.resolve_left (· rfl), hfraction⟩, rfl⟩
      · exact .inl ⟨whole, ⟨hempty, hwhole⟩, _, .inr ⟨_, rfl, fraction, hfraction, rfl⟩, rfl⟩

/-- The digits at the start of a text, and the rest, make up the text. -/
theorem exists_spanDigits (cs : List Char) :
    ∃ digits rest, spanDigits cs = (digits, rest) ∧ IsDigits digits ∧ cs = digits ++ rest :=
  ⟨_, _, rfl, fun _ hc => List.mem_takeWhile_imp hc, List.takeWhile_append_dropWhile.symm⟩

/-- An exponent starts with its letter. -/
theorem head_of_mem_exponentForm (h : rest ∈ (Text.optional exponentForm).matches') :
    ∀ c ∈ rest.head?, c ∈ ['e', 'E'] := by
  rw [mem_optional, exponentForm, mem_mul] at h
  rcases h with rfl | ⟨_, hmark, rest, -, rfl⟩
  · simp
  · obtain ⟨c, hc, rfl⟩ := mem_oneOf.1 hmark
    simpa using hc

/-- An exponent does not go on with a digit or a point. -/
theorem ends_of_mem_exponentForm (h : rest ∈ (Text.optional exponentForm).matches') :
    Ends rest ∧ rest.head? ≠ some '.' := by
  have hhead := head_of_mem_exponentForm h
  have hletters : ∀ c ∈ ['e', 'E'], isDigit c = false ∧ c ≠ '.' := by
    intro c hc
    rcases List.mem_pair.1 hc with rfl | rfl <;> decide
  exact ⟨fun c hc => (hletters c (hhead c hc)).1, fun hc => (hletters _ (hhead _ hc)).2 rfl⟩

/-- Digits with a point are taken off, and what follows them is read as an exponent. -/
theorem Unsigned.isSome_readUnsigned? (h : Unsigned cs) (hends : Ends rest)
    (hpoint : rest.head? ≠ some '.') :
    (readUnsigned? (cs ++ rest)).isSome = (readExponent? rest).isSome := by
  unfold readUnsigned?
  cases h with
  | whole hdigits hne =>
    rw [spanDigits_append hdigits hends]
    dsimp only
    split
    · exact absurd rfl hpoint
    · simp [hne]
  | @pointed whole fraction hwhole hfraction hne =>
    rw [List.append_assoc, List.cons_append, spanDigits_append hwhole (ends_cons.2 (by decide))]
    simp only [spanDigits_append hfraction hends]
    rw [if_neg (by simpa [or_iff_not_imp_left] using hne), Option.isSome_map]

/-- **What is read without a sign** is digits with at most one point, and an exponent or nothing. -/
theorem isSome_readUnsigned?_iff : (readUnsigned? cs).isSome = true ↔
    cs ∈ (unsignedForm * Text.optional exponentForm).matches' := by
  simp only [mem_mul, mem_unsignedForm]
  constructor
  · -- the reader goes from the digits to a point, if there is one, and to the digits after it
    intro h
    obtain ⟨whole, rest, hspan, hwhole, rfl⟩ := exists_spanDigits cs
    unfold readUnsigned? at h
    rw [hspan] at h
    dsimp only at h
    split at h
    · next after =>
      obtain ⟨fraction, rest, hspan', hfraction, rfl⟩ := exists_spanDigits after
      rw [hspan'] at h
      dsimp only at h
      split at h
      · cases h
      · next hne =>
        rw [Option.isSome_map, isSome_readExponent?_iff] at h
        refine ⟨_, .pointed hwhole hfraction ?_, rest, h, by simp⟩
        simpa [or_iff_not_imp_left] using hne
    · dsimp only at h
      split at h
      · cases h
      · next hne =>
        rw [Option.isSome_map, isSome_readExponent?_iff] at h
        exact ⟨whole, .whole hwhole (by simpa using hne), rest, h, rfl⟩
  · -- it stops where the number does, since an exponent starts with a letter
    rintro ⟨number, hnumber, rest, hrest, rfl⟩
    obtain ⟨hends, hpoint⟩ := ends_of_mem_exponentForm hrest
    rw [hnumber.isSome_readUnsigned? hends hpoint, isSome_readExponent?_iff]
    exact hrest

/-- A number has a digit. -/
theorem Unsigned.any_isDigit (h : Unsigned cs) : cs.any isDigit = true := by
  have hany : ∀ {ds : List Char}, IsDigits ds → ds ≠ [] → ds.any isDigit = true := by
    intro ds hds hne
    obtain ⟨c, ds, rfl⟩ := List.exists_cons_of_ne_nil hne
    exact List.any_eq_true.2 ⟨c, List.mem_cons_self, hds c List.mem_cons_self⟩
  cases h with
  | whole hdigits hne => exact hany hdigits hne
  | pointed hwhole hfraction hne =>
    rw [List.any_append, List.any_cons]
    rcases hne with hne | hne
    · simp [hany hwhole hne]
    · simp [hany hfraction hne]

/-- A number has nothing but digits and a point. -/
theorem Unsigned.mem (h : Unsigned cs) : ∀ c ∈ cs, isDigit c = true ∨ c = '.' := by
  cases h with
  | whole hdigits _ => exact fun c hc => .inl (hdigits c hc)
  | pointed hwhole hfraction _ =>
    exact List.forall_mem_append.2 ⟨fun c hc => .inl (hwhole c hc),
      List.forall_mem_cons.2 ⟨.inr rfl, fun c hc => .inl (hfraction c hc)⟩⟩

/-- A number has at most one point. -/
theorem Unsigned.count_point_le (h : Unsigned cs) : cs.count '.' ≤ 1 := by
  cases h with
  | whole hdigits _ => simp [hdigits.count_point]
  | pointed hwhole hfraction _ => simp [hwhole.count_point, hfraction.count_point]

/-- A number does not start with a sign. -/
theorem Unsigned.bare_append (h : Unsigned cs) (rest : List Char) : Bare (cs ++ rest) := by
  cases h with
  | whole hdigits hne =>
    obtain ⟨c, cs, rfl⟩ := List.exists_cons_of_ne_nil hne
    exact bare_of_digit (.inl (hdigits c List.mem_cons_self))
  | @pointed whole _ hwhole _ _ =>
    cases whole with
    | nil => exact bare_of_digit (.inr rfl)
    | cons c whole => exact bare_of_digit (.inl (hwhole c List.mem_cons_self))

/-- An optional sign and digits with at most one point. -/
theorem mem_signForm_mul_unsignedForm :
    cs ∈ (signForm * unsignedForm).matches' ↔ Unsigned (readSign cs).2 := by
  rw [mem_signForm_mul, mem_unsignedForm]
  intro ds hds
  simpa using (mem_unsignedForm.1 hds).bare_append []

/-- The sign does not decide whether a number is read. -/
theorem isSome_read? (cs : List Char) :
    (read? cs).isSome = (readUnsigned? (readSign cs).2).isSome := by
  unfold read?
  rw [Option.isSome_map]

/-- **What is read** is an optional sign, digits with at most one point, and an exponent or
nothing. -/
theorem isSome_read?_iff : (read? cs).isSome = true ↔
    cs ∈ (signForm * (unsignedForm * Text.optional exponentForm)).matches' := by
  rw [isSome_read?, isSome_readUnsigned?_iff, mem_signForm_mul]
  intro ds hds
  obtain ⟨number, hnumber, rest, -, rfl⟩ := mem_mul.1 hds
  exact (mem_unsignedForm.1 hnumber).bare_append rest

/-- Digits with at most one point are read, with or without a sign. -/
theorem isSome_read?_of_unsigned (h : Unsigned (readSign cs).2) : (read? cs).isSome = true := by
  have hread := h.isSome_readUnsigned? ends_nil (by simp)
  rw [List.append_nil] at hread
  rw [isSome_read?, hread]
  rfl

end SolutionAlgebra.Decimal
