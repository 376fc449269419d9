import Mathlib.Computability.RegularExpressions

/-! # Regular forms of texts

The forms that a text may have are written as regular expressions over characters: one of several
characters, a given word, a part that may be left out, a part that is repeated. The characters of a
text are among those that its form names, which is how a form excludes a character anywhere.

* **`Text.oneOf`**, **`Text.word`**, **`Text.optional`**, **`Text.repeated`** — forms, each with the
  texts that have it.
* **`Text.mem_atoms`** — the characters of a text are named by its form. -/

namespace SolutionAlgebra.Text

open RegularExpression (char)

variable {cs ds : List Char} {form : RegularExpression Char}

/-! ## Forms -/

/-- One of some characters. -/
def oneOf (cs : List Char) : RegularExpression Char := (cs.map char).sum

/-- A given text. -/
def word (cs : List Char) : RegularExpression Char := (cs.map char).prod

/-- A part that may be left out. -/
def optional (form : RegularExpression Char) : RegularExpression Char := 1 + form

/-- A part that stands at least once. -/
def repeated (form : RegularExpression Char) : RegularExpression Char := form * form.star

/-- The language of a single character. -/
theorem mem_char {c : Char} : ds ∈ (char c).matches' ↔ ds = [c] := Iff.rfl

/-- The language of alternatives. -/
theorem mem_add {a b : RegularExpression Char} :
    cs ∈ (a + b).matches' ↔ cs ∈ a.matches' ∨ cs ∈ b.matches' := Iff.rfl

/-- The language of one form after another. -/
theorem mem_mul {a b : RegularExpression Char} : cs ∈ (a * b).matches' ↔
    ∃ as ∈ a.matches', ∃ bs ∈ b.matches', as ++ bs = cs := Language.mem_mul

/-- The texts of one character. -/
theorem mem_oneOf : ds ∈ (oneOf cs).matches' ↔ ∃ c ∈ cs, ds = [c] := by
  induction cs with
  | nil => simp [oneOf, Language.notMem_zero]
  | cons c cs ih =>
    have hcons : oneOf (c :: cs) = char c + oneOf cs := rfl
    rw [hcons, mem_add, mem_char, ih, List.exists_mem_cons_iff]

/-- Only the given text. -/
theorem mem_word : ds ∈ (word cs).matches' ↔ ds = cs := by
  induction cs generalizing ds with
  | nil => exact Iff.rfl
  | cons c cs ih =>
    have hcons : word (c :: cs) = char c * word cs := rfl
    simp [hcons, mem_mul, mem_char, ih, eq_comm, -RegularExpression.matches']

/-- Nothing, or the part. -/
theorem mem_optional : cs ∈ (optional form).matches' ↔ cs = [] ∨ cs ∈ form.matches' := Iff.rfl

/-- Any number of characters of a set. -/
theorem mem_star_oneOf : ds ∈ (oneOf cs).star.matches' ↔ ∀ d ∈ ds, d ∈ cs := by
  rw [RegularExpression.matches'_star, Language.mem_kstar]
  constructor
  · rintro ⟨pieces, rfl, hpieces⟩ d hd
    obtain ⟨piece, hpiece, hd⟩ := List.mem_flatten.1 hd
    obtain ⟨c, hc, rfl⟩ := mem_oneOf.1 (hpieces piece hpiece)
    rwa [List.mem_singleton.1 hd]
  · intro h
    refine ⟨ds.map fun d => [d], ?_, ?_⟩
    · rw [← List.flatMap_def, List.flatMap_singleton']
    · simpa [mem_oneOf] using h

/-- At least one character of a set. -/
theorem mem_repeated_oneOf :
    ds ∈ (repeated (oneOf cs)).matches' ↔ ds ≠ [] ∧ ∀ d ∈ ds, d ∈ cs := by
  simp only [repeated, mem_mul, mem_oneOf, mem_star_oneOf]
  constructor
  · rintro ⟨_, ⟨c, hc, rfl⟩, es, hes, rfl⟩
    exact ⟨List.cons_ne_nil _ _, List.forall_mem_cons.2 ⟨hc, hes⟩⟩
  · rintro ⟨hne, h⟩
    obtain ⟨d, es, rfl⟩ := List.exists_cons_of_ne_nil hne
    obtain ⟨hd, hes⟩ := List.forall_mem_cons.1 h
    exact ⟨[d], ⟨d, hd, rfl⟩, es, hes, rfl⟩

/-! ## Characters of forms -/

/-- The characters that a form names. -/
def atoms : RegularExpression Char → List Char
  | .char c => [c]
  | .plus a b => atoms a ++ atoms b
  | .comp a b => atoms a ++ atoms b
  | .star a => atoms a
  | .zero => []
  | .epsilon => []

/-- **The characters of a text are named by its form.** -/
theorem mem_atoms (h : cs ∈ form.matches') : ∀ c ∈ cs, c ∈ atoms form := by
  induction form generalizing cs with
  | zero => cases h
  | epsilon =>
    cases h
    simp
  | char a =>
    cases h
    simp [atoms]
  | plus a b iha ihb =>
    intro c hc
    rcases h with h | h
    · exact List.mem_append_left _ (iha h c hc)
    · exact List.mem_append_right _ (ihb h c hc)
  | comp a b iha ihb =>
    obtain ⟨as, has, bs, hbs, rfl⟩ := Language.mem_mul.1 h
    intro c hc
    rcases List.mem_append.1 hc with hc | hc
    · exact List.mem_append_left _ (iha has c hc)
    · exact List.mem_append_right _ (ihb hbs c hc)
  | star a iha =>
    -- every character stands in one of the pieces
    obtain ⟨pieces, rfl, hpieces⟩ := Language.mem_kstar.1 h
    intro c hc
    obtain ⟨piece, hpiece, hc⟩ := List.mem_flatten.1 hc
    exact iha (hpieces piece hpiece) c hc

end SolutionAlgebra.Text
