import Mathlib.Data.List.Forall2
import SolutionAlgebra.Literal.Basic
import SolutionAlgebra.Term.Parser

/-! # The grammar of quoted texts

What stands between quotation marks in an RDF text is the escaped lexical form. Reading undoes the
escapes character by character and stops at the first quotation mark that is not escaped.

All that is read is a sequence of pieces, and each piece writes one character: a character that
writes itself, a backslash with a letter, or a backslash and `u` with a code. The grammar is the
same whatever counts as a code. Reading follows it with one kind of code more than four hexadecimal
digits: a plus sign and three of them.

* **`Quotation.readBody?_escape`** — an escaped text with a quotation mark after it reads back as
  the text, and what follows the mark is left.
* **`Quotation.Writes`**, **`Quotation.Quotes`** — the pieces, and the texts that are made of them.
* **`Quotation.readBody?_eq_some_iff`** — what is read is what the pieces write.
* **`Quotation.read?_eq_some_iff_quotes`** — the same from the opening mark on, and when a text is
  made with four digits in every code.
* **`Quotation.not_quotes_of_read?`** — a text that is read with a plus sign in a code. -/

namespace SolutionAlgebra

/-! ## Hexadecimal codes -/

namespace Text

variable {c : Char} {cs : List Char}

/-- A hexadecimal digit, in either case. -/
def IsHexDigit (c : Char) : Prop :=
  ('0' ≤ c ∧ c ≤ '9') ∨ ('A' ≤ c ∧ c ≤ 'F') ∨ ('a' ≤ c ∧ c ≤ 'f')

instance (c : Char) : Decidable (IsHexDigit c) := by
  unfold IsHexDigit
  infer_instance

/-- The hexadecimal digits are the characters with a value. -/
theorem hexValue?_eq_none_iff : hexValue? c = none ↔ ¬ IsHexDigit c := by
  simp only [hexValue?, IsHexDigit, Bool.and_eq_true, decide_eq_true_eq]
  split
  · simp [*]
  · split
    · simp [*]
    · split <;> simp [*]

/-- A plus sign in front does not count. -/
theorem hexNumber_plus (cs : List Char) : hexNumber ('+' :: cs) = hexNumber cs := rfl

end Text

namespace Quotation

open Text (IsHexDigit hexNumber)

variable {Code Code' : List Char → Prop} {cs digits piece text rest : List Char} {c d : Char}

/-! ## Escaped texts -/

/-- A text read in front of which a character is put. -/
def consFirst (c : Char) (found : List Char × List Char) : List Char × List Char :=
  (c :: found.1, found.2)

/-- A character that is neither a quotation mark nor a backslash stands for itself. -/
theorem readBody?_plain (hmark : c ≠ '"') (hslash : c ≠ '\\') :
    readBody? (c :: rest) = (readBody? rest).map (consFirst c) := by
  rw [readBody?.eq_def]
  split
  -- of the forms that a text may have, only the last one fits
  · next h => cases h
  · next h =>
    cases h
    exact absurd rfl hmark
  · next h =>
    cases h
    exact absurd rfl hslash
  · next h =>
    cases h
    exact absurd rfl hslash
  · next h =>
    cases h
    rw [if_neg (by simpa using hslash)]
    rfl

/-- A backslash and a letter stand for one character. -/
theorem readBody?_escaped (hletter : c ≠ 'u') (h : escaped? c = some d) :
    readBody? ('\\' :: c :: rest) = (readBody? rest).map (consFirst d) := by
  rw [readBody?.eq_def]
  split
  · next h' => cases h'
  · next h' => cases h'
  · next h' =>
    cases h'
    exact absurd rfl hletter
  · next h' =>
    cases h'
    rw [h]
    cases readBody? rest <;> rfl
  · next hnot h' =>
    cases h'
    exact (hnot c rest rfl rfl).elim

/-- Reading undoes the escape of one character. -/
theorem readBody?_escapeChar (c : Char) (rest : List Char) :
    readBody? (Literal.escapeChar c ++ rest) = (readBody? rest).map (consFirst c) := by
  -- the five characters that are escaped, then all the others
  by_cases hmark : c = '"'
  · subst hmark
    exact readBody?_escaped (by decide) rfl
  by_cases hslash : c = '\\'
  · subst hslash
    exact readBody?_escaped (by decide) rfl
  by_cases hn : c = '\n'
  · subst hn
    exact readBody?_escaped (by decide) rfl
  by_cases hr : c = '\r'
  · subst hr
    exact readBody?_escaped (by decide) rfl
  by_cases ht : c = '\t'
  · subst ht
    exact readBody?_escaped (by decide) rfl
  have hself : Literal.escapeChar c = [c] := by
    simp [Literal.escapeChar, hmark, hslash, hn, hr, ht]
  rw [hself, List.singleton_append, readBody?_plain hmark hslash]

/-- **Escaped texts read back**, up to the quotation mark after them. -/
theorem readBody?_escape (text rest : List Char) :
    readBody? (Literal.escape text ++ '"' :: rest) = some (text, rest) := by
  induction text with
  | nil => rfl
  | cons c text ih =>
      rw [Literal.escape_cons, List.append_assoc, readBody?_escapeChar, ih]
      rfl
/-! ## Pieces -/

/-- The letters that may stand after a backslash, each with the character that the two write. -/
def letters : List (Char × Char) :=
  [('n', '\n'), ('r', '\r'), ('t', '\t'), ('"', '"'), ('\x27', '\x27'), ('\\', '\\')]

/-- The texts that write one character, for what counts as a code. -/
inductive Writes (Code : List Char → Prop) : List Char → Char → Prop where
  /-- A character that is neither a quotation mark nor a backslash writes itself. -/
  | plain {c : Char} (hmark : c ≠ '"') (hslash : c ≠ '\\') : Writes Code [c] c
  /-- A backslash and a letter. -/
  | letter {c d : Char} (h : (c, d) ∈ letters) : Writes Code ['\\', c] d
  /-- A backslash, the letter `u` and the number of a character. -/
  | code {digits : List Char} (h : Code digits) (hvalid : (hexNumber digits).isValidChar) :
      Writes Code ('\\' :: 'u' :: digits) (Char.ofNat (hexNumber digits))

/-- Pieces that write a text, in quotation marks and with something after them. -/
structure Pieces (Code : List Char → Prop) (pieces : List (List Char)) (cs text rest : List Char) :
    Prop where
  /-- Each piece writes a character of the text. -/
  writes : List.Forall₂ (Writes Code) pieces text
  /-- The pieces stand between quotation marks. -/
  quoted : cs = '"' :: (pieces.flatten ++ '"' :: rest)

/-- That a text is quoted as another, with something after it. -/
def Quotes (Code : List Char → Prop) (cs text rest : List Char) : Prop :=
  ∃ pieces, Pieces Code pieces cs text rest

/-- Four hexadecimal digits. -/
def IsCode (cs : List Char) : Prop := cs.length = 4 ∧ ∀ c ∈ cs, IsHexDigit c

/-- A plus sign and three hexadecimal digits. -/
def IsSignedCode (cs : List Char) : Prop :=
  ∃ digits, cs = '+' :: digits ∧ digits.length = 3 ∧ ∀ c ∈ digits, IsHexDigit c

/-- What is read as a code. -/
def IsReadCode (cs : List Char) : Prop := IsCode cs ∨ IsSignedCode cs

/-! ## Reading pieces -/

/-- The letters are read as what they write with a backslash. -/
theorem escaped?_eq_some_iff : escaped? c = some d ↔ (c, d) ∈ letters := by
  simp only [escaped?, letters, List.mem_cons, Prod.mk.injEq, List.not_mem_nil, or_false,
    beq_iff_eq, Bool.or_eq_true]
  grind

/-- The numbers of characters. -/
theorem character?_eq_some_iff {n : ℕ} :
    character? n = some c ↔ n.isValidChar ∧ c = Char.ofNat n := by
  simp [character?, eq_comm]

/-- After a plus sign, three digits are read as a code. -/
theorem isReadCode_plus :
    IsReadCode ('+' :: digits) ↔ digits.length = 3 ∧ ∀ c ∈ digits, IsHexDigit c := by
  have hplus : ¬ IsHexDigit '+' := by decide
  simp [IsReadCode, IsCode, IsSignedCode, hplus]

/-- Without a plus sign, four digits are read as a code. -/
theorem isReadCode_of_ne (hc : c ≠ '+') : IsReadCode (c :: cs) ↔ IsCode (c :: cs) := by
  simp [IsReadCode, IsSignedCode, hc]

/-- Of four characters, those that are read as a code. -/
theorem readCode?_eq_some_iff {a b c d : Char} {n : ℕ} :
    readCode? [a, b, c, d] = some n ↔
      IsReadCode [a, b, c, d] ∧ hexNumber [a, b, c, d] = n := by
  by_cases ha : a = '+'
  · subst ha
    rw [isReadCode_plus, Text.hexNumber_plus]
    simp [readCode?, Text.hexValue?_eq_none_iff]
  · rw [isReadCode_of_ne ha]
    simp [readCode?, IsCode, Text.hexValue?_eq_none_iff, ha]

/-- What is read as a code has four characters. -/
theorem IsReadCode.exists_four (h : IsReadCode cs) : ∃ a b c d, cs = [a, b, c, d] := by
  have hlength : cs.length = 4 := by
    rcases h with h | ⟨digits, rfl, hdigits, -⟩
    · exact h.1
    · rw [List.length_cons, hdigits]
  match cs, hlength with
  | [a, b, c, d], _ => exact ⟨a, b, c, d, rfl⟩

/-- What a backslash, the letter `u` and four characters write is read. -/
theorem readBody?_code {a b c d : Char} (h : IsReadCode [a, b, c, d])
    (hvalid : (hexNumber [a, b, c, d]).isValidChar) :
    readBody? ('\\' :: 'u' :: a :: b :: c :: d :: rest) =
      (readBody? rest).map (consFirst (Char.ofNat (hexNumber [a, b, c, d]))) := by
  have hcode : (readCode? [a, b, c, d]).bind character? =
      some (Char.ofNat (hexNumber [a, b, c, d])) :=
    Option.bind_eq_some_iff.2
      ⟨_, readCode?_eq_some_iff.2 ⟨h, rfl⟩, character?_eq_some_iff.2 ⟨hvalid, rfl⟩⟩
  rw [readBody?, hcode]
  cases readBody? rest <;> rfl

/-- **Reading a piece** takes it off and puts the character that it writes in front of the rest. -/
theorem Writes.readBody?_append (h : Writes IsReadCode piece c) (rest : List Char) :
    readBody? (piece ++ rest) = (readBody? rest).map (consFirst c) := by
  cases h with
  | plain hmark hslash => exact readBody?_plain hmark hslash
  | @letter letter _ hletter =>
    have hu : letter ≠ 'u' := by
      rintro rfl
      simp [letters] at hletter
    exact readBody?_escaped hu (escaped?_eq_some_iff.2 hletter)
  | @code digits hcode hvalid =>
    obtain ⟨a, b, c, d, rfl⟩ := hcode.exists_four
    exact readBody?_code hcode hvalid

/-- **What is read up to the closing mark is what the pieces before it write.** -/
theorem readBody?_eq_some_iff : readBody? cs = some (text, rest) ↔
    ∃ pieces, List.Forall₂ (Writes IsReadCode) pieces text ∧
      cs = pieces.flatten ++ '"' :: rest := by
  constructor
  · -- each case of the reader that succeeds takes one piece off
    intro h
    fun_induction readBody? cs generalizing text with
    | case1 => cases h
    | case2 after =>
      cases h
      exact ⟨[], .nil, rfl⟩
    | case3 a b c d after char found last hread hcode ih =>
      cases h
      obtain ⟨pieces, hwrites, rfl⟩ := ih hread
      obtain ⟨n, hn, hchar⟩ := Option.bind_eq_some_iff.1 hcode
      obtain ⟨hdigits, rfl⟩ := readCode?_eq_some_iff.1 hn
      obtain ⟨hvalid, rfl⟩ := character?_eq_some_iff.1 hchar
      exact ⟨_ :: pieces, .cons (.code hdigits hvalid) hwrites, rfl⟩
    | case4 => cases h
    | case5 c after _ char found last hread hescaped ih =>
      cases h
      obtain ⟨pieces, hwrites, rfl⟩ := ih hread
      exact ⟨_ :: pieces, .cons (.letter (escaped?_eq_some_iff.1 hescaped)) hwrites, rfl⟩
    | case6 => cases h
    | case7 => cases h
    | case8 c after hmark _ _ hslash ih =>
      obtain ⟨⟨found, last⟩, hread, hpair⟩ := Option.map_eq_some_iff.1 h
      cases hpair
      obtain ⟨pieces, hwrites, rfl⟩ := ih hread
      exact ⟨[c] :: pieces, .cons (.plain hmark (by simpa using hslash)) hwrites, rfl⟩
  · rintro ⟨pieces, hwrites, rfl⟩
    induction hwrites with
    | nil => rfl
    | cons hpiece _ ih =>
      rw [List.flatten_cons, List.append_assoc, hpiece.readBody?_append, ih]
      rfl

/-! ## Signs in codes -/

/-- How a piece with a sign in its code starts. -/
def signedStart : List Char := ['\\', 'u', '+']

/-- A piece is written with four digits in its code if it is read and has no sign in it. -/
theorem writes_isCode_iff :
    Writes IsCode piece c ↔ Writes IsReadCode piece c ∧ ¬ signedStart <+: piece := by
  have hplus : ¬ IsHexDigit '+' := by decide
  constructor
  · intro h
    cases h with
    | plain hmark hslash => exact ⟨.plain hmark hslash, by simp [signedStart]⟩
    | letter hletter => exact ⟨.letter hletter, by simp [signedStart]⟩
    | code hcode hvalid =>
      refine ⟨.code (.inl hcode) hvalid, ?_⟩
      rintro ⟨rest, hrest⟩
      cases hrest
      exact hplus (hcode.2 '+' List.mem_cons_self)
  · rintro ⟨h, hsign⟩
    cases h with
    | plain hmark hslash => exact .plain hmark hslash
    | letter hletter => exact .letter hletter
    | code hcode hvalid =>
      rcases hcode with hcode | ⟨digits, rfl, -⟩
      · exact .code hcode hvalid
      · exact absurd ⟨digits, rfl⟩ hsign

/-- The same for a sequence of pieces. -/
theorem forall₂_writes_isCode_iff {pieces : List (List Char)} :
    List.Forall₂ (Writes IsCode) pieces text ↔
      List.Forall₂ (Writes IsReadCode) pieces text ∧
        ∀ piece ∈ pieces, ¬ signedStart <+: piece := by
  induction pieces generalizing text with
  | nil => simp
  | cons piece pieces ih =>
    cases text with
    | nil => simp
    | cons c text => grind [List.forall₂_cons, writes_isCode_iff]

/-! ## Quoted texts -/

/-- A quotation mark, and after it what is read up to the closing one. -/
theorem read?_eq_some_iff : read? cs = some (text, rest) ↔ Quotes IsReadCode cs text rest := by
  constructor
  · intro h
    unfold read? at h
    split at h
    · obtain ⟨pieces, hwrites, rfl⟩ := readBody?_eq_some_iff.1 h
      exact ⟨pieces, hwrites, rfl⟩
    · cases h
  · rintro ⟨pieces, hwrites, rfl⟩
    exact readBody?_eq_some_iff.2 ⟨pieces, hwrites, rfl⟩

/-- A text is quoted with four digits in every code if no piece has a sign in its code. -/
theorem quotes_isCode_iff : Quotes IsCode cs text rest ↔
    ∃ pieces, Pieces IsReadCode pieces cs text rest ∧
      ∀ piece ∈ pieces, ¬ signedStart <+: piece := by
  constructor
  · rintro ⟨pieces, hwrites, hquoted⟩
    obtain ⟨hwrites, hsigns⟩ := forall₂_writes_isCode_iff.1 hwrites
    exact ⟨pieces, ⟨hwrites, hquoted⟩, hsigns⟩
  · rintro ⟨pieces, ⟨hwrites, hquoted⟩, hsigns⟩
    exact ⟨pieces, forall₂_writes_isCode_iff.2 ⟨hwrites, hsigns⟩, hquoted⟩

/-- **What is read of a quoted text.** A text is read as another, with something left, exactly if it
is quoted so by pieces that write the other, where a code is four hexadecimal digits or a plus sign
and three of them. It is quoted with four digits in every code exactly if no piece has a sign in
its code. -/
theorem read?_eq_some_iff_quotes (cs text rest : List Char) :
    (read? cs = some (text, rest) ↔ Quotes IsReadCode cs text rest) ∧
    (Quotes IsCode cs text rest ↔
      ∃ pieces, Pieces IsReadCode pieces cs text rest ∧
        ∀ piece ∈ pieces, ¬ signedStart <+: piece) :=
  ⟨read?_eq_some_iff, quotes_isCode_iff⟩

/-- A letter written with a sign in its code is read, although it is not quoted with four digits in
every code. -/
theorem not_quotes_of_read? :
    ¬ ∀ cs text rest, read? cs = some (text, rest) ↔ Quotes IsCode cs text rest := by
  intro h
  have hread : read? "\"\\u+041\"".toList = some (['A'], []) := by decide
  obtain ⟨pieces, hwrites, hquoted⟩ := (h _ _ _).1 hread
  -- one character is written, by the only piece there is
  obtain ⟨piece, rfl⟩ : ∃ piece, pieces = [piece] := List.length_eq_one_iff.1 hwrites.length_eq
  have hpiece : piece ++ ['"'] = "\\u+041".toList ++ ['"'] := by simpa using hquoted.symm
  obtain rfl := List.append_cancel_right hpiece
  rw [List.forall₂_cons, writes_isCode_iff] at hwrites
  exact hwrites.1.2 ⟨['0', '4', '1'], rfl⟩

end Quotation

end SolutionAlgebra
