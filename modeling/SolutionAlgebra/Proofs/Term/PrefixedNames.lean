import SolutionAlgebra.Proofs.Literal.Forms
import SolutionAlgebra.Proofs.Term.Prefixes
import SolutionAlgebra.Proofs.Term.ReadBack

/-! # Prefixed names

As the datatype of a quoted text, a prefixed name is the IRI that it expands to. As a term of its
own it is read without the blanks at its end, and only after the other forms of terms were tried.
A short name of letters and digits looks like one of these only if it starts with a digit: then the
prefixed name is taken for a number, which no text with a colon is. Blanks at the end matter since
an IRI may end with one, such as a no-break space.

* **`Term.parseQuoted_prefixed`** — a prefixed name as a datatype.
* **`Term.parse_prefixed_of_not_digit`**, **`Term.parse_prefixed_of_digit`** — a prefixed name as a
  term.
* **`Term.parse_prefixed`** — when the two are the same IRI.
* **`Term.not_parse_prefixed`** — a prefixed name that is a datatype and no term. -/

namespace SolutionAlgebra

namespace NumericType

open Decimal (Bare)

/-- A text that does not start with a sign has none to be dropped. -/
theorem dropSign_of_bare {cs : List Char} (h : Bare cs) : dropSign cs = cs := by
  rw [dropSign_eq, h.readSign]

/-- No number has a colon. -/
theorem not_mem_form_of_colon {type : NumericType} {cs : List Char} (h : ':' ∈ cs) :
    cs ∉ type.form.matches' := by
  have hatoms : ':' ∉ Text.atoms type.form := by cases type <;> decide
  exact fun hform => hatoms (Text.mem_atoms hform ':' h)

end NumericType

namespace Term

open Decimal (Bare isDigit)

variable {prefixes : Prefixes} {c : Char} {cs name rest : List Char} {space text : String}

/-! ## How a prefixed name starts -/

/-- The characters that a prefixed name with a short name of letters and digits starts with. -/
def Opens (c : Char) : Prop := c.isAlphanum = true ∨ c = ':'

/-- The characters that variables, labels, terms in brackets or quotation marks, signs and
fractions start with. -/
def otherStarts : List Char := ['?', '$', '_', '<', '"', '+', '-', '.']

/-- A prefixed name does not start as one of the others. -/
theorem Opens.ne {d : Char} (h : Opens c) (hd : d ∈ otherStarts) : c ≠ d := by
  have hothers : (otherStarts.all fun d => !d.isAlphanum && d != ':') = true := by decide
  rintro rfl
  have hother := List.all_eq_true.1 hothers c hd
  rcases h with h | rfl
  · simp [h] at hother
  · simp at hother

/-- A prefixed name does not start with a blank. -/
theorem Opens.not_blank (h : Opens c) : Text.isBlank c = false := by
  rcases h with h | rfl
  · exact not_blank_of_tag (by rw [LanguageTag.isCharacter, h, Bool.true_or])
  · decide

/-! ## The forms that are tried first -/

/-- A text that does not start with the first of two characters is not between them. -/
theorem between?_of_ne {first last : Char} (h : c ≠ first) :
    between? first last (c :: cs) = none := by
  simp [between?, h]

/-- A text that starts as a prefixed name is bare. -/
theorem parseTrimmed_of_opens (h : Opens c) :
    parseTrimmed prefixes text (c :: cs) = parseBare prefixes (c :: cs) := by
  unfold parseTrimmed
  split
  -- the other forms have first characters of their own
  · next heq => cases heq
  · next heq =>
    cases heq
    exact absurd rfl (h.ne (by decide))
  · next heq =>
    cases heq
    exact absurd rfl (h.ne (by decide))
  · next heq =>
    cases heq
    exact absurd rfl (h.ne (by decide))
  · next heq =>
    cases heq
    exact absurd rfl (h.ne (by decide))
  · rw [between?_of_ne (h.ne (by decide))]

/-- A text that starts as a prefixed name is taken for a number if it starts with a digit. -/
theorem isSome_numericType?_of_opens (h : Opens c) :
    (numericType? (c :: cs)).isSome = isDigit c := by
  have hbare : Bare (c :: cs) := by
    intro d hd
    cases hd
    exact ⟨h.ne (by decide), h.ne (by decide)⟩
  have hpoint : c ≠ '.' := h.ne (by decide)
  rw [numericType?, NumericType.dropSign_of_bare hbare]
  by_cases hdigit : isDigit c = true <;> simp [hdigit, hpoint]

/-- A prefixed name is no truth value. -/
theorem prefixed_ne_truth (name rest : List Char) :
    name ++ ':' :: rest ≠ ['t', 'r', 'u', 'e'] ∧
      name ++ ':' :: rest ≠ ['f', 'a', 'l', 's', 'e'] := by
  have hcolon : ':' ∈ name ++ ':' :: rest := by simp
  constructor
  · intro h
    rw [h] at hcolon
    exact absurd hcolon (by decide)
  · intro h
    rw [h] at hcolon
    exact absurd hcolon (by decide)

/-- A text with a colon is no literal of a number. -/
theorem typed_of_colon (h : ':' ∈ Text.trim text.toList) (type : NumericType) :
    Literal.typed text type.datatype = .error (.literal text type.datatype) :=
  (Literal.takesNumbers_of_ofDatatype? (NumericType.ofDatatype?_datatype type) text).2
    (NumericType.not_mem_form_of_colon h)

/-! ## Names -/

/-- A short name that is registered stands for its namespace. -/
theorem parseName_append (hcolon : ':' ∉ name)
    (hfind : prefixes.find? (String.ofList name) = some space) (rest : List Char) :
    parseName prefixes (name ++ ':' :: rest) = parseIri (space.toList ++ rest) := by
  rw [parseName, Text.cutAt?_append hcolon]
  simp only [hfind]

/-- What is read as an IRI is its text. -/
theorem text_of_parseIri {i : Iri} (h : parseIri cs = .ok i) : i.text.toList = cs := by
  rw [Iri.text_of_parse (mapError_eq_ok_iff.1 (mapError_eq_ok_iff.1 h)), String.toList_ofList]

/-! ## Short names of letters and digits -/

section

variable (hname : ∀ c ∈ name, c.isAlphanum = true)
include hname

/-- A prefixed name starts with a letter or digit, or with the colon. -/
theorem exists_cons_prefixed (rest : List Char) :
    ∃ c cs, name ++ ':' :: rest = c :: cs ∧ Opens c := by
  cases name with
  | nil => exact ⟨':', rest, rfl, .inr rfl⟩
  | cons c name => exact ⟨c, name ++ ':' :: rest, rfl, .inl (hname c List.mem_cons_self)⟩

/-- Of a prefixed name only the blanks at its end do not count. -/
theorem trim_prefixed (rest : List Char) :
    Text.trim (name ++ ':' :: rest) = name ++ ':' :: Text.trimEnd rest := by
  have hstart : Text.trimStart (name ++ ':' :: rest) = name ++ ':' :: rest := by
    obtain ⟨c, cs, hcs, hc⟩ := exists_cons_prefixed hname rest
    rw [hcs, Text.trimStart_cons_of_not_blank hc.not_blank]
  rw [Text.trim, hstart, Text.trimEnd_append_cons (by decide)]

/-- A prefixed name is taken for a number if its short name starts with a digit. -/
theorem isSome_numericType?_prefixed (rest : List Char) :
    (numericType? (name ++ ':' :: rest)).isSome = name.head?.any isDigit := by
  cases name with
  | nil => exact isSome_numericType?_of_opens (.inr rfl)
  | cons c name => exact isSome_numericType?_of_opens (.inl (hname c List.mem_cons_self))

/-- **As a datatype**, a prefixed name is what it is as a name. -/
theorem parseDatatype_prefixed (rest : List Char) :
    parseDatatype prefixes (name ++ ':' :: rest) = parseName prefixes (name ++ ':' :: rest) := by
  obtain ⟨c, cs, hcs, hc⟩ := exists_cons_prefixed hname rest
  rw [hcs, parseDatatype, between?_of_ne (hc.ne (by decide))]

/-- The datatype of a quoted text may be a prefixed name. -/
theorem parseQuoted_prefixed {lexical : List Char} {i : Iri}
    (hread : parseName prefixes (name ++ ':' :: rest) = .ok i)
    (hquoted : Quotation.read? cs = some (lexical, '^' :: '^' :: (name ++ ':' :: rest))) :
    parseQuoted prefixes cs = (Literal.typed (String.ofList lexical) i).mapError .value := by
  rw [parseQuoted, hquoted]
  simp only [parseDatatype_prefixed hname, hread]
  rfl

/-- As a term, a prefixed name is bare, and the blanks at its end do not count. -/
theorem parse_prefixed_eq_parseBare (htext : text.toList = name ++ ':' :: rest) :
    parse prefixes text = parseBare prefixes (name ++ ':' :: Text.trimEnd rest) := by
  obtain ⟨c, cs, hcs, hc⟩ := exists_cons_prefixed hname (Text.trimEnd rest)
  rw [parse, htext, trim_prefixed hname, hcs, parseTrimmed_of_opens hc]

/-- **As a term**, a prefixed name is what it is as a name without the blanks at its end, if its
short name does not start with a digit. -/
theorem parse_prefixed_of_not_digit (hdigit : name.head?.any isDigit = false)
    (htext : text.toList = name ++ ':' :: rest) :
    parse prefixes text = (parseName prefixes (name ++ ':' :: Text.trimEnd rest)).map .iri := by
  have hnumber : numericType? (name ++ ':' :: Text.trimEnd rest) = none := by
    rw [← Option.not_isSome_iff_eq_none, isSome_numericType?_prefixed hname, hdigit]
    decide
  obtain ⟨htrue, hfalse⟩ := prefixed_ne_truth name (Text.trimEnd rest)
  rw [parse_prefixed_eq_parseBare hname htext, parseBare, if_neg htrue, if_neg hfalse, hnumber]

/-- **As a number**, which it is not, a prefixed name is taken if its short name starts with a
digit. -/
theorem parse_prefixed_of_digit (hdigit : name.head?.any isDigit = true)
    (htext : text.toList = name ++ ':' :: rest) :
    ∃ type : NumericType, parse prefixes text = .error (.value
      (.literal (String.ofList (name ++ ':' :: Text.trimEnd rest)) type.datatype)) := by
  obtain ⟨type, htype⟩ : ∃ type, numericType? (name ++ ':' :: Text.trimEnd rest) = some type := by
    rw [← Option.isSome_iff_exists, isSome_numericType?_prefixed hname, hdigit]
  have hcolon : ':' ∈ Text.trim (String.ofList (name ++ ':' :: Text.trimEnd rest)).toList := by
    rw [String.toList_ofList, trim_prefixed hname]
    simp
  obtain ⟨htrue, hfalse⟩ := prefixed_ne_truth name (Text.trimEnd rest)
  refine ⟨type, ?_⟩
  rw [parse_prefixed_eq_parseBare hname htext, parseBare, if_neg htrue, if_neg hfalse, htype]
  simp only [typed_of_colon hcolon]
  rfl

/-- A prefixed name is the same IRI as a term if it is neither taken for a number nor loses its
end. -/
theorem parse_prefixed_eq_ok_iff {i : Iri}
    (hcolon : ':' ∉ name) (hfind : prefixes.find? (String.ofList name) = some space)
    (hread : parseName prefixes (name ++ ':' :: rest) = .ok i)
    (htext : text.toList = name ++ ':' :: rest) :
    parse prefixes text = .ok (.iri i) ↔
      name.head?.any isDigit = false ∧ ∀ c ∈ rest.getLast?, Text.isBlank c = false := by
  constructor
  · intro hparse
    cases hdigit : name.head?.any isDigit with
    | true =>
      obtain ⟨type, hfault⟩ := parse_prefixed_of_digit hname hdigit htext
      rw [hfault] at hparse
      cases hparse
    | false =>
      -- the IRI keeps all of the text, so nothing was taken off its end
      rw [parse_prefixed_of_not_digit hname hdigit htext, parseName_append hcolon hfind] at hparse
      obtain ⟨_, hshort, hsame⟩ := map_eq_ok_iff.1 hparse
      cases hsame
      rw [parseName_append hcolon hfind] at hread
      have hend := text_of_parseIri hread
      rw [text_of_parseIri hshort, List.append_cancel_left_eq] at hend
      exact ⟨rfl, Text.trimEnd_eq_self_iff.1 hend⟩
  · rintro ⟨hdigit, hend⟩
    rw [parse_prefixed_of_not_digit hname hdigit htext, Text.trimEnd_eq_self_iff.2 hend, hread]
    rfl

end

/-! ## Terms and datatypes -/

/-- **When a prefixed name is the same IRI as a term and as a datatype.** Let the short name have
letters and digits only, and let what the prefixed name expands to be an IRI. As the datatype of a
quoted text the prefixed name is this IRI. As a term it is, too, exactly if the short name does not
start with a digit and the prefixed name does not end with a blank. If the short name starts with a
digit, the prefixed name is refused as a faulty number; if not, it is, without the blanks at its
end, what it is as a datatype. -/
theorem parse_prefixed {name rest expanded : String} {i : Iri}
    (hname : ∀ c ∈ name.toList, c.isAlphanum = true)
    (hexpand : prefixes.expand (name ++ ":" ++ rest) = .ok expanded)
    (hiri : Iri.ofText expanded = .ok i) :
    (∀ cs lexical, Quotation.read? cs = some (lexical, '^' :: '^' :: (name ++ ":" ++ rest).toList) →
      parseQuoted prefixes cs = (Literal.typed (String.ofList lexical) i).mapError .value) ∧
    (parse prefixes (name ++ ":" ++ rest) = .ok (.iri i) ↔
      name.toList.head?.any isDigit = false ∧
        ∀ c ∈ rest.toList.getLast?, Text.isBlank c = false) ∧
    (name.toList.head?.any isDigit = true → ∃ type : NumericType,
      parse prefixes (name ++ ":" ++ rest) = .error (.value (.literal
        (name ++ ":" ++ String.ofList (Text.trimEnd rest.toList)) type.datatype))) ∧
    (name.toList.head?.any isDigit = false →
      parse prefixes (name ++ ":" ++ rest) = (parseDatatype prefixes
        (name ++ ":" ++ String.ofList (Text.trimEnd rest.toList)).toList).map .iri) := by
  have hcolon : ':' ∉ name.toList := fun hmem => absurd (hname ':' hmem) (by decide)
  obtain ⟨space, hfind, rfl⟩ := (Prefixes.expand_eq_ok_iff hcolon rest).1 hexpand
  rw [← String.ofList_toList (s := name)] at hfind
  have htext : ∀ rest : String,
      (name ++ ":" ++ rest).toList = name.toList ++ ':' :: rest.toList := by simp
  have hread : parseName prefixes (name.toList ++ ':' :: rest.toList) = .ok i := by
    have hexpanded : String.ofList (space.toList ++ rest.toList) = space ++ rest :=
      String.toList_inj.1 (by simp)
    rw [parseName_append hcolon hfind, parseIri, hexpanded, hiri]
    rfl
  refine ⟨fun cs lexical hquoted => ?_,
    parse_prefixed_eq_ok_iff hname hcolon hfind hread (htext rest), fun hdigit => ?_,
    fun hdigit => ?_⟩
  · rw [htext] at hquoted
    exact parseQuoted_prefixed hname hread hquoted
  · have hshown : name ++ ":" ++ String.ofList (Text.trimEnd rest.toList) =
        String.ofList (name.toList ++ ':' :: Text.trimEnd rest.toList) :=
      String.toList_inj.1 (by simp)
    rw [hshown]
    exact parse_prefixed_of_digit hname hdigit (htext rest)
  · rw [parse_prefixed_of_not_digit hname hdigit (htext rest), htext, String.toList_ofList,
      parseDatatype_prefixed hname]

/-- A table with a short name that ends with a digit and one that starts with a digit. -/
def numbered : Prefixes :=
  (Prefixes.common.add "x1" "http://example.org/").add "1x" "http://example.org/"

/-- A short name that ends with a digit is the same in both places. -/
theorem parse_prefixed_numbered :
    (∀ c ∈ "x1".toList, c.isAlphanum = true) ∧
    numbered.expand "x1:a" = .ok "http://example.org/a" ∧
    Iri.ofText "http://example.org/a" = .ok ⟨"http://example.org/a"⟩ ∧
    parseQuoted numbered "\"5\"^^x1:a".toList =
      (Literal.typed "5" ⟨"http://example.org/a"⟩).mapError .value ∧
    parse numbered "x1:a" = .ok (.iri ⟨"http://example.org/a"⟩) := by
  have hname : ∀ c ∈ "x1".toList, c.isAlphanum = true := List.all_eq_true.1 (by decide)
  have hexpand : numbered.expand "x1:a" = .ok "http://example.org/a" := by decide +kernel
  have hiri : Iri.ofText "http://example.org/a" = .ok ⟨"http://example.org/a"⟩ := by rfl
  have hboth := @parse_prefixed numbered "x1" "a" _ _ hname hexpand hiri
  have hend : ∀ c ∈ "a".toList.getLast?, Text.isBlank c = false := by
    rintro _ ⟨⟩
    decide
  exact ⟨hname, hexpand, hiri, hboth.1 _ ['5'] (by decide), hboth.2.1.2 ⟨by decide, hend⟩⟩

/-- A short name that starts with a digit is taken for a number as a term, also where it expands to
an IRI. -/
theorem not_parse_prefixed :
    ¬ ∀ (prefixes : Prefixes) (name rest expanded : String) (i : Iri),
      (∀ c ∈ name.toList, c.isAlphanum = true) →
      prefixes.expand (name ++ ":" ++ rest) = .ok expanded → Iri.ofText expanded = .ok i →
      parse prefixes (name ++ ":" ++ rest) = .ok (.iri i) := by
  intro h
  have hname : ∀ c ∈ "1x".toList, c.isAlphanum = true := List.all_eq_true.1 (by decide)
  have hexpand : numbered.expand "1x:a" = .ok "http://example.org/a" := by decide +kernel
  have hparse : parse numbered "1x:a" = .ok (.iri ⟨"http://example.org/a"⟩) :=
    h numbered "1x" "a" _ _ hname hexpand rfl
  have htext : "1x:a".toList = "1x".toList ++ ':' :: "a".toList := by decide
  obtain ⟨type, hfault⟩ := @parse_prefixed_of_digit numbered _ _ _ hname (by decide) htext
  rw [hfault] at hparse
  cases hparse

end Term

end SolutionAlgebra
