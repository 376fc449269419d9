import SolutionAlgebra.Proofs.Engine.Runs
import SolutionAlgebra.Proofs.Iri.Characters
import SolutionAlgebra.Proofs.LanguageTag.Characters
import SolutionAlgebra.Proofs.Term.Quotation

/-! # RDF texts read back

The RDF text of a literal is the escaped lexical form between quotation marks and after it the
language or the datatype. Reading undoes the escapes, finds the same language or datatype, and
decodes the same lexical form under it.

* **`Literal.Built`** — the ways to make a literal from texts; **`Literal.Formed`** — the forms that
  such a literal has.
* **`Term.parseQuoted_rdf`**, **`Term.parse_rdf`**, **`Term.parse_rdf_iri`** — what is read from RDF
  texts.
* **`rdf_reads_back`** — the same for every table of prefixes and every engine. -/

namespace SolutionAlgebra

/-! ## Literals as they are made -/

namespace Literal

/-- The ways to make a literal from texts. -/
inductive Built : Literal → Prop where
  /-- As a plain string. -/
  | plain (lexical : String) : Built (plain lexical)
  /-- As a string with a language. -/
  | tagged {lexical tag : String} {l : Literal} (h : Literal.tagged lexical tag = .ok l) : Built l
  /-- From a text and a datatype. -/
  | typed {lexical iri : String} {datatype : Iri} {l : Literal}
      (hdatatype : Iri.ofText iri = .ok datatype) (h : Literal.typed lexical datatype = .ok l) :
      Built l
  /-- From a text and an optional datatype and language. -/
  | make {lexical : String} {datatype : Option Iri} {language : Option String} {l : Literal}
      (hdatatype : ∀ d ∈ datatype, ∃ iri, Iri.ofText iri = .ok d)
      (h : Literal.make lexical datatype language = .ok l) : Built l
  /-- As a quoted text. -/
  | quoted {prefixes : Prefixes} {cs : List Char} {l : Literal}
      (h : Term.parseQuoted prefixes cs = .ok l) : Built l
  /-- As the text of a term. -/
  | parsed {prefixes : Prefixes} {text : String} {l : Literal}
      (h : Term.parse prefixes text = .ok (.literal l)) : Built l

/-- The forms that a literal made from texts has. -/
inductive Formed : Literal → Prop where
  /-- A plain string. -/
  | plain (lexical : String) : Formed (plain lexical)
  /-- A string with an accepted language. -/
  | tagged (lexical : String) {tag : String} (h : LanguageTag.Accepted tag) :
      Formed ⟨lexical, none, some tag, .string⟩
  /-- A text of the lexical space of an accepted datatype, with its value. -/
  | typed {lexical : String} {datatype : Iri} {kind : LiteralKind} (hdatatype : datatype.Accepted)
      (h : decode? lexical datatype = some kind) : Formed ⟨lexical, some datatype, none, kind⟩

/-- That the datatype and the language that a literal states are accepted ones. -/
structure Sound (l : Literal) : Prop where
  /-- The datatype is an accepted IRI. -/
  datatype : ∀ datatype ∈ l.datatype, datatype.Accepted
  /-- The language is an accepted tag. -/
  language : ∀ tag ∈ l.language, LanguageTag.Accepted tag

/-- A literal that has one of the forms is sound. -/
theorem Formed.sound {l : Literal} (h : l.Formed) : l.Sound := by
  cases h with
  | plain lexical => exact ⟨fun _ h => (nomatch h), fun _ h => (nomatch h)⟩
  | tagged lexical htag =>
      refine ⟨fun _ h => (nomatch h), fun tag h => ?_⟩
      cases h
      exact htag
  | typed hdatatype hkind =>
      refine ⟨fun datatype h => ?_, fun _ h => (nomatch h)⟩
      cases h
      exact hdatatype

/-- A literal with a language tag is well formed. -/
theorem formed_of_tagged {lexical tag : String} {l : Literal}
    (h : Literal.tagged lexical tag = .ok l) : Formed l := by
  unfold Literal.tagged at h
  split at h
  · next hparse =>
    cases h
    exact .tagged lexical (LanguageTag.accepted_of_parse hparse)
  · cases h

/-- A literal with a datatype that is accepted is well formed. -/
theorem formed_of_typed {lexical : String} {datatype : Iri} {l : Literal}
    (hdatatype : datatype.Accepted) (h : Literal.typed lexical datatype = .ok l) : Formed l := by
  unfold Literal.typed at h
  split at h
  · next hkind =>
    cases h
    exact .typed hdatatype hkind
  · cases h

end Literal

/-- What is read as an IRI is accepted. -/
theorem Iri.accepted_of_ofText {text : String} {i : Iri} (h : Iri.ofText text = .ok i) :
    i.Accepted := Iri.accepted_of_parse (mapError_eq_ok_iff.1 h)

namespace Literal

/-- A literal made from its parts is well formed if its datatype is accepted. -/
theorem formed_of_make {lexical : String} {datatype : Option Iri} {language : Option String}
    {l : Literal} (hdatatype : ∀ d ∈ datatype, d.Accepted)
    (h : Literal.make lexical datatype language = .ok l) : Formed l := by
  unfold Literal.make at h
  split at h
  · exact formed_of_tagged h
  · exact formed_of_typed (hdatatype _ rfl) h
  · cases h
    exact .plain lexical

end Literal

/-- The datatypes of numbers are accepted. -/
theorem NumericType.datatype_accepted (type : NumericType) : type.datatype.Accepted := by
  cases type <;> decide +kernel

/-- The datatype of truth values is accepted. -/
theorem Vocabulary.boolean_accepted : Vocabulary.boolean.Accepted := by
  decide +kernel

/-- A truth value has the form of a literal made from its text. -/
theorem Literal.formed_boolean (value : Bool) : (Literal.boolean value).Formed := by
  cases value <;> exact .typed Vocabulary.boolean_accepted rfl

namespace Term

variable {prefixes : Prefixes} {cs : List Char}

/-- An IRI read in angle brackets is accepted. -/
theorem accepted_of_parseIri {i : Iri} (h : parseIri cs = .ok i) : i.Accepted :=
  Iri.accepted_of_ofText (mapError_eq_ok_iff.1 h)

/-- An IRI read from a prefixed name is accepted. -/
theorem accepted_of_parseName {i : Iri} (h : parseName prefixes cs = .ok i) : i.Accepted := by
  unfold parseName at h
  split at h
  · cases h
  · -- a prefix of the table prevails over a bare IRI
    split at h
    · exact accepted_of_parseIri h
    · split at h
      · next hparse =>
        cases h
        exact Iri.accepted_of_parse hparse
      · cases h

/-- A datatype that is read is accepted. -/
theorem accepted_of_parseDatatype {i : Iri} (h : parseDatatype prefixes cs = .ok i) :
    i.Accepted := by
  unfold parseDatatype at h
  split at h
  · exact accepted_of_parseIri h
  · exact accepted_of_parseName h

/-- A literal read in quotes is well formed. -/
theorem formed_of_parseQuoted {l : Literal} (h : parseQuoted prefixes cs = .ok l) : l.Formed := by
  unfold parseQuoted at h
  split at h
  · cases h
  · -- what follows the closing quotation mark decides: nothing, a language, or a datatype
    split at h
    · cases h
      exact .plain _
    · exact Literal.formed_of_tagged (mapError_eq_ok_iff.1 h)
    · obtain ⟨datatype, hdatatype, h⟩ := bind_eq_ok_iff.1 h
      exact Literal.formed_of_typed (accepted_of_parseDatatype hdatatype) (mapError_eq_ok_iff.1 h)
    · cases h

/-- A literal read without quotes is well formed. -/
theorem formed_of_parseBare {l : Literal} (h : parseBare prefixes cs = .ok (.literal l)) :
    l.Formed := by
  unfold parseBare at h
  split at h
  · cases h
    exact Literal.formed_boolean true
  · split at h
    · cases h
      exact Literal.formed_boolean false
    · split at h
      · next type _ =>
        obtain ⟨_, htyped, hl⟩ := map_eq_ok_iff.1 h
        cases hl
        exact Literal.formed_of_typed type.datatype_accepted (mapError_eq_ok_iff.1 htyped)
      · obtain ⟨_, -, hl⟩ := map_eq_ok_iff.1 h
        cases hl

/-- Every literal that is read is well formed. -/
theorem formed_of_parse {text : String} {l : Literal} (h : parse prefixes text = .ok (.literal l)) :
    l.Formed := by
  unfold parse parseTrimmed at h
  -- of the forms that a term may have, variables and IRIs are no literals
  split at h
  · cases h
  · split at h <;> cases h
  · split at h <;> cases h
  · cases h
  · obtain ⟨_, hquoted, hl⟩ := map_eq_ok_iff.1 h
    cases hl
    exact formed_of_parseQuoted hquoted
  · split at h
    · obtain ⟨_, -, hl⟩ := map_eq_ok_iff.1 h
      cases hl
    · exact formed_of_parseBare h

end Term

/-- Every literal made from texts has one of the forms. -/
theorem Literal.Built.formed {l : Literal} (h : l.Built) : l.Formed := by
  cases h with
  | plain lexical => exact .plain lexical
  | tagged h => exact formed_of_tagged h
  | typed hdatatype h => exact formed_of_typed (Iri.accepted_of_ofText hdatatype) h
  | make hdatatype h =>
      refine formed_of_make (fun d hd => ?_) h
      obtain ⟨_, hiri⟩ := hdatatype d hd
      exact Iri.accepted_of_ofText hiri
  | quoted h => exact Term.formed_of_parseQuoted h
  | parsed h => exact Term.formed_of_parse h

/-! ## Reading -/

namespace Term

variable {prefixes : Prefixes}

/-- The characters of the RDF text of a literal. -/
theorem toList_rdf (l : Literal) :
    l.rdf.toList = '"' :: (Literal.escape l.lexical.toList ++ '"' :: l.suffix.toList) := by
  simp [Literal.rdf, String.toList_append]

/-- The text between two characters is found between them. -/
theorem between?_append (first last : Char) (cs : List Char) :
    between? first last (first :: (cs ++ [last])) = some cs := by
  simp [between?]

/-- An accepted IRI is read from its characters. -/
theorem parseIri_toList {i : Iri} (h : i.Accepted) : parseIri i.text.toList = .ok i := by
  rw [parseIri, String.ofList_toList, Iri.ofText, h]
  rfl

/-- The quoted part of the RDF text of a literal is the lexical form. -/
theorem read?_rdf (l : Literal) :
    Quotation.read? l.rdf.toList = some (l.lexical.toList, l.suffix.toList) := by
  rw [toList_rdf]
  exact Quotation.readBody?_escape l.lexical.toList l.suffix.toList

/-- The RDF text of a literal with a datatype is read under the datatype. -/
theorem parseQuoted_rdf_typed {datatype : Iri} (hdatatype : datatype.Accepted) (lexical : String)
    (kind : LiteralKind) :
    parseQuoted prefixes (Literal.rdf ⟨lexical, some datatype, none, kind⟩).toList =
      (Literal.typed lexical datatype).mapError .value := by
  have hsuffix : (Literal.suffix ⟨lexical, some datatype, none, kind⟩).toList =
      '^' :: '^' :: '<' :: (datatype.text.toList ++ ['>']) := by simp [Literal.suffix]
  rw [parseQuoted, read?_rdf, hsuffix]
  simp only [String.ofList_toList, parseDatatype, between?_append, parseIri_toList hdatatype]
  rfl

/-- **The RDF text of a literal reads back as a quoted text.** -/
theorem parseQuoted_rdf {l : Literal} (h : l.Formed) :
    parseQuoted prefixes l.rdf.toList = .ok l := by
  cases h with
  | plain lexical =>
      rw [parseQuoted, read?_rdf]
      simp [Literal.suffix, Literal.plain]
  | @tagged lexical tag htag =>
      rw [parseQuoted, read?_rdf]
      have hsuffix : (Literal.suffix ⟨lexical, none, some tag, .string⟩).toList =
          '@' :: tag.toList := by simp [Literal.suffix]
      rw [hsuffix]
      simp only [String.ofList_toList, Literal.tagged]
      rw [htag]
      rfl
  | @typed lexical datatype kind hdatatype hkind =>
      rw [parseQuoted_rdf_typed hdatatype, Literal.typed, hkind]
      rfl

/-- The characters of language tags are not blank. -/
theorem not_blank_of_tag {c : Char} (h : LanguageTag.isCharacter c = true) :
    Text.isBlank c = false := by
  have hrange : 0x2D ≤ c.toNat ∧ c.toNat ≤ 0x7A := by
    rcases Bool.or_eq_true_iff.1 h with h | h
    · have hclasses : c.isAlphanum = ((decide ('A'.val ≤ c.val ∧ c.val ≤ 'Z'.val) ||
          (decide ('a'.val ≤ c.val) && decide (c.val ≤ 'z'.val))) ||
          (decide ('0'.val ≤ c.val) && decide (c.val ≤ '9'.val))) := rfl
      rw [hclasses] at h
      simp only [Bool.or_eq_true, Bool.and_eq_true, decide_eq_true_eq] at h
      change ((65 ≤ c.toNat ∧ c.toNat ≤ 90) ∨ (97 ≤ c.toNat ∧ c.toNat ≤ 122)) ∨
        (48 ≤ c.toNat ∧ c.toNat ≤ 57) at h
      omega
    · rw [beq_iff_eq.1 h]
      decide
  simp only [Text.isBlank, Bool.or_eq_false_iff, Bool.and_eq_false_iff, decide_eq_false_iff_not,
    beq_eq_false_iff_ne]
  omega

/-- The RDF text of a literal starts with a quotation mark and does not end with a blank. -/
theorem toList_rdf_ends {l : Literal} (h : l.Formed) :
    ∃ cs last, l.rdf.toList = '"' :: (cs ++ [last]) ∧ Text.isBlank last = false := by
  rw [toList_rdf]
  cases h with
  | plain lexical => exact ⟨Literal.escape lexical.toList, '"', by rfl, by decide⟩
  | @tagged lexical tag htag =>
      -- a tag is not empty, so the last character is one of the tag
      obtain ⟨hne, hchars⟩ := htag.isCharacter
      have hlast := not_blank_of_tag (hchars _ (List.getLast_mem hne))
      refine ⟨Literal.escape lexical.toList ++ '"' :: '@' :: tag.toList.dropLast, _, ?_, hlast⟩
      rw [List.append_assoc, List.cons_append, List.cons_append, List.dropLast_concat_getLast]
      simp [Literal.suffix]
  | @typed lexical datatype kind hdatatype hkind =>
      refine ⟨Literal.escape lexical.toList ++ '"' :: '^' :: '^' :: '<' :: datatype.text.toList,
        '>', ?_, by decide⟩
      simp [Literal.suffix]

/-- **The RDF text of a literal reads back as a term.** -/
theorem parse_rdf {l : Literal} (h : l.Formed) : parse prefixes l.rdf = .ok (.literal l) := by
  have htrim : Text.trim l.rdf.toList = l.rdf.toList := by
    obtain ⟨cs, last, hends, hlast⟩ := toList_rdf_ends h
    rw [hends]
    exact Text.trim_of_not_blank (by decide) hlast
  have hquoted : parseTrimmed prefixes l.rdf l.rdf.toList =
      (parseQuoted prefixes l.rdf.toList).map .literal := by
    rw [toList_rdf]
    rfl
  rw [parse, htrim, hquoted, parseQuoted_rdf h]
  rfl

/-- The characters of the RDF text of an IRI. -/
theorem toList_rdf_iri (i : Iri) : (iri i).rdf.toList = '<' :: (i.text.toList ++ ['>']) := by
  simp [rdf]

/-- The RDF text of an IRI tells the IRI. -/
theorem rdf_iri_eq_iff {i j : Iri} : (iri i).rdf = (iri j).rdf ↔ i = j := by
  rw [← String.toList_inj, toList_rdf_iri, toList_rdf_iri, List.cons_inj_right,
    List.append_cancel_right_eq, String.toList_inj]
  exact ⟨congrArg Iri.mk, congrArg Iri.text⟩

/-- **The RDF text of an IRI reads back as the IRI.** -/
theorem parse_rdf_iri {i : Iri} (h : i.Accepted) : parse prefixes (iri i).rdf = .ok (.iri i) := by
  have htrim : Text.trim (iri i).rdf.toList = (iri i).rdf.toList := by
    rw [toList_rdf_iri]
    exact Text.trim_of_not_blank (by decide) (by decide)
  rw [parse, htrim, toList_rdf_iri]
  simp only [parseTrimmed, between?_append, parseIri_toList h]
  rfl

end Term

/-! ## All texts -/

/-- **RDF texts read back**: whatever prefixes and variables are known, the RDF text of a literal
made from texts gives back the same literal, with its value, and that of an IRI the same IRI. -/
theorem rdf_reads_back :
    (∀ l : Literal, l.Built →
      (∀ prefixes, Term.parseQuoted prefixes l.rdf.toList = .ok l ∧
        Term.parse prefixes l.rdf = .ok (.literal l)) ∧
      ∀ engine, ((Engine.parseTerm l.rdf).run).run engine = (.ok (.literal l), engine)) ∧
    (∀ (text : String) (i : Iri), Iri.ofText text = .ok i →
      (∀ prefixes, Term.parse prefixes (Term.iri i).rdf = .ok (.iri i)) ∧
      ∀ engine, ((Engine.parseTerm (Term.iri i).rdf).run).run engine = (.ok (.iri i), engine)) := by
  constructor
  · intro l hbuilt
    have hformed := hbuilt.formed
    refine ⟨fun prefixes => ⟨Term.parseQuoted_rdf hformed, Term.parse_rdf hformed⟩, ?_⟩
    intro engine
    exact Engine.parseTerm_run (Term.parse_rdf hformed) (fun _ hvar => nomatch hvar)
  · intro text i hread
    have haccepted := Iri.accepted_of_ofText hread
    refine ⟨fun prefixes => Term.parse_rdf_iri haccepted, ?_⟩
    intro engine
    exact Engine.parseTerm_run (Term.parse_rdf_iri haccepted) (fun _ hvar => nomatch hvar)

/-- A text with a quotation mark, a backslash and a line end, in a language given in capitals; and
an IRI. -/
theorem rdf_reads_back_tagged :
    Literal.tagged "a\"\\\n" "EN-US" = .ok ⟨"a\"\\\n", none, some "en-us", .string⟩ ∧
      Term.parse Prefixes.common "\"a\\\"\\\\\\n\"@en-us" =
        .ok (.literal ⟨"a\"\\\n", none, some "en-us", .string⟩) ∧
      Iri.ofText "http://e/x" = .ok ⟨"http://e/x"⟩ ∧
      Term.parse Prefixes.common "<http://e/x>" = .ok (.iri ⟨"http://e/x"⟩) := by
  have htagged : Literal.tagged "a\"\\\n" "EN-US" =
      .ok ⟨"a\"\\\n", none, some "en-us", .string⟩ := by rfl
  have hiri : Iri.ofText "http://e/x" = .ok ⟨"http://e/x"⟩ := by rfl
  exact ⟨htagged, ((rdf_reads_back.1 _ (.tagged htagged)).1 Prefixes.common).2, hiri,
    (rdf_reads_back.2 _ _ hiri).1 Prefixes.common⟩

end SolutionAlgebra
