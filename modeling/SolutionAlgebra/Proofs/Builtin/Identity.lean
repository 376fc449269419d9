import SolutionAlgebra.Aggregation
import SolutionAlgebra.Proofs.Builtin.Answers
import SolutionAlgebra.Proofs.Builtin.Comparisons

/-! # Terms with the same RDF text

Two terms have the same RDF text if they are one IRI, one variable, or literals with one text,
datatype and language. The first character of the text tells what the term is, escapes keep the
closing quotation mark apart from those inside, and what follows it shows the datatype or the
language. It shows only one of them; that suffices because no literal that comes about, by whatever
reading, making, operation or aggregation, states both.

* **`Term.Identical`** — terms that are the same but for the values of literals.
* **`Term.rdf_eq_iff`** — that this is what RDF texts tell, where no literal states both.
* **`Term.Arises`**, **`Term.Arises.statesOne`** — the terms that come about, none of which does.
* **`Builtin.apply_sameTerm`** — the operation that compares RDF texts. -/

namespace SolutionAlgebra

/-! ## RDF texts -/

namespace Literal

variable {l m : Literal}

/-- That a literal does not state both a datatype and a language. -/
def StatesOne (l : Literal) : Prop := l.datatype = none ∨ l.language = none

/-- What follows the closing quotation mark tells the datatype and the language. -/
theorem suffix_eq_iff (hl : l.StatesOne) (hm : m.StatesOne) :
    l.suffix = m.suffix ↔ l.datatype = m.datatype ∧ l.language = m.language := by
  constructor
  · intro h
    obtain ⟨hlanguage, hdatatype⟩ := language_and_datatype_of_suffix h
    refine ⟨?_, hlanguage⟩
    cases hl' : l.language with
    | none => exact hdatatype hl'
    | some tag =>
      -- next to a language neither of them states a datatype
      have hnone : l.datatype = none := hl.resolve_right (by rw [hl']; nofun)
      have hnone' : m.datatype = none := hm.resolve_right (by rw [← hlanguage, hl']; nofun)
      rw [hnone, hnone']
  · rintro ⟨hdatatype, hlanguage⟩
    unfold suffix
    rw [hdatatype, hlanguage]

/-- The RDF text of a literal tells its text, its datatype and its language. -/
theorem rdf_eq_iff (hl : l.StatesOne) (hm : m.StatesOne) :
    l.rdf = m.rdf ↔
      l.lexical = m.lexical ∧ l.datatype = m.datatype ∧ l.language = m.language := by
  rw [rdf_eq_iff_suffix, suffix_eq_iff hl hm]

end Literal

namespace Term

variable {a b t : Term}

/-- That two terms are the same IRI, the same variable, or literals with the same text, datatype and
language. -/
def Identical : Term → Term → Prop
  | iri i, iri j => i = j
  | var v, var w => v = w
  | literal l, literal m =>
      l.lexical = m.lexical ∧ l.datatype = m.datatype ∧ l.language = m.language
  | _, _ => False

instance : DecidableRel Identical
  | iri i, iri j => inferInstanceAs (Decidable (i = j))
  | var v, var w => inferInstanceAs (Decidable (v = w))
  | literal l, literal m =>
      inferInstanceAs (Decidable
        (l.lexical = m.lexical ∧ l.datatype = m.datatype ∧ l.language = m.language))
  | iri _, var _ | iri _, literal _ | var _, iri _ | var _, literal _ | literal _, iri _
  | literal _, var _ => inferInstanceAs (Decidable False)

/-- That a term, if it is a literal, does not state both a datatype and a language. -/
def StatesOne (t : Term) : Prop := ∀ l ∈ t.literal?, l.StatesOne

/-- For a literal as a term this is the same as for the literal. -/
theorem statesOne_literal_iff {l : Literal} : (literal l).StatesOne ↔ l.StatesOne := by
  constructor
  · exact fun h => h l rfl
  · rintro h _ ⟨⟩
    exact h

/-- **RDF texts tell terms apart** where no literal states both a datatype and a language. -/
theorem rdf_eq_iff (ha : a.StatesOne) (hb : b.StatesOne) : a.rdf = b.rdf ↔ a.Identical b := by
  have hform : a.form ≠ b.form → (a.rdf = b.rdf ↔ False) := fun hne =>
    iff_false_intro fun h => hne (form_eq_of_rdf_eq h)
  cases a with
  | iri i =>
    cases b with
    | iri j => exact rdf_iri_eq_iff
    | var w => exact hform nofun
    | literal m => exact hform nofun
  | var v =>
    cases b with
    | iri j => exact hform nofun
    | var w => exact Variable.text_injective.eq_iff
    | literal m => exact hform nofun
  | literal l =>
    cases b with
    | iri j => exact hform nofun
    | var w => exact hform nofun
    | literal m => exact Literal.rdf_eq_iff (ha l rfl) (hb m rfl)

end Term

/-! ## Terms that come about -/

/-- The terms that come about: those that are constructed, literals of a text with a datatype or a
language, literals with another text, and what operations and aggregations make of such terms. -/
inductive Term.Arises : Term → Prop where
  /-- Any IRI, any variable, and the computed literals. -/
  | constructed {t : Term} (h : t.Constructed) : Arises t
  /-- A literal of a text and an optional datatype and language. -/
  | made {lexical : String} {datatype : Option Iri} {language : Option String} {l : Literal}
      (h : Literal.make lexical datatype language = .ok l) : Arises (.literal l)
  /-- A literal with another text. -/
  | withLexical {l : Literal} (h : Arises (.literal l)) (lexical : String) :
      Arises (.literal (l.withLexical lexical))
  /-- What an operation answers. -/
  | operation {present : Calendar.Moment} {draw : Unit → Nat} {b : Builtin} {args : Arguments}
      {t : Term} (hargs : ∀ u, some (.term u) ∈ args → Arises u)
      (h : b.apply present draw args = .ok t) : Arises t
  /-- What an aggregation makes. -/
  | aggregation {a : Aggregation} {separator : String} {ts : List Term} {t : Term}
      (hts : ∀ u ∈ ts, Arises u) (h : a.apply separator ts = .ok t) : Arises t

namespace Literal

variable {l : Literal}

/-- A literal of one of the forms does not state both. -/
theorem Origin.statesOne (h : l.Origin) : l.StatesOne := by
  cases h with
  | formed h =>
    cases h with
    | plain _ => exact .inl rfl
    | tagged _ _ => exact .inl rfl
    | typed _ _ => exact .inr rfl
  | numeric _ _ => exact .inr rfl
  | dateTime _ => exact .inr rfl
  | hexBinary _ => exact .inr rfl

/-- A literal with a language tag states no datatype. -/
theorem statesOne_of_tagged {lexical tag : String} (h : tagged lexical tag = .ok l) :
    l.StatesOne :=
  (Origin.formed (formed_of_tagged h)).statesOne

/-- A literal made from its parts states at most one of the two. -/
theorem statesOne_of_make {lexical : String} {datatype : Option Iri} {language : Option String}
    (h : make lexical datatype language = .ok l) : l.StatesOne := by
  unfold make at h
  split at h
  · exact statesOne_of_tagged h
  · exact .inr (language_of_typed h)
  · cases h
    exact .inl rfl

/-- Another text does not change what a string states. -/
theorem StatesOne.withLexical (h : l.StatesOne) (lexical : String) :
    (l.withLexical lexical).StatesOne := by
  unfold Literal.withLexical
  split
  · exact h
  · exact .inl rfl

end Literal

/-- What an operation answers does not state both if the arguments do not. -/
theorem Builtin.Answer.statesOne {args : Arguments} {t : Term} (h : Answer args t)
    (hargs : ∀ u, some (.term u) ∈ args → u.StatesOne) : t.StatesOne := by
  cases h with
  | iri _ => exact fun _ h => nomatch h
  | argument hmem => exact hargs t hmem
  | lexical hmem lexical =>
      exact Term.statesOne_literal_iff.2
        ((Term.statesOne_literal_iff.1 (hargs _ hmem)).withLexical lexical)
  | tagged htagged => exact Term.statesOne_literal_iff.2 (Literal.statesOne_of_tagged htagged)
  | untagged hlanguage => exact Term.statesOne_literal_iff.2 (.inr hlanguage)

namespace Aggregation

variable {ts : List Term} {t : Term}

/-- The first of the best terms is one of the terms. -/
theorem mem_of_extreme? {preferred : Ordering} (h : extreme? preferred ts = some t) : t ∈ ts := by
  cases ts with
  | nil => cases h
  | cons u ts =>
      cases h
      induction ts generalizing u with
      | nil => exact List.mem_cons_self
      | cons w ts ih =>
          rw [List.foldl_cons]
          rcases List.mem_cons.1 (ih (if w.order u = preferred then w else u)) with h | h
          · rw [h]
            split
            · exact List.mem_cons_of_mem u List.mem_cons_self
            · exact List.mem_cons_self
          · exact List.mem_cons_of_mem u (List.mem_cons_of_mem w h)

/-- A sum has no language. -/
theorem gives_total (ls : List Literal) : Gives (fun l => l.language = none) (total ls) := by
  have hsum : ∀ sum : Literal, sum.language = none → Gives (fun l => l.language = none)
      (ls.foldlM (fun sum l => (Literal.apply .add sum l).mapError .arithmetic) sum :
        Outcome Literal) := by
    induction ls with
    | nil => exact fun sum h => .ok h
    | cons l ls ih => exact fun sum _ => (Literal.gives_apply .add sum l).mapError.bind ih
  exact hsum _ rfl

/-- An average has no language. -/
theorem gives_mean (ls : List Literal) : Gives (fun l => l.language = none) (mean ls) := by
  refine (gives_total ls).bind fun sum _ => ?_
  split
  · exact .ok rfl
  · exact (Literal.gives_apply .divide sum _).mapError

/-- **An aggregation makes one of the terms, or a literal without a language.** -/
theorem mem_or_language_of_apply (a : Aggregation) (separator : String) (ts : List Term) :
    Gives (fun t => t ∈ ts ∨ ∃ l, t = .literal l ∧ l.language = none) (a.apply separator ts) := by
  have hrequired : ∀ found : Option Term, (∀ t ∈ found, t ∈ ts) →
      Gives (fun t => t ∈ ts ∨ ∃ l, t = .literal l ∧ l.language = none) (a.required found) := by
    intro found hfound
    cases found with
    | none => exact .error _
    | some t => exact .ok (.inl (hfound t rfl))
  cases a with
  | count => exact .ok (.inr ⟨_, rfl, rfl⟩)
  | sum => exact (gives_total _).map fun l hl => .inr ⟨l, rfl, hl⟩
  | average => exact (gives_mean _).map fun l hl => .inr ⟨l, rfl, hl⟩
  | least => exact hrequired _ fun t => mem_of_extreme?
  | greatest => exact hrequired _ fun t => mem_of_extreme?
  | concatenation => exact .ok (.inr ⟨_, rfl, rfl⟩)
  | sample => exact hrequired _ fun t => List.mem_of_mem_head?

end Aggregation

/-- **No literal that comes about states both a datatype and a language.** -/
theorem Term.Arises.statesOne {t : Term} (h : t.Arises) : t.StatesOne := by
  induction h with
  | constructed h =>
    cases h with
    | iri _ => exact fun _ h => nomatch h
    | var _ => exact fun _ h => nomatch h
    | literal h => exact statesOne_literal_iff.2 h.origin.statesOne
  | made h => exact statesOne_literal_iff.2 (Literal.statesOne_of_make h)
  | withLexical _ lexical ih =>
    exact statesOne_literal_iff.2 ((statesOne_literal_iff.1 ih).withLexical lexical)
  | operation _ h ih => exact (Builtin.answer_apply _ _ _ _ h).statesOne ih
  | aggregation _ h ih =>
    rcases Aggregation.mem_or_language_of_apply _ _ _ _ h with hmem | ⟨l, rfl, hlanguage⟩
    · exact ih _ hmem
    · exact statesOne_literal_iff.2 (.inr hlanguage)

namespace Builtin

/-- **Terms have the same RDF text if they are identical**, whatever they are and however they came
about. -/
theorem apply_sameTerm {a b : Term} (present : Calendar.Moment) (draw : Unit → Nat)
    (ha : a.Arises) (hb : b.Arises) :
    sameTerm.apply present draw [some (.term a), some (.term b)] =
      .ok (truthTerm (decide (a.Identical b))) := by
  have hsame : (a.rdf == b.rdf) = decide (a.Identical b) := by
    rw [Bool.eq_iff_iff, beq_iff_eq, decide_eq_true_iff]
    exact Term.rdf_eq_iff ha.statesOne hb.statesOne
  rw [← hsame]
  rfl

end Builtin

end SolutionAlgebra
