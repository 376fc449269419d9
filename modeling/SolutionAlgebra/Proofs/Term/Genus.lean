import SolutionAlgebra.Proofs.Literal.Computed

/-! # The genus of a term

A term is an IRI, a variable, or a literal of one of five kinds of values. The kind of a computed
literal is fixed by the datatype that it states, and the RDF text of a literal shows the datatype;
so the RDF text of a term tells its genus.

* **`Genus`**, **`Term.genus`** — the seven genera.
* **`Literal.Computed.genus_eq`** — the kind of a computed literal is that of its datatype.
* **`Term.Constructed`**, **`Term.rdf_ne_of_genus_ne`** — terms of different genera have different
  RDF texts. -/

namespace SolutionAlgebra

/-- What a term is. -/
inductive Genus where
  /-- An IRI. -/
  | iri
  /-- A variable or the label of a blank node. -/
  | var
  /-- A number. -/
  | numeric
  /-- A string. -/
  | string
  /-- A truth value. -/
  | boolean
  /-- A moment. -/
  | date
  /-- Octets. -/
  | octets
deriving DecidableEq, Repr

/-- The genus of the literals with a value. -/
def LiteralKind.genus : LiteralKind → Genus
  | numeric _ _ => .numeric
  | string => .string
  | boolean _ => .boolean
  | date _ => .date
  | octets _ _ => .octets

/-- A literal is neither an IRI nor a variable. -/
theorem LiteralKind.genus_ne (kind : LiteralKind) : kind.genus ≠ .iri ∧ kind.genus ≠ .var := by
  cases kind <;> exact ⟨Genus.noConfusion, Genus.noConfusion⟩

/-- Two kinds of values that are of one genus. -/
inductive LiteralKind.SameGenus : LiteralKind → LiteralKind → Prop where
  /-- Two numbers, of any types. -/
  | numeric (x : Float) (s : NumericType) (y : Float) (t : NumericType) :
      SameGenus (numeric x s) (numeric y t)
  /-- Two strings. -/
  | string : SameGenus string string
  /-- Two truth values. -/
  | boolean (x y : Bool) : SameGenus (boolean x) (boolean y)
  /-- Two moments. -/
  | date (x y : Calendar.Moment) : SameGenus (date x) (date y)
  /-- Octets, in any notations. -/
  | octets (x : List UInt8) (s : OctetNotation) (y : List UInt8) (t : OctetNotation) :
      SameGenus (octets x s) (octets y t)

/-- Nothing else is of one genus. -/
theorem LiteralKind.sameGenus_of_genus_eq {a b : LiteralKind} (h : a.genus = b.genus) :
    SameGenus a b := by
  cases a with
  | numeric x s =>
    cases b with
    | numeric y t => exact .numeric x s y t
    | _ => cases h
  | string =>
    cases b with
    | string => exact .string
    | _ => cases h
  | boolean x =>
    cases b with
    | boolean y => exact .boolean x y
    | _ => cases h
  | date x =>
    cases b with
    | date y => exact .date x y
    | _ => cases h
  | octets x s =>
    cases b with
    | octets y t => exact .octets x s y t
    | _ => cases h

/-- The genus of a term. -/
def Term.genus : Term → Genus
  | iri _ => .iri
  | var _ => .var
  | literal l => l.kind.genus

namespace Literal

variable {l m : Literal}

/-! ## Datatypes and genera -/

/-- The genus of the literals that state a datatype. -/
def datatypeGenus (datatype : Iri) : Genus :=
  if (NumericType.ofDatatype? datatype).isSome then .numeric
  else if datatype = Vocabulary.boolean then .boolean
  else if (datatype = Vocabulary.dateTime ∨ datatype = Vocabulary.dateTimeStamp) ∨
    datatype = Vocabulary.date ∨ datatype = Vocabulary.time ∨
      datatype = Vocabulary.duration then .date
  else if datatype = Vocabulary.hexBinary ∨ datatype = Vocabulary.base64Binary then .octets
  else .string

/-- The genus that follows from what a literal states besides its text. -/
def statedGenus (l : Literal) : Genus :=
  match l.language, l.datatype with
  | some _, _ => .string
  | none, some datatype => datatypeGenus datatype
  | none, none => .string

/-- The value of a text is of the genus of the datatype. -/
theorem genus_of_decode? {lexical : String} {datatype : Iri} {kind : LiteralKind}
    (h : decode? lexical datatype = some kind) : kind.genus = datatypeGenus datatype := by
  have hmap : ∀ {α : Type} {o : Option α} {f : α → LiteralKind} {genus : Genus},
      (∀ a, (f a).genus = genus) → o.map f = some kind → kind.genus = genus := by
    intro α o f genus hf ho
    obtain ⟨a, -, rfl⟩ := Option.map_eq_some_iff.1 ho
    exact hf a
  unfold decode? at h
  unfold datatypeGenus
  -- the datatypes are gone through in the same order
  split at h
  · next type htype =>
    rw [htype, Option.isSome_some, if_pos rfl]
    exact hmap (fun _ => rfl) h
  next hnumeric =>
  rw [hnumeric, Option.isSome_none, if_neg Bool.false_ne_true]
  dsimp only at h
  split at h
  · next hboolean =>
    rw [if_pos hboolean]
    exact hmap (fun _ => rfl) h
  next hboolean =>
  rw [if_neg hboolean]
  split at h
  · next hdateTime =>
    rw [if_pos (.inl hdateTime)]
    exact hmap (fun _ => rfl) h
  next hdateTime =>
  split at h
  · next hdate =>
    rw [if_pos (.inr (.inl hdate))]
    exact hmap (fun _ => rfl) h
  next hdate =>
  split at h
  · next htime =>
    rw [if_pos (.inr (.inr (.inl htime)))]
    exact hmap (fun _ => rfl) h
  next htime =>
  split at h
  · next hduration =>
    rw [if_pos (.inr (.inr (.inr hduration)))]
    exact hmap (fun _ => rfl) h
  next hduration =>
  rw [if_neg (not_or.2 ⟨hdateTime, not_or.2 ⟨hdate, not_or.2 ⟨htime, hduration⟩⟩⟩)]
  split at h
  · next hhexBinary =>
    rw [if_pos (.inl hhexBinary)]
    exact hmap (fun _ => rfl) h
  next hhexBinary =>
  split at h
  · next hbase64Binary =>
    rw [if_pos (.inr hbase64Binary)]
    exact hmap (fun _ => rfl) h
  next hbase64Binary =>
  rw [if_neg (not_or.2 ⟨hhexBinary, hbase64Binary⟩)]
  cases h
  rfl

/-- A literal of one of the forms is of the genus that it states. -/
theorem Origin.genus_eq (h : l.Origin) : l.kind.genus = l.statedGenus := by
  cases h with
  | formed h =>
    cases h with
    | plain _ => rfl
    | tagged _ _ => rfl
    | typed _ hdecode => exact genus_of_decode? hdecode
  | numeric value type =>
    show Genus.numeric = datatypeGenus type.datatype
    rw [datatypeGenus, NumericType.ofDatatype?_datatype, Option.isSome_some, if_pos rfl]
  | dateTime _ =>
    show Genus.date = datatypeGenus Vocabulary.dateTime
    decide +kernel
  | hexBinary _ =>
    show Genus.octets = datatypeGenus Vocabulary.hexBinary
    decide +kernel

/-- **The kind of a computed literal is fixed by the datatype that it states.** -/
theorem Computed.genus_eq (h : l.Computed) : l.kind.genus = l.statedGenus := h.origin.genus_eq

/-! ## RDF texts and genera -/

/-- What follows the closing quotation mark tells the language, and the datatype where there is no
language. -/
theorem language_and_datatype_of_suffix (h : l.suffix = m.suffix) :
    l.language = m.language ∧ (l.language = none → l.datatype = m.datatype) := by
  obtain ⟨_, datatype, language, _⟩ := l
  obtain ⟨_, datatype', language', _⟩ := m
  have hchars := congrArg String.toList h
  unfold suffix at hchars
  -- a language, a datatype or nothing: else the first characters differ
  cases language with
  | some tag =>
    cases language' with
    | some tag' =>
      have htag : tag = tag' := String.toList_inj.1 (by simpa using hchars)
      exact ⟨congrArg some htag, nofun⟩
    | none => cases datatype' <;> simp at hchars
  | none =>
    cases language' with
    | some tag' => cases datatype <;> simp at hchars
    | none =>
      refine ⟨rfl, fun _ => ?_⟩
      cases datatype with
      | none =>
        cases datatype' with
        | none => rfl
        | some datatype' => simp at hchars
      | some datatype =>
        cases datatype' with
        | none => simp at hchars
        | some datatype' =>
          have htext : datatype.text = datatype'.text :=
            String.toList_inj.1 (by simpa using hchars)
          exact congrArg (fun text => some (Iri.mk text)) htext

/-- What follows the closing quotation mark tells the genus. -/
theorem statedGenus_of_suffix (h : l.suffix = m.suffix) : l.statedGenus = m.statedGenus := by
  obtain ⟨hlanguage, hdatatype⟩ := language_and_datatype_of_suffix h
  unfold statedGenus
  rw [← hlanguage]
  cases hl : l.language with
  | some tag => rfl
  | none => rw [hdatatype hl]

/-- The RDF text of a literal tells its text and what follows the closing quotation mark. -/
theorem rdf_eq_iff_suffix : l.rdf = m.rdf ↔ l.lexical = m.lexical ∧ l.suffix = m.suffix := by
  constructor
  · intro h
    have hread := congrArg (fun text => Quotation.read? text.toList) h
    simpa only [Term.read?_rdf, Option.some.injEq, Prod.mk.injEq, String.toList_inj] using hread
  · rintro ⟨hlexical, hsuffix⟩
    rw [rdf, rdf, hlexical, hsuffix]

/-- The RDF text of a literal tells the genus that it states. -/
theorem statedGenus_of_rdf (h : l.rdf = m.rdf) : l.statedGenus = m.statedGenus :=
  statedGenus_of_suffix (rdf_eq_iff_suffix.1 h).2

end Literal

namespace Term

/-- The terms that are constructed: any IRI, any variable, and the computed literals. -/
inductive Constructed : Term → Prop where
  /-- An IRI. -/
  | iri (i : Iri) : Constructed (iri i)
  /-- A variable. -/
  | var (v : Variable) : Constructed (var v)
  /-- A computed literal. -/
  | literal {l : Literal} (h : l.Computed) : Constructed (literal l)

/-- The forms of RDF texts. -/
inductive Form where
  /-- An IRI between angle brackets. -/
  | bracketed
  /-- A quoted text with what follows it. -/
  | quoted
  /-- A name. -/
  | named

/-- The form of a text, by its first character. -/
def Form.ofText : List Char → Form
  | '<' :: _ => bracketed
  | '"' :: _ => quoted
  | _ => named

/-- The form of the RDF text of a term. -/
def form : Term → Form
  | iri _ => .bracketed
  | var _ => .named
  | literal _ => .quoted

/-- Two terms that are both IRIs, both variables or both literals. -/
inductive SameForm : Term → Term → Prop where
  /-- Two IRIs. -/
  | iri (i j : Iri) : SameForm (iri i) (iri j)
  /-- Two variables. -/
  | var (v w : Variable) : SameForm (var v) (var w)
  /-- Two literals, of any kinds. -/
  | literal (l m : Literal) : SameForm (literal l) (literal m)

/-- Terms of one genus are of one form. -/
theorem sameForm_of_genus_eq {a b : Term} (h : a.genus = b.genus) : SameForm a b := by
  cases a with
  | iri i =>
    cases b with
    | iri j => exact .iri i j
    | var w => cases h
    | literal m => exact absurd h.symm m.kind.genus_ne.1
  | var v =>
    cases b with
    | iri j => cases h
    | var w => exact .var v w
    | literal m => exact absurd h.symm m.kind.genus_ne.2
  | literal l =>
    cases b with
    | iri j => exact absurd h l.kind.genus_ne.1
    | var w => exact absurd h l.kind.genus_ne.2
    | literal m => exact .literal l m

/-- The first character of an RDF text tells its form. -/
theorem ofText_rdf (t : Term) : Form.ofText t.rdf.toList = t.form := by
  cases t with
  | iri i =>
    rw [toList_rdf_iri]
    rfl
  | var v =>
    show Form.ofText v.text.toList = .named
    unfold Variable.text Variable.isBlankLabel
    -- the label of a blank node starts with a low line, and all other names get a question mark
    split
    · next hname =>
      rw [if_pos rfl, hname]
      rfl
    · rw [if_neg Bool.false_ne_true, String.toList_append]
      rfl
  | literal l =>
    show Form.ofText l.rdf.toList = .quoted
    rw [toList_rdf]
    rfl

variable {a b : Term}

/-- Terms with the same RDF text are of one form. -/
theorem form_eq_of_rdf_eq (h : a.rdf = b.rdf) : a.form = b.form := by
  rw [← ofText_rdf, ← ofText_rdf, h]

/-- **Constructed terms of different genera have different RDF texts.** -/
theorem rdf_ne_of_genus_ne (ha : a.Constructed) (hb : b.Constructed) (h : a.genus ≠ b.genus) :
    a.rdf ≠ b.rdf := by
  intro hrdf
  have hform := form_eq_of_rdf_eq hrdf
  -- the forms tell all but literals apart
  cases ha with
  | iri i =>
    cases hb with
    | iri j => exact h rfl
    | var w => cases hform
    | literal hm => cases hform
  | var v =>
    cases hb with
    | iri j => cases hform
    | var w => exact h rfl
    | literal hm => cases hform
  | literal hl =>
    cases hb with
    | iri j => cases hform
    | var w => cases hform
    | literal hm =>
      refine h ?_
      show LiteralKind.genus _ = LiteralKind.genus _
      rw [hl.genus_eq, hm.genus_eq]
      exact Literal.statedGenus_of_rdf hrdf

end Term

end SolutionAlgebra
