import SolutionAlgebra.Builtin.Apply
import SolutionAlgebra.Proofs.Literal.Computed

/-! # What operations answer

Whatever an operation computes, its answer is an IRI, one of its arguments, a string among them with
another text, a string that is given a language, or a literal that has no language at all.

* **`Builtin.Answer`** — these five answers.
* **`Builtin.answer_apply`** — the operations answer nothing else. -/

namespace SolutionAlgebra

/-! ## Arguments -/

/-- The term that an argument has for its value. -/
theorem Value.bind_term?_eq_some_iff {value : Option Value} {t : Term} :
    value.bind term? = some t ↔ value = some (.term t) := by
  constructor
  · intro h
    rcases value with _ | ⟨u | us | s⟩ <;> cases h
    rfl
  · rintro rfl
    rfl

namespace Arguments

variable {function : String} {args : Arguments} {i : Nat}

/-- What is taken for a term is one of the arguments. -/
theorem gives_term : Gives (fun t => some (.term t) ∈ args) (args.term function i) := by
  intro t h
  unfold term at h
  split at h
  · next hi =>
    cases h
    exact List.mem_of_getElem? hi
  all_goals cases h

/-- What is taken for a literal is one of the arguments. -/
theorem gives_literal :
    Gives (fun l => some (.term (.literal l)) ∈ args) (args.literal function i) := by
  refine gives_term.bind fun t ht => ?_
  cases t with
  | literal l => exact .ok ht
  | iri _ => exact .error _
  | var _ => exact .error _

/-- What is taken for a string is one of the arguments. -/
theorem gives_string :
    Gives (fun l => some (.term (.literal l)) ∈ args) (args.string function i) := by
  refine gives_literal.bind fun l hl => ?_
  split
  · exact .ok hl
  · exact .error _

end Arguments

namespace Literal

variable {l : Literal}

/-- The literal of a text and a datatype has no language. -/
theorem language_of_typed {lexical : String} {datatype : Iri}
    (h : typed lexical datatype = .ok l) : l.language = none := by
  unfold typed at h
  split at h
  · cases h
    rfl
  · cases h

/-- The value of an operator on literals has no language. -/
theorem gives_apply (op : ArithmeticOperator) (a b : Literal) :
    Gives (fun l => l.language = none) (apply op a b) := by
  intro l h
  cases combined_of_apply h <;> rfl

end Literal

namespace Builtin

/-! ## Answers -/

/-- The terms that an operation may answer to its arguments. -/
inductive Answer (args : Arguments) : Term → Prop where
  /-- An IRI. -/
  | iri (i : Iri) : Answer args (.iri i)
  /-- An argument. -/
  | argument {t : Term} (h : some (.term t) ∈ args) : Answer args t
  /-- An argument with another text. -/
  | lexical {l : Literal} (h : some (.term (.literal l)) ∈ args) (lexical : String) :
      Answer args (.literal (l.withLexical lexical))
  /-- A string with a language. -/
  | tagged {lexical tag : String} {l : Literal} (h : Literal.tagged lexical tag = .ok l) :
      Answer args (.literal l)
  /-- A literal without a language. -/
  | untagged {l : Literal} (h : l.language = none) : Answer args (.literal l)

variable {args : Arguments}

/-- A truth value has no language. -/
theorem answer_truth (value : Bool) : Answer args (truthTerm value) := .untagged rfl

/-- A plain string has no language. -/
theorem answer_plain (text : String) : Answer args (plainTerm text) := .untagged rfl

/-- The value of an arithmetic operator has no language. -/
theorem gives_arithmetic (op : ArithmeticOperator) (a b : Term) :
    Gives (Answer args) (a.compute op b) := by
  unfold Term.compute
  split
  · exact (Literal.gives_apply op _ _).mapError.map fun _ h => .untagged h
  · split
    · exact .ok (.untagged rfl)
    · exact .ok (.untagged rfl)

/-- The first term is one of the arguments. -/
theorem gives_firstTerm : Gives (Answer args) (firstTerm args) := by
  unfold firstTerm
  split
  · next t ht =>
    obtain ⟨value, hmem, hvalue⟩ := List.exists_of_findSome?_eq_some ht
    rw [Value.bind_term?_eq_some_iff.1 hvalue] at hmem
    exact .ok (.argument hmem)
  · exact .error _

/-- What is chosen is one of the arguments. -/
theorem gives_choose : Gives (Answer args) (choose args) :=
  .after fun _ => .after fun _ => fun t ht => .argument (Arguments.gives_term t ht)

/-- The text of a term is a plain literal. -/
theorem gives_bareOf (t : Term) : Gives (Answer args) (bareOf t) := by
  cases t with
  | iri i => exact .ok (answer_plain i.text)
  | literal l => exact .ok (answer_plain l.lexical)
  | var _ => exact .error _

/-- What is made of a term is an IRI. -/
theorem gives_iriOf (t : Term) : Gives (Answer args) (iriOf t) := by
  cases t with
  | iri i => exact .ok (.iri i)
  | literal l =>
      rintro u hu
      obtain ⟨i, -, rfl⟩ := map_eq_ok_iff.1 hu
      exact .iri i
  | var _ => exact .error _

/-- A part of a string is like the string. -/
theorem gives_substring : Gives (Answer args) (substring args) := by
  refine Arguments.gives_string.bind fun source hsource => .after fun start => ?_
  dsimp only
  split
  · rintro t ⟨⟩
  · -- with a length or without, and then whether the position is within reach
    split
    · refine .after fun length => ?_
      split
      · exact .ok (.lexical hsource _)
      · exact .ok (.lexical hsource _)
    · refine .after fun length => ?_
      split
      · exact .ok (.lexical hsource _)
      · exact .ok (.lexical hsource _)

/-- What stands before a text is a part of the string, or nothing. -/
theorem answer_before {l : Literal} (h : some (.term (.literal l)) ∈ args) (token : List Char) :
    Answer args (.literal (l.before token)) := by
  unfold Literal.before
  split
  · exact .lexical h _
  · exact answer_plain _

/-- So is what stands after a text. -/
theorem answer_after {l : Literal} (h : some (.term (.literal l)) ∈ args) (token : List Char) :
    Answer args (.literal (l.after token)) := by
  unfold Literal.after
  split
  · exact .lexical h _
  · exact answer_plain _

/-- A joined string is like the first of its pieces, or plain. -/
theorem answer_join {parts : List Literal}
    (h : ∀ l ∈ parts, some (.term (.literal l)) ∈ args) :
    Answer args (.literal (Literal.join parts)) := by
  unfold Literal.join
  split
  · exact answer_plain _
  · split
    · exact .lexical (h _ List.mem_cons_self) _
    · exact answer_plain _

/-- **What an operation computes is one of the answers.** -/
theorem answer_compute (present : Calendar.Moment) (draw : Unit → Nat) (b : Builtin) :
    Gives (Answer args) (b.compute present draw args) := by
  cases b with
  | arithmetic op => exact .after fun left => .after fun right => gives_arithmetic op left right
  | comparison _ | sameTerm | langMatches | stringTest _ =>
      exact .after fun _ => .after fun _ => .ok (answer_truth _)
  | not | and | or | bound => exact .ok (answer_truth _)
  | among | notAmong | isLiteral | isNumeric => exact .after fun _ => .ok (answer_truth _)
  | isIri | isBlank =>
      refine .after fun t => ?_
      cases t <;> exact .ok (answer_truth _)
  | coalesce => exact gives_firstTerm
  | choice => exact gives_choose
  | str => exact .after gives_bareOf
  | lang | encodeForUri => exact .after fun _ => .ok (answer_plain _)
  | datatype => exact .after fun l => .ok (.iri l.effectiveDatatype)
  | iri => exact .after gives_iriOf
  | strdt =>
      -- the datatype or the language that is given becomes that of the answer
      refine .after fun source => .after fun t => .after fun type => ?_
      rintro u hu
      obtain ⟨l, hl, rfl⟩ := map_eq_ok_iff.1 hu
      exact .untagged (Literal.language_of_typed (mapError_eq_ok_iff.1 hl))
  | strlang =>
      refine .after fun source => .after fun tag => ?_
      rintro u hu
      obtain ⟨l, hl, rfl⟩ := map_eq_ok_iff.1 hu
      exact .tagged (mapError_eq_ok_iff.1 hl)
  | uuid => exact .ok (.iri _)
  | struuid => exact .ok (answer_plain _)
  | strlen | part _ | seconds | rounding _ | digest _ =>
      exact .after fun _ => .ok (.untagged rfl)
  | tz => exact .after fun _ => .ok (.untagged rfl)
  | rand | now => exact .ok (.untagged rfl)
  | substr => exact gives_substring
  -- what is made of a string keeps the language and the datatype of the string
  | ucase | lcase => exact Arguments.gives_string.bind fun _ hsource => .ok (.lexical hsource _)
  | strbefore =>
      exact Arguments.gives_string.bind fun _ hsource => .after fun token =>
        .ok (answer_before hsource token.chars)
  | strafter =>
      exact Arguments.gives_string.bind fun _ hsource => .after fun token =>
        .ok (answer_after hsource token.chars)
  | concat =>
      exact (Gives.mapM (fun _ => Arguments.gives_string) _).bind fun _ hparts =>
        .ok (answer_join hparts)
  | regex =>
      exact .after fun _ => .after fun _ => .after fun _ => .after fun _ => .ok (answer_truth _)
  | replace =>
      exact Arguments.gives_string.bind fun _ hsource => .after fun _ => .after fun _ =>
        .after fun _ => .after fun _ => .ok (.lexical hsource _)

/-- **Operations answer nothing else.** -/
theorem answer_apply (present : Calendar.Moment) (draw : Unit → Nat) (b : Builtin) :
    Gives (Answer args) (b.apply present draw args) := by
  unfold apply
  split
  · exact answer_compute present draw b
  · exact .error _

end Builtin

end SolutionAlgebra
