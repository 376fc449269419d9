import SolutionAlgebra.Proofs.Term.ReadBack
import SolutionAlgebra.Solution

/-! # Keys tell the terms apart

The key of a solution is made of the RDF texts of its terms with marks between them. A text may
hold the mark itself, but not where it would be taken for the end of the text: an IRI ends with its
angle bracket, a literal with its language or datatype after the closing quotation mark, and neither
starts as the text for unbound variables does. So a key can be read in one way only.

* **`Term.IsData`** — IRIs and literals as they are made of accepted parts.
* **`Grouping.Agree`** — that two solutions have terms of the same RDF text.
* **`Grouping.partText_inj`** — where one part of a key ends, and what it stands for.
* **`Grouping.key_eq_iff`** — two keys are equal exactly if the solutions agree. -/

namespace SolutionAlgebra

/-- An IRI, or a literal, whose IRIs and language are accepted ones. -/
def Term.IsData : Term → Prop
  | iri i => i.Accepted
  | literal l => l.Sound
  | var _ => False

namespace Grouping

/-- That two solutions leave the same of some variables unbound, and bind the others to terms of the
same RDF text. -/
def Agree (vs : List Variable) (a b : Solution) : Prop :=
  ∀ v ∈ vs, (a.get? v).map Term.rdf = (b.get? v).map Term.rdf

instance (vs : List Variable) : DecidableRel (Agree vs) :=
  fun _ _ => inferInstanceAs (Decidable (∀ v ∈ vs, _))

/-! ## Ends of parts -/

/-- The mark between the parts of a key. -/
def mark : Char := '\x1f'

/-- What may follow a part in a key: nothing, or a text that starts with the mark. -/
def Ends (cs : List Char) : Prop := ∀ c ∈ cs.head?, c = mark

/-- The end of the key ends a part. -/
theorem ends_nil : Ends [] := fun _ h => nomatch h

/-- The mark ends a part. -/
theorem ends_mark (cs : List Char) : Ends (mark :: cs) := by
  intro c hc
  cases hc
  rfl

/-- Nothing else ends a part. -/
theorem not_ends_cons {c : Char} {cs : List Char} (hc : c ≠ mark) : ¬ Ends (c :: cs) :=
  fun h => hc (h c rfl)

variable {x y : List Char}

/-- Two texts that go on up to the first character of a kind are the same, and so is the rest. -/
theorem append_inj_of_stop {stop : Char → Prop} {a b : List Char} (ha : ∀ c ∈ a, ¬ stop c)
    (hb : ∀ c ∈ b, ¬ stop c) (hx : ∀ c ∈ x.head?, stop c) (hy : ∀ c ∈ y.head?, stop c)
    (h : a ++ x = b ++ y) : a = b ∧ x = y := by
  induction a generalizing b with
  | nil =>
      -- where one of the two texts ends, the other stops
      cases b with
      | nil => exact ⟨rfl, h⟩
      | cons d b =>
          rw [List.nil_append] at h
          rw [h] at hx
          exact absurd (hx d rfl) (hb d List.mem_cons_self)
  | cons c a ih =>
      cases b with
      | nil =>
          rw [List.nil_append] at h
          rw [← h] at hy
          exact absurd (hy c rfl) (ha c List.mem_cons_self)
      | cons d b =>
          obtain ⟨rfl, htail⟩ := List.cons.inj h
          obtain ⟨rfl, hrest⟩ := ih (fun c hc => ha c (List.mem_cons_of_mem _ hc))
            (fun c hc => hb c (List.mem_cons_of_mem _ hc)) htail
          exact ⟨rfl, hrest⟩

/-- An accepted IRI goes on up to the closing angle bracket. -/
theorem iri_inj {i j : Iri} (hi : i.Accepted) (hj : j.Accepted)
    (h : i.text.toList ++ '>' :: x = j.text.toList ++ '>' :: y) :
    i.text.toList = j.text.toList ∧ x = y := by
  have hbracket : ∀ {i : Iri}, i.Accepted → ∀ c ∈ i.text.toList, ¬ c = '>' := by
    rintro i hi c hc rfl
    exact hi.not_mem rfl hc
  have hstop : ∀ z, ∀ c ∈ ('>' :: z : List Char).head?, c = '>' := by
    intro z c hc
    cases hc
    rfl
  obtain ⟨htext, hrest⟩ := append_inj_of_stop (hbracket hi) (hbracket hj) (hstop x) (hstop y) h
  exact ⟨htext, (List.cons.inj hrest).2⟩

/-! ## Literals -/

/-- What follows the closing quotation mark of a literal. -/
theorem suffix_cases {l : Literal} (h : l.Sound) :
    l.suffix.toList = [] ∨
      (∃ tag, LanguageTag.Accepted tag ∧ l.suffix.toList = '@' :: tag.toList) ∨
      ∃ datatype : Iri, datatype.Accepted ∧
        l.suffix.toList = '^' :: '^' :: '<' :: (datatype.text.toList ++ ['>']) := by
  unfold Literal.suffix
  split
  · next tag hlanguage =>
    refine .inr (.inl ⟨tag, h.language tag hlanguage, ?_⟩)
    rw [String.toList_append]
    rfl
  · next datatype _ hdatatype =>
    refine .inr (.inr ⟨datatype, h.datatype datatype hdatatype, ?_⟩)
    simp
  · exact .inl rfl

/-- The language or the datatype of a literal in a key goes on up to the end of the part. -/
theorem suffix_inj {l m : Literal} (hl : l.Sound) (hm : m.Sound) (hx : Ends x) (hy : Ends y)
    (h : l.suffix.toList ++ x = m.suffix.toList ++ y) :
    l.suffix.toList = m.suffix.toList ∧ x = y := by
  have hnil : ∀ {c : Char} {u v z : List Char}, Ends z → c ≠ mark → z ≠ c :: u ++ v := by
    rintro c u v z hz hc rfl
    exact not_ends_cons hc hz
  -- both have nothing, or a language, or a datatype: else the first characters differ
  rcases suffix_cases hl with hls | ⟨tag, htag, hls⟩ | ⟨datatype, hdatatype, hls⟩ <;>
    rcases suffix_cases hm with hms | ⟨tag', htag', hms⟩ | ⟨datatype', hdatatype', hms⟩ <;>
    rw [hls, hms] at h ⊢
  · exact ⟨rfl, h⟩
  · exact absurd h (hnil hx (by decide))
  · exact absurd h (hnil hx (by decide))
  · exact absurd h.symm (hnil hy (by decide))
  · -- two languages, which go on up to the mark
    obtain ⟨-, h⟩ := List.cons.inj h
    have hmark : ∀ {tag : String}, LanguageTag.Accepted tag → ∀ c ∈ tag.toList, ¬ c = mark := by
      rintro tag htag c hc rfl
      exact absurd (htag.isCharacter.2 _ hc) (by decide)
    obtain ⟨htext, hrest⟩ := append_inj_of_stop (hmark htag) (hmark htag') hx hy h
    rw [htext]
    exact ⟨rfl, hrest⟩
  · exact absurd (List.cons.inj h).1 (by decide)
  · exact absurd h.symm (hnil hy (by decide))
  · exact absurd (List.cons.inj h).1 (by decide)
  · -- two datatypes, which end with their angle brackets
    simp only [List.cons_append, List.append_assoc, List.cons.injEq, true_and,
      List.nil_append] at h
    obtain ⟨htext, hrest⟩ := iri_inj hdatatype hdatatype' h
    rw [htext]
    exact ⟨rfl, hrest⟩

/-- A literal in a key goes on up to the end of the part. -/
theorem literal_inj {l m : Literal} (hl : l.Sound) (hm : m.Sound) (hx : Ends x) (hy : Ends y)
    (h : l.rdf.toList ++ x = m.rdf.toList ++ y) : l.rdf = m.rdf ∧ x = y := by
  rw [Term.toList_rdf, Term.toList_rdf, List.cons_append, List.cons_append, List.append_assoc,
    List.append_assoc, List.cons_append, List.cons_append] at h
  -- what stands between the quotation marks is read in one way only
  have hread := congrArg Quotation.readBody? (List.cons.inj h).2
  rw [Quotation.readBody?_escape, Quotation.readBody?_escape, Option.some.injEq,
    Prod.mk.injEq] at hread
  obtain ⟨hlexical, hrest⟩ := hread
  obtain ⟨hsuffix, hrest⟩ := suffix_inj hl hm hx hy hrest
  refine ⟨?_, hrest⟩
  rw [Literal.rdf, Literal.rdf, hlexical, String.toList_inj.1 hsuffix]

/-! ## Keys -/

/-- A part of a key. -/
def partText (t : Option Term) : List Char := ((t.map Term.rdf).getD unboundKey).toList

/-- A part stands for no term, for an IRI or for a literal. -/
theorem data_cases {t : Option Term} (ht : ∀ term ∈ t, term.IsData) :
    t = none ∨ (∃ i : Iri, i.Accepted ∧ t = some (.iri i)) ∨
      ∃ l : Literal, l.Sound ∧ t = some (.literal l) := by
  cases t with
  | none => exact .inl rfl
  | some term =>
      have hterm := ht term rfl
      cases term with
      | iri i => exact .inr (.inl ⟨i, hterm, rfl⟩)
      | var v => exact hterm.elim
      | literal l => exact .inr (.inr ⟨l, hterm, rfl⟩)

/-- The part of a variable that is not bound. -/
theorem partText_none : partText none = ['U', 'N', 'B', 'O', 'U', 'N', 'D'] := rfl

/-- The part of an IRI. -/
theorem partText_iri (i : Iri) : partText (some (.iri i)) = '<' :: (i.text.toList ++ ['>']) :=
  Term.toList_rdf_iri i

/-- The part of a literal. -/
theorem partText_literal (l : Literal) : partText (some (.literal l)) =
    '"' :: (Literal.escape l.lexical.toList ++ '"' :: l.suffix.toList) :=
  Term.toList_rdf l

/-- **A part of a key ends in one place only**, and stands for a term of one RDF text or for
none. -/
theorem partText_inj {t u : Option Term} (ht : ∀ term ∈ t, term.IsData)
    (hu : ∀ term ∈ u, term.IsData) (hx : Ends x) (hy : Ends y)
    (h : partText t ++ x = partText u ++ y) : t.map Term.rdf = u.map Term.rdf ∧ x = y := by
  -- two terms of one kind, or the first characters tell the kinds apart
  rcases data_cases ht with rfl | ⟨i, hi, rfl⟩ | ⟨l, hl, rfl⟩ <;>
    rcases data_cases hu with rfl | ⟨j, hj, rfl⟩ | ⟨m, hm, rfl⟩
  · exact ⟨rfl, List.append_cancel_left h⟩
  · rw [partText_none, partText_iri] at h
    exact absurd (List.cons.inj h).1 (by decide)
  · rw [partText_none, partText_literal] at h
    exact absurd (List.cons.inj h).1 (by decide)
  · rw [partText_none, partText_iri] at h
    exact absurd (List.cons.inj h).1 (by decide)
  · rw [partText_iri, partText_iri] at h
    simp only [List.cons_append, List.append_assoc, List.cons.injEq, true_and,
      List.nil_append] at h
    obtain ⟨htext, hrest⟩ := iri_inj hi hj h
    refine ⟨?_, hrest⟩
    rw [Option.map_some, Option.map_some, Term.rdf, Term.rdf, String.toList_inj.1 htext]
  · rw [partText_iri, partText_literal] at h
    exact absurd (List.cons.inj h).1 (by decide)
  · rw [partText_none, partText_literal] at h
    exact absurd (List.cons.inj h).1 (by decide)
  · rw [partText_iri, partText_literal] at h
    exact absurd (List.cons.inj h).1 (by decide)
  · obtain ⟨hrdf, hrest⟩ := literal_inj hl hm hx hy h
    exact ⟨congrArg some hrdf, hrest⟩

/-- The characters of a key. -/
theorem toList_key {vs : List Variable} (hvs : vs ≠ []) (row : Solution) :
    (key vs row).toList = [mark].intercalate (vs.map fun v => partText (row.get? v)) := by
  have hempty : vs.isEmpty = false := by simpa using hvs
  rw [key, hempty, if_neg Bool.false_ne_true, String.toList_intercalate, List.map_map]
  rfl

/-- Parts with marks between them are read in one way only. -/
theorem agree_of_intercalate {vs : List Variable} {a b : Solution}
    (ha : ∀ v ∈ vs, ∀ t ∈ a.get? v, t.IsData) (hb : ∀ v ∈ vs, ∀ t ∈ b.get? v, t.IsData)
    (h : [mark].intercalate (vs.map fun v => partText (a.get? v)) =
      [mark].intercalate (vs.map fun v => partText (b.get? v))) : Agree vs a b := by
  induction vs with
  | nil => exact fun _ hv => absurd hv List.not_mem_nil
  | cons v vs ih =>
      obtain ⟨hav, havs⟩ := List.forall_mem_cons.1 ha
      obtain ⟨hbv, hbvs⟩ := List.forall_mem_cons.1 hb
      cases vs with
      | nil =>
          -- the last part ends with the key
          simp only [List.map_cons, List.map_nil, List.intercalate_singleton] at h
          have h' : partText (a.get? v) ++ [] = partText (b.get? v) ++ [] := by
            rw [List.append_nil, List.append_nil, h]
          exact List.forall_mem_singleton.2 (partText_inj hav hbv ends_nil ends_nil h').1
      | cons w vs =>
          -- the first part ends at the mark after it, and the rest is read from there
          simp only [List.map_cons, List.intercalate_cons_cons, List.append_assoc,
            List.singleton_append] at h
          obtain ⟨hv, hrest⟩ := partText_inj hav hbv (ends_mark _) (ends_mark _) h
          exact List.forall_mem_cons.2 ⟨hv, ih havs hbvs (List.cons.inj hrest).2⟩

/-- Solutions that agree have one key. -/
theorem Agree.key_eq {vs : List Variable} {a b : Solution} (h : Agree vs a b) :
    key vs a = key vs b := by
  have hparts : (vs.map fun v => ((a.get? v).map Term.rdf).getD unboundKey) =
      vs.map fun v => ((b.get? v).map Term.rdf).getD unboundKey :=
    List.map_congr_left fun v hv => by rw [h v hv]
  rw [key, key, hparts]

/-- **Two keys are equal exactly if the solutions agree** on the grouping variables. -/
theorem key_eq_iff {vs : List Variable} {a b : Solution}
    (ha : ∀ v ∈ vs, ∀ t ∈ a.get? v, t.IsData) (hb : ∀ v ∈ vs, ∀ t ∈ b.get? v, t.IsData) :
    key vs a = key vs b ↔ Agree vs a b := by
  constructor
  · intro h
    by_cases hvs : vs = []
    · subst hvs
      exact fun _ hv => absurd hv List.not_mem_nil
    · have hchars := congrArg String.toList h
      rw [toList_key hvs, toList_key hvs] at hchars
      exact agree_of_intercalate ha hb hchars
  · exact Agree.key_eq

end Grouping

end SolutionAlgebra
