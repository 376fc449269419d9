import SolutionAlgebra.Proofs.Expression.Substitution
import SolutionAlgebra.Proofs.Grouping.Key
import SolutionAlgebra.Proofs.Term.Variables

/-! # Keys with variables in them

A solution may bind a variable to a variable, and the text of a variable may hold the mark that
stands between the parts of a key: nothing else tells where the text ends. So the end of such a text
can be taken for the part after it, and solutions whose terms differ can have the same key. This is
the only way in which they can.

* **`Grouping.Overlap`** — that a variable of one solution reaches over a mark of the other.
* **`Grouping.key_eq_iff_of_read`** — two keys are equal if the solutions agree or overlap, and in
  no other case.
* **`Grouping.key_eq_iff_of_unmarked`** — keys tell the terms apart where no variable holds the
  mark. -/

namespace SolutionAlgebra

/-- A term that some text is read as. -/
def Term.IsRead (t : Term) : Prop :=
  ∃ (prefixes : Prefixes) (text : String), Term.parse prefixes text = .ok t

/-- What is read is an IRI or a literal with accepted parts, or a variable. -/
theorem Term.IsRead.data_or_var {t : Term} (h : t.IsRead) : t.IsData ∨ ∃ v, t = .var v := by
  obtain ⟨prefixes, text, h⟩ := h
  cases t with
  | iri i => exact .inl (Term.accepted_of_parse h)
  | var v => exact .inr ⟨v, rfl⟩
  | literal l => exact .inl (Literal.Built.parsed h).formed.sound

namespace Grouping

variable {v w : Variable} {vs : List Variable} {a b row : Solution} {x y : List Char}

/-! ## Keys part by part -/

/-- A key of one part. -/
theorem toList_key_singleton : (key [v] row).toList = partText (row.get? v) := by
  rw [toList_key (List.cons_ne_nil _ _), List.map_singleton, List.intercalate_singleton]

/-- A key of more parts starts with the first one and the mark. -/
theorem toList_key_cons_cons : (key (v :: w :: vs) row).toList =
    partText (row.get? v) ++ mark :: (key (w :: vs) row).toList := by
  rw [toList_key (List.cons_ne_nil _ _), toList_key (List.cons_ne_nil _ _), List.map_cons,
    List.map_cons, List.intercalate_cons_cons, List.append_assoc]
  rfl

/-- The text of a variable starts as no other part of a key does. -/
theorem variable_ne_part {x : Variable} {t : Option Term} (ht : ∀ term ∈ t, term.IsData)
    {rest rest' : List Char} : x.text.toList ++ rest ≠ partText t ++ rest' := by
  intro h
  have hhead : ∃ c cs, x.text.toList = c :: cs ∧ (c = '?' ∨ c = '_') := by
    cases hlabel : x.isBlankLabel with
    | true =>
        obtain ⟨cs, hname⟩ := Variable.isBlankLabel_iff.1 hlabel
        exact ⟨_, _, (Variable.text_of_label hlabel).trans hname, .inr rfl⟩
    | false => exact ⟨_, _, Variable.text_of_not_label hlabel, .inl rfl⟩
  obtain ⟨c, cs, hx, hc⟩ := hhead
  rw [hx] at h
  rcases data_cases ht with rfl | ⟨i, -, rfl⟩ | ⟨l, -, rfl⟩
  · rw [partText_none] at h
    rcases hc with rfl | rfl <;> exact absurd (List.cons.inj h).1 (by decide)
  · rw [partText_iri] at h
    rcases hc with rfl | rfl <;> exact absurd (List.cons.inj h).1 (by decide)
  · rw [partText_literal] at h
    rcases hc with rfl | rfl <;> exact absurd (List.cons.inj h).1 (by decide)

/-- What is left over at the end of a part is nothing or starts with the mark. -/
theorem append_cases {p q : List Char} (hx : Ends x) (hy : Ends y) (h : p ++ x = q ++ y) :
    (p = q ∧ x = y) ∨
      ∃ rest, (q = p ++ mark :: rest ∧ x = mark :: rest ++ y) ∨
        (p = q ++ mark :: rest ∧ y = mark :: rest ++ x) := by
  have hmark : ∀ {c : Char} {cs : List Char}, Ends (c :: cs) → c = mark := fun h => h _ rfl
  rcases List.append_eq_append_iff.1 h with ⟨cs, hq, hcs⟩ | ⟨cs, hp, hcs⟩
  · cases cs with
    | nil => exact .inl ⟨by rw [hq, List.append_nil], hcs⟩
    | cons c cs =>
        have hc : c = mark := hmark (hcs ▸ hx)
        rw [hc] at hq hcs
        exact .inr ⟨cs, .inl ⟨hq, hcs⟩⟩
  · cases cs with
    | nil => exact .inl ⟨by rw [hp, List.append_nil], hcs.symm⟩
    | cons c cs =>
        have hc : c = mark := hmark (hcs ▸ hy)
        rw [hc] at hp hcs
        exact .inr ⟨cs, .inr ⟨hp, hcs⟩⟩

/-- A read term, or none, is no variable, or it is one. -/
theorem data_or_var {t : Option Term} (ht : ∀ term ∈ t, term.IsRead) :
    (∀ term ∈ t, term.IsData) ∨ ∃ v, t = some (.var v) := by
  cases t with
  | none => exact .inl fun _ h => nomatch h
  | some term =>
      rcases (ht term rfl).data_or_var with hdata | ⟨v, rfl⟩
      · exact .inl fun _ h => Option.some.inj h ▸ hdata
      · exact .inr ⟨v, rfl⟩

/-- Two parts that go on to a common end are the same, or one of two variables goes on over a
mark. -/
theorem part_cases {t u : Option Term} (ht : ∀ term ∈ t, term.IsRead)
    (hu : ∀ term ∈ u, term.IsRead) (hx : Ends x) (hy : Ends y)
    (h : partText t ++ x = partText u ++ y) :
    (t.map Term.rdf = u.map Term.rdf ∧ x = y) ∨
      ∃ v w : Variable, t = some (.var v) ∧ u = some (.var w) ∧ ∃ rest,
        (w.text.toList = v.text.toList ++ mark :: rest ∧ x = mark :: rest ++ y) ∨
        (v.text.toList = w.text.toList ++ mark :: rest ∧ y = mark :: rest ++ x) := by
  rcases data_or_var ht with htd | ⟨v, rfl⟩ <;> rcases data_or_var hu with hud | ⟨w, rfl⟩
  · exact .inl (partText_inj htd hud hx hy h)
  · exact absurd h.symm (variable_ne_part htd)
  · exact absurd h (variable_ne_part hud)
  · rcases append_cases hx hy h with ⟨htext, hrest⟩ | hover
    · exact .inl ⟨congrArg some (String.toList_inj.1 htext), hrest⟩
    · exact .inr ⟨v, w, rfl, rfl, hover⟩

/-! ## Overlaps -/

/-- That the solutions agree up to a variable, which both bind to variables, and that there the text
of the second one holds a mark: with what it has after the mark it stands for the next parts of the
first one. -/
inductive Overlap : List Variable → Solution → Solution → Prop where
  /-- The texts differ here. -/
  | here {v w : Variable} {vs : List Variable} {a b : Solution} {x y : Variable} {rest : String}
      (ha : a.get? v = some (.var x)) (hb : b.get? v = some (.var y))
      (htext : y.text = x.text ++ separator ++ rest)
      (hkey : key (w :: vs) a = rest ++ separator ++ key (w :: vs) b) : Overlap (v :: w :: vs) a b
  /-- The texts differ later on. -/
  | later {v : Variable} {vs : List Variable} {a b : Solution}
      (hagree : (a.get? v).map Term.rdf = (b.get? v).map Term.rdf) (h : Overlap vs a b) :
      Overlap (v :: vs) a b

/-- Solutions that overlap have one key. -/
theorem Overlap.key_eq (h : Overlap vs a b) : key vs a = key vs b := by
  induction h with
  | @here v w vs a b x y rest ha hb htext hkey =>
      have hx : partText (a.get? v) = x.text.toList := by rw [ha]; rfl
      have hy : partText (b.get? v) = x.text.toList ++ mark :: rest.toList := by
        rw [hb]
        show y.text.toList = _
        rw [htext, String.toList_append, String.toList_append, List.append_assoc]
        rfl
      rw [← String.toList_inj, toList_key_cons_cons, toList_key_cons_cons, hkey, hx, hy,
        String.toList_append, String.toList_append, List.append_assoc, List.append_assoc]
      rfl
  | @later v vs a b hagree h ih =>
      have hpart : partText (a.get? v) = partText (b.get? v) := by
        rw [partText, partText, hagree]
      cases vs with
      | nil => cases h
      | cons w vs => rw [← String.toList_inj, toList_key_cons_cons, toList_key_cons_cons, ih, hpart]

/-- One step of an overlap, from the characters that are left over. -/
theorem overlap_here {x y : Variable} {rest : List Char} (ha : a.get? v = some (.var x))
    (hb : b.get? v = some (.var y)) (htext : y.text.toList = x.text.toList ++ mark :: rest)
    (hkey : mark :: (key (w :: vs) a).toList =
      mark :: rest ++ mark :: (key (w :: vs) b).toList) : Overlap (v :: w :: vs) a b := by
  refine @Overlap.here _ _ _ _ _ _ _ (String.ofList rest) ha hb ?_ ?_
  · rw [← String.toList_inj, htext]
    simp [separator, mark]
  · rw [← String.toList_inj, (List.cons.inj hkey).2]
    simp [separator, mark]

/-- Solutions with one key agree or overlap. -/
theorem agree_or_overlap (ha : ∀ v ∈ vs, ∀ t ∈ a.get? v, t.IsRead)
    (hb : ∀ v ∈ vs, ∀ t ∈ b.get? v, t.IsRead) (h : key vs a = key vs b) :
    Agree vs a b ∨ Overlap vs a b ∨ Overlap vs b a := by
  induction vs with
  | nil => exact .inl fun _ hv => absurd hv List.not_mem_nil
  | cons v vs ih =>
      obtain ⟨hav, havs⟩ := List.forall_mem_cons.1 ha
      obtain ⟨hbv, hbvs⟩ := List.forall_mem_cons.1 hb
      rw [← String.toList_inj] at h
      cases vs with
      | nil =>
          -- the last part ends with the key, so nothing is left over
          rw [toList_key_singleton, toList_key_singleton] at h
          have h' : partText (a.get? v) ++ [] = partText (b.get? v) ++ [] := by
            rw [List.append_nil, List.append_nil, h]
          rcases part_cases hav hbv ends_nil ends_nil h' with
            ⟨hagree, -⟩ | ⟨x, y, -, -, rest, ⟨-, hrest⟩ | ⟨-, hrest⟩⟩
          · exact .inl (List.forall_mem_singleton.2 hagree)
          · cases hrest
          · cases hrest
      | cons w vs =>
          rw [toList_key_cons_cons, toList_key_cons_cons] at h
          rcases part_cases hav hbv (ends_mark _) (ends_mark _) h with
            ⟨hagree, hrest⟩ | ⟨x, y, hx, hy, rest, ⟨htext, hrest⟩ | ⟨htext, hrest⟩⟩
          · rcases ih havs hbvs (String.toList_inj.1 (List.cons.inj hrest).2) with
              hagrees | hover | hover
            · exact .inl (List.forall_mem_cons.2 ⟨hagree, hagrees⟩)
            · exact .inr (.inl (.later hagree hover))
            · exact .inr (.inr (.later hagree.symm hover))
          · exact .inr (.inl (overlap_here hx hy htext hrest))
          · exact .inr (.inr (overlap_here hy hx htext hrest))

/-- **When two keys are equal.** Solutions that bind the variables to read terms have one key if
they agree on them, or if a variable of one reaches over a mark into the next parts of the other. -/
theorem key_eq_iff_of_read (ha : ∀ v ∈ vs, ∀ t ∈ a.get? v, t.IsRead)
    (hb : ∀ v ∈ vs, ∀ t ∈ b.get? v, t.IsRead) :
    key vs a = key vs b ↔ Agree vs a b ∨ Overlap vs a b ∨ Overlap vs b a := by
  constructor
  · exact agree_or_overlap ha hb
  · rintro (h | h | h)
    · exact h.key_eq
    · exact h.key_eq
    · exact h.key_eq.symm

/-- A solution with two variables, of which the second one holds the mark. -/
def markedLast : Solution := .ofList [(⟨"p"⟩, .var ⟨"a"⟩), (⟨"q"⟩, .var ⟨"b\x1f?c"⟩)]

/-- A solution with two variables, of which the first one holds the mark. -/
def markedFirst : Solution := .ofList [(⟨"p"⟩, .var ⟨"a\x1f?b"⟩), (⟨"q"⟩, .var ⟨"c"⟩)]

/-- A variable with a proper name that does not end with a blank is read. -/
theorem isRead_var {v : Variable} {last : Char} (h : v.Proper)
    (hlast : v.name.toList.getLast? = some last) (hblank : Text.isBlank last = false) :
    (Term.var v).IsRead := by
  refine ⟨.common, (Term.var v).rdf, ?_⟩
  rw [Term.parse, Term.trim_rdf_var fun c hc => ?_, Term.parseTrimmed_eq_var_iff]
  · exact Variable.spelled_text_iff.2 h
  · rw [hlast] at hc
    cases hc
    exact hblank

/-- The terms of the one solution are read from text. -/
theorem isRead_of_markedLast : ∀ v ∈ [⟨"p"⟩, ⟨"q"⟩], ∀ t ∈ markedLast.get? v, t.IsRead := by
  simp only [List.forall_mem_cons, List.not_mem_nil, false_implies, implies_true, and_true]
  refine ⟨?_, ?_⟩ <;> rintro t ⟨⟩ <;> exact isRead_var (by decide) rfl (by decide)

/-- So are those of the other. -/
theorem isRead_of_markedFirst : ∀ v ∈ [⟨"p"⟩, ⟨"q"⟩], ∀ t ∈ markedFirst.get? v, t.IsRead := by
  simp only [List.forall_mem_cons, List.not_mem_nil, false_implies, implies_true, and_true]
  refine ⟨?_, ?_⟩ <;> rintro t ⟨⟩ <;> exact isRead_var (by decide) rfl (by decide)

/-- The two solutions with the mark. -/
theorem key_eq_iff_of_read_marked :
    ((∀ v ∈ [⟨"p"⟩, ⟨"q"⟩], ∀ t ∈ markedLast.get? v, t.IsRead) ∧
      ∀ v ∈ [⟨"p"⟩, ⟨"q"⟩], ∀ t ∈ markedFirst.get? v, t.IsRead) ∧
    (key [⟨"p"⟩, ⟨"q"⟩] markedLast = key [⟨"p"⟩, ⟨"q"⟩] markedFirst ↔
      Agree [⟨"p"⟩, ⟨"q"⟩] markedLast markedFirst ∨
        Overlap [⟨"p"⟩, ⟨"q"⟩] markedLast markedFirst ∨
        Overlap [⟨"p"⟩, ⟨"q"⟩] markedFirst markedLast) :=
  ⟨⟨isRead_of_markedLast, isRead_of_markedFirst⟩,
    key_eq_iff_of_read isRead_of_markedLast isRead_of_markedFirst⟩

/-- They overlap, so one key does not mean that the terms have the same texts. -/
theorem not_agree_of_key_eq :
    ¬ ∀ (vs : List Variable) (a b : Solution), vs ≠ [] →
      (∀ v ∈ vs, ∀ t ∈ a.get? v, t.IsRead) → (∀ v ∈ vs, ∀ t ∈ b.get? v, t.IsRead) →
        key vs a = key vs b → Agree vs a b := by
  intro h
  have hkey : key [⟨"p"⟩, ⟨"q"⟩] markedLast = key [⟨"p"⟩, ⟨"q"⟩] markedFirst := by decide
  have hagree := h _ _ _ (List.cons_ne_nil _ _) isRead_of_markedLast isRead_of_markedFirst hkey
  exact absurd hagree (by decide)

/-- Where solutions overlap, the second one binds a variable to one that holds the mark. -/
theorem Overlap.exists_mark (h : Overlap vs a b) :
    ∃ v ∈ vs, ∃ y : Variable, b.get? v = some (.var y) ∧ mark ∈ y.name.toList := by
  induction h with
  | @here v w vs a b x y rest ha hb htext hkey =>
      refine ⟨v, List.mem_cons_self, y, hb, ?_⟩
      have hmem : mark ∈ y.text.toList := by
        rw [htext]
        simp [separator, mark]
      cases hlabel : y.isBlankLabel with
      | true => rwa [Variable.text_of_label hlabel] at hmem
      | false =>
          rw [Variable.text_of_not_label hlabel] at hmem
          exact (List.mem_cons.1 hmem).resolve_left (by decide)
  | later hagree h ih =>
      obtain ⟨v, hv, hy⟩ := ih
      exact ⟨v, List.mem_cons_of_mem _ hv, hy⟩

/-- Where no variable that is bound to holds the mark, keys are equal exactly if the solutions
agree. -/
theorem key_eq_iff_of_unmarked (ha : ∀ v ∈ vs, ∀ t ∈ a.get? v, t.IsRead)
    (hb : ∀ v ∈ vs, ∀ t ∈ b.get? v, t.IsRead)
    (hma : ∀ v ∈ vs, ∀ x : Variable, a.get? v = some (.var x) → mark ∉ x.name.toList)
    (hmb : ∀ v ∈ vs, ∀ y : Variable, b.get? v = some (.var y) → mark ∉ y.name.toList) :
    key vs a = key vs b ↔ Agree vs a b := by
  constructor
  · intro h
    rcases agree_or_overlap ha hb h with hagree | hover | hover
    · exact hagree
    · obtain ⟨v, hv, y, hy, hmark⟩ := hover.exists_mark
      exact absurd hmark (hmb v hv y hy)
    · obtain ⟨v, hv, x, hx, hmark⟩ := hover.exists_mark
      exact absurd hmark (hma v hv x hx)
  · exact Agree.key_eq

end Grouping

end SolutionAlgebra
