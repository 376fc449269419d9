import SolutionAlgebra.Proofs.Builtin.Strings

/-! # Ranges of languages

A tag and a range of languages are compared in lower case. The range `*` takes in every tag that is
not empty. Any other range takes in the tags whose subtags start with its own subtags, where an
empty text has one subtag, which is empty, and hyphens may stand anywhere.

* **`LanguageTag.Within`** — a tag within a range, by their subtags.
* **`Literal.inLanguageRange_iff`** — the comparison of texts finds these tags.
* **`Builtin.filtersLanguages`** — so it is answered about any two literals. -/

namespace SolutionAlgebra

namespace LanguageTag

/-- The subtags of a tag or of a range. -/
def subtags (cs : List Char) : List (List Char) := cs.splitOn '-'

/-- That a tag is within a range of languages. -/
def Within (tag range : List Char) : Prop :=
  range = ['*'] ∧ tag ≠ [] ∨ range ≠ ['*'] ∧ subtags range <+: subtags tag

instance (tag range : List Char) : Decidable (Within tag range) :=
  inferInstanceAs (Decidable (_ ∨ _))

variable {tag range cs ds : List Char}

/-! ## Subtags -/

/-- The empty text is one empty subtag. -/
@[simp] theorem subtags_nil : subtags [] = [[]] := rfl

/-- A hyphen ends a subtag. -/
@[simp] theorem subtags_hyphen (cs : List Char) : subtags ('-' :: cs) = [] :: subtags cs := by
  rw [subtags, List.splitOn_cons_eq_if_modifyHead]
  rfl

/-- There is always a subtag. -/
theorem subtags_ne_nil (cs : List Char) : subtags cs ≠ [] := List.splitOn_ne_nil '-' cs

/-- A character that is no hyphen joins the first subtag of the text after it. -/
theorem exists_subtags_cons {c : Char} (hc : c ≠ '-') (cs : List Char) :
    ∃ first rest, subtags cs = first :: rest ∧ subtags (c :: cs) = (c :: first) :: rest := by
  obtain ⟨first, rest, hcs⟩ := List.exists_cons_of_ne_nil (subtags_ne_nil cs)
  refine ⟨first, rest, hcs, ?_⟩
  rw [subtags, List.splitOn_cons_eq_if_modifyHead, if_neg (by simpa using hc), ← subtags, hcs]
  rfl

/-- **The subtags of a text start with those of another** exactly if the text is the other one or
goes on after it with a hyphen. -/
theorem subtags_prefix_iff : subtags cs <+: subtags ds ↔ ds = cs ∨ cs ++ ['-'] <+: ds := by
  induction cs generalizing ds with
  | nil =>
    cases ds with
    | nil => simp
    | cons d ds =>
      by_cases hd : d = '-'
      · simp [hd]
      · obtain ⟨first, rest, -, hds⟩ := exists_subtags_cons hd ds
        simp [hds, Ne.symm hd]
  | cons c cs ih =>
    cases ds with
    | nil =>
      -- the only subtag of the empty text is empty
      by_cases hc : c = '-'
      · simp [hc, subtags_ne_nil]
      · obtain ⟨first, rest, -, hcs⟩ := exists_subtags_cons hc cs
        simp [hcs]
    | cons d ds =>
      have hcons : c :: cs ++ ['-'] <+: d :: ds ↔ c = d ∧ cs ++ ['-'] <+: ds :=
        List.cons_prefix_cons
      rw [hcons]
      -- a hyphen ends the first subtag, and any other character belongs to it
      by_cases hc : c = '-'
      · by_cases hd : d = '-'
        · simp [hc, hd, ih]
        · obtain ⟨first, rest, -, hds⟩ := exists_subtags_cons hd ds
          simp [hc, hds, hd, Ne.symm hd]
      · obtain ⟨first, rest, hcs, hcs'⟩ := exists_subtags_cons hc cs
        by_cases hd : d = '-'
        · simp [hcs', hd, hc, Ne.symm hc]
        · obtain ⟨first', rest', hds, hds'⟩ := exists_subtags_cons hd ds
          have hrest := @ih ds
          rw [hcs, hds, List.cons_prefix_cons] at hrest
          rw [hcs', hds', List.cons_prefix_cons, List.cons.injEq, and_assoc, hrest, List.cons.injEq,
            eq_comm (a := d), ← and_or_left]

example : Within "de-ch-1996".toList "de-ch".toList ∧ ¬ Within "deu-ch".toList "de".toList := by
  decide

/-- A tag is within the range that it is. -/
theorem Within.refl (h : range ≠ ['*']) : Within range range := .inr ⟨h, List.prefix_rfl⟩

/-- Ranges within ranges: what is within the inner one is within the outer one. -/
theorem Within.trans {middle : List Char} (hmiddle : middle ≠ ['*']) (hrange : range ≠ ['*'])
    (h : Within tag middle) (h' : Within middle range) : Within tag range := by
  have hfirst : subtags middle <+: subtags tag := (h.resolve_left fun h => hmiddle h.1).2
  have hsecond : subtags range <+: subtags middle := (h'.resolve_left fun h => hrange h.1).2
  exact .inr ⟨hrange, hsecond.trans hfirst⟩

end LanguageTag

open LanguageTag

/-- **A range of languages takes in the tags within it.** -/
theorem Literal.inLanguageRange_iff {range tag : List Char} :
    inLanguageRange range tag = true ↔ Within tag range := by
  by_cases hany : range = ['*']
  · simp [inLanguageRange, Within, hany]
  · have hwithin : Within tag range ↔ tag = range ∨ range ++ ['-'] <+: tag := by
      simp [Within, hany, subtags_prefix_iff]
    rw [hwithin, inLanguageRange, if_neg hany]
    cases hrest : Text.dropStart? range tag with
    | none =>
      have hstart : ¬ range <+: tag := Text.dropStart?_eq_none_iff.1 hrest
      have hne : tag ≠ range := fun h => hstart (h ▸ List.prefix_rfl)
      have hlonger : ¬ range ++ ['-'] <+: tag := fun h =>
        hstart ((List.prefix_append range ['-']).trans h)
      simp [hne, hlonger]
    | some rest =>
      obtain rfl := Text.dropStart?_eq_some_iff.1 hrest
      cases rest with
      | nil => simp
      | cons c rest =>
        show (c == '-') = true ↔ _
        rw [List.prefix_append_right_inj, List.cons_prefix_cons]
        simpa using eq_comm

namespace Builtin

variable (present : Calendar.Moment) (draw : Unit → Nat)

/-- How tags are filtered by ranges of languages. -/
structure FiltersLanguages : Prop where
  /-- A tag matches a range if it is within it, both in lower case. -/
  answers : ∀ tag range : Literal, apply present draw .langMatches (.ofLiterals [tag, range]) =
    .ok (truthTerm (Within (Text.lowercase tag.chars) (Text.lowercase range.chars)))
  /-- A range other than `*` matches itself. -/
  refl : ∀ range : Literal, Text.lowercase range.chars ≠ ['*'] →
    apply present draw .langMatches (.ofLiterals [range, range]) = .ok (truthTerm true)
  /-- What matches a range matches what that range matches, if these are other than `*`. -/
  trans : ∀ tag middle range : Literal, Text.lowercase middle.chars ≠ ['*'] →
    Text.lowercase range.chars ≠ ['*'] →
    apply present draw .langMatches (.ofLiterals [tag, middle]) = .ok (truthTerm true) →
    apply present draw .langMatches (.ofLiterals [middle, range]) = .ok (truthTerm true) →
    apply present draw .langMatches (.ofLiterals [tag, range]) = .ok (truthTerm true)

/-- `langMatches` answers whether the tag is within the range, both in lower case. -/
theorem apply_langMatches (tag range : Literal) :
    apply present draw .langMatches (.ofLiterals [tag, range]) =
      .ok (truthTerm (Within (Text.lowercase tag.chars) (Text.lowercase range.chars))) := by
  have hfilter : Literal.inLanguageRange (Text.lowercase range.chars) (Text.lowercase tag.chars) =
      decide (Within (Text.lowercase tag.chars) (Text.lowercase range.chars)) :=
    Bool.eq_iff_iff.2 (Literal.inLanguageRange_iff.trans decide_eq_true_iff.symm)
  rw [← hfilter]
  rfl

/-- **Tags are filtered by their subtags.** -/
theorem filtersLanguages : FiltersLanguages present draw := by
  have hanswers := apply_langMatches present draw
  refine ⟨hanswers, fun range hrange => ?_, fun tag middle range hmiddle hrange h h' => ?_⟩
  · rw [hanswers, ok_truthTerm_inj, decide_eq_true_iff]
    exact .refl hrange
  · rw [hanswers, ok_truthTerm_inj, decide_eq_true_iff] at h h' ⊢
    exact h.trans hmiddle hrange h'

end Builtin

end SolutionAlgebra
