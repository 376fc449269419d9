import SolutionAlgebra.Proofs.Literal.Order
import SolutionAlgebra.Proofs.Term.Equality

/-! # The order of terms

Literals of one genus are ordered by value, and all other pairs of terms by their RDF texts. Either
way gives a total preorder, but the two do not fit together: the numbers nine and ten stand in this
order by value and in the other by text, and the string five stands between their texts, so that
nine comes before ten, ten before five and five before nine. This is the only way in which the order
fails to be transitive.

* **`Term.AtMost`** — that a term does not come after another.
* **`Term.Torn`** — two literals of one genus with a third term between their texts, which stand the
  other way round than their values.
* **`Term.atMost_trans_or_torn`** — the order is transitive except around torn terms. -/

namespace SolutionAlgebra.Term

open Std

variable {a b c : Term}

/-- That a term does not come after another. -/
def AtMost (a b : Term) : Prop := a.order b ≠ .gt

/-- To be at most a term is to be before it or alike. -/
theorem atMost_iff_isLE : a.AtMost b ↔ (a.order b).isLE = true := by
  unfold AtMost
  cases a.order b <;> decide

/-- The terms that have a place in the order: those that are constructed, without the undefined
number. -/
structure Comparable (t : Term) : Prop where
  /-- The term is constructed. -/
  constructed : t.Constructed
  /-- It is not the undefined number. -/
  defined : ¬ t.Undefined

/-- Two literals of one genus that stand one way by value and the other way by RDF text, and a term
of another genus whose text is between theirs. -/
structure Torn (x y z : Term) : Prop where
  /-- The first is a literal. -/
  literal : x.literal? ≠ none
  /-- The second is of the same genus. -/
  genus : x.genus = y.genus
  /-- The third is of another. -/
  other : z.genus ≠ x.genus
  /-- By value the second does not come before the first. -/
  value : x.AtMost y
  /-- By text the third comes after the second. -/
  after : compare y.rdf z.rdf = .lt
  /-- By text the third comes before the first. -/
  before : compare z.rdf x.rdf = .lt

/-! ## Two terms -/

/-- Two terms of which one is no literal are ordered by their RDF texts. -/
theorem order_of_literal?_eq_none (h : a.literal? = none ∨ b.literal? = none) :
    a.order b = compare a.rdf b.rdf := by
  unfold order
  split
  · rcases h with h | h <;> cases h
  · rfl

/-- Terms of different genera are ordered by their RDF texts. -/
theorem order_of_genus_ne (h : a.genus ≠ b.genus) : a.order b = compare a.rdf b.rdf := by
  unfold order
  split
  · exact Literal.order_of_genus_ne h
  · rfl

/-- In the other direction the order is turned around. -/
theorem order_swap (a b : Term) : b.order a = (a.order b).swap := by
  by_cases h : a.literal? = none ∨ b.literal? = none
  · rw [order_of_literal?_eq_none h, order_of_literal?_eq_none h.symm]
    exact OrientedOrd.eq_swap
  · cases a with
    | iri i => exact absurd (.inl rfl) h
    | var v => exact absurd (.inl rfl) h
    | literal l =>
      cases b with
      | iri j => exact absurd (.inr rfl) h
      | var w => exact absurd (.inr rfl) h
      | literal m => exact Literal.order_swap l m

/-- Of two terms of one genus both are literals or none is. -/
theorem literal?_eq_none_of_genus_eq (h : a.genus = b.genus) (hb : b.literal? = none) :
    a.literal? = none := by
  cases sameForm_of_genus_eq h with
  | iri i j => rfl
  | var v w => rfl
  | literal l m => cases hb

/-- Among terms of one genus, the order is transitive. -/
theorem atMost_trans (hab : a.genus = b.genus) (hbc : b.genus = c.genus) (h : a.AtMost b)
    (h' : b.AtMost c) : a.AtMost c := by
  rw [atMost_iff_isLE] at h h' ⊢
  by_cases hb : b.literal? = none
  · -- IRIs and variables are ordered by their texts also among themselves
    have ha := literal?_eq_none_of_genus_eq hab hb
    rw [order_of_literal?_eq_none (.inl ha)] at h ⊢
    rw [order_of_literal?_eq_none (.inl hb)] at h'
    exact TransOrd.isLE_trans h h'
  · have ha : a.literal? ≠ none := fun ha => hb (literal?_eq_none_of_genus_eq hab.symm ha)
    have hc : c.literal? ≠ none := fun hc => hb (literal?_eq_none_of_genus_eq hbc hc)
    cases a with
    | iri i => exact absurd rfl ha
    | var v => exact absurd rfl ha
    | literal l =>
      cases b with
      | iri j => exact absurd rfl hb
      | var w => exact absurd rfl hb
      | literal m =>
        cases c with
        | iri k => exact absurd rfl hc
        | var u => exact absurd rfl hc
        | literal n => exact Literal.order_trans hab hbc h h'

/-! ## Three terms -/

/-- By text, constructed terms of different genera come one before the other. -/
theorem compare_rdf_of_genus_ne (ha : a.Constructed) (hb : b.Constructed) (h : a.genus ≠ b.genus)
    (hle : compare a.rdf b.rdf ≠ .gt) : compare a.rdf b.rdf = .lt := by
  cases ho : compare a.rdf b.rdf with
  | lt => rfl
  | eq => exact absurd (LawfulEqOrd.eq_of_compare ho) (rdf_ne_of_genus_ne ha hb h)
  | gt => exact absurd ho hle

/-- The third of three terms that are torn comes after the second, and before the first. -/
theorem Torn.cycle (h : Torn a b c) : a.AtMost b ∧ b.AtMost c ∧ ¬ a.AtMost c := by
  have hbc : b.order c = .lt := by
    rw [order_of_genus_ne (h.genus ▸ h.other.symm), h.after]
  have hca : c.order a = .lt := by
    rw [order_of_genus_ne h.other, h.before]
  refine ⟨h.value, ?_, ?_⟩
  · unfold AtMost
    rw [hbc]
    decide
  · unfold AtMost
    rw [order_swap c a, hca]
    decide

/-- Two terms of one genus that stand the other way by text are literals, and with a third between
their texts they are torn. -/
theorem torn_of_texts {x y z : Term} (hgenus : x.genus = y.genus) (hother : z.genus ≠ x.genus)
    (hvalue : x.AtMost y) (hafter : compare y.rdf z.rdf = .lt)
    (hbefore : compare z.rdf x.rdf = .lt) : Torn x y z := by
  refine ⟨fun hnone => hvalue ?_, hgenus, hother, hvalue, hafter, hbefore⟩
  rw [order_of_literal?_eq_none (.inl hnone)]
  exact OrientedCmp.gt_of_lt (TransCmp.lt_trans hafter hbefore)

/-- **The order of terms is transitive except around torn terms.** Any two terms are ordered one way
or the other, and if one term is at most a second and that at most a third, then the first is at
most the third, unless two of them are literals of one genus, stand the other way by text than by
value, and have the third between their texts. Such terms do stand in a circle. -/
theorem atMost_trans_or_torn (ha : a.Comparable) (hb : b.Comparable) (hc : c.Comparable) :
    b.order a = (a.order b).swap ∧
    (a.AtMost b → b.AtMost c → a.AtMost c ∨ Torn a b c ∨ Torn b c a ∨ Torn c a b) ∧
    (Torn a b c → a.AtMost b ∧ b.AtMost c ∧ ¬ a.AtMost c) := by
  refine ⟨order_swap a b, fun hab hbc => ?_, Torn.cycle⟩
  by_cases hac : a.AtMost c
  · exact .inl hac
  have hca : c.order a = .lt := by
    rw [order_swap a c, Classical.not_not.1 hac]
    rfl
  -- the cases are which two of the three are of one genus
  by_cases hgab : a.genus = b.genus
  · by_cases hgbc : b.genus = c.genus
    · exact .inl (atMost_trans hgab hgbc hab hbc)
    · have hgca : c.genus ≠ a.genus := fun h => hgbc (hgab.symm.trans h.symm)
      rw [AtMost, order_of_genus_ne hgbc] at hbc
      rw [order_of_genus_ne hgca] at hca
      exact .inr (.inl (torn_of_texts hgab hgca hab
        (compare_rdf_of_genus_ne hb.constructed hc.constructed hgbc hbc) hca))
  · have hltab : compare a.rdf b.rdf = .lt := by
      rw [AtMost, order_of_genus_ne hgab] at hab
      exact compare_rdf_of_genus_ne ha.constructed hb.constructed hgab hab
    by_cases hgbc : b.genus = c.genus
    · have hgca : c.genus ≠ a.genus := fun h => hgab (hgbc.trans h).symm
      rw [order_of_genus_ne hgca] at hca
      exact .inr (.inr (.inl (torn_of_texts hgbc hgab hbc hca hltab)))
    · have hltbc : compare b.rdf c.rdf = .lt := by
        rw [AtMost, order_of_genus_ne hgbc] at hbc
        exact compare_rdf_of_genus_ne hb.constructed hc.constructed hgbc hbc
      by_cases hgca : c.genus = a.genus
      · refine .inr (.inr (.inr (torn_of_texts hgca hgbc ?_ hltab hltbc)))
        unfold AtMost
        rw [hca]
        decide
      · -- three genera: all is by text
        refine absurd ?_ hac
        unfold AtMost
        rw [order_of_genus_ne (Ne.symm hgca), TransCmp.lt_trans hltab hltbc]
        decide

/-- Whole numbers are comparable. -/
theorem comparable_integer (value : Int) (h : (Decimal.ofInt value).isNaN = false) :
    (literal (.integer value)).Comparable := by
  refine ⟨.literal (.integer value), ?_⟩
  rintro ⟨x, type, hkind, hnan⟩
  cases hkind
  exact absurd (h.symm.trans hnan) (by decide)

/-- Plain strings are comparable. -/
theorem comparable_plain (lexical : String) : (literal (.plain lexical)).Comparable := by
  refine ⟨.literal (.built (.plain lexical)), ?_⟩
  rintro ⟨x, type, hkind, -⟩
  cases hkind

/-- Nine, ten and the string five are torn, so that they stand in a circle. -/
theorem atMost_trans_or_torn_nine :
    Torn (literal (.integer 9)) (literal (.integer 10)) (literal (.plain "5")) ∧
      (literal (.integer 9)).AtMost (literal (.integer 10)) ∧
      (literal (.integer 10)).AtMost (literal (.plain "5")) ∧
      ¬ (literal (.integer 9)).AtMost (literal (.plain "5")) := by
  have hnine := comparable_integer 9 (by decide +kernel)
  have hten := comparable_integer 10 (by decide +kernel)
  have htorn : Torn (literal (.integer 9)) (literal (.integer 10)) (literal (.plain "5")) := by
    refine torn_of_texts ?_ ?_ ?_ ?_ ?_
    · show Genus.numeric = Genus.numeric
      rfl
    · show Genus.string ≠ Genus.numeric
      decide
    · unfold AtMost
      decide +kernel
    · decide +kernel
    · decide +kernel
  exact ⟨htorn, (atMost_trans_or_torn hnine hten (comparable_plain "5")).2.2 htorn⟩

/-- Nine is at most ten and ten at most the string five, but nine is not at most five. -/
theorem not_atMost_trans : ¬ ∀ a b c : Term, a.Comparable → b.Comparable → c.Comparable →
    a.AtMost b → b.AtMost c → a.AtMost c := by
  intro h
  have hnine := comparable_integer 9 (by decide +kernel)
  have hten := comparable_integer 10 (by decide +kernel)
  have hcycle := h _ _ _ hnine hten (comparable_plain "5")
  unfold AtMost at hcycle
  exact hcycle (by decide +kernel) (by decide +kernel) (by decide +kernel)

end SolutionAlgebra.Term
