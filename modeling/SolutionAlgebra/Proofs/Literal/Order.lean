import SolutionAlgebra.Proofs.Decimal.Order
import SolutionAlgebra.Proofs.Term.Genus

/-! # The order of literals of one genus

Literals of one genus are ordered by a key that is taken from each of them: the place of a number,
the text, language and datatype of a string, a truth value, a point in time, octets. So their order
is a total preorder. Literals of different genera have no common key, and are ordered by their RDF
texts.

* **`orderIn`** — the order that a genus gives to its literals.
* **`order_of_genus_eq`**, **`order_of_genus_ne`** — the order of two literals.
* **`order_swap`** — the order of two literals in the other direction. -/

namespace SolutionAlgebra

open Std

namespace Calendar.Moment

instance : Ord Moment := ⟨order⟩

instance : TransOrd Moment :=
  inferInstanceAs (TransCmp (compareLex (compareOn seconds) (compareOn nanos)))

end Calendar.Moment

namespace Literal

/-! ## Keys -/

/-- The order of octets is the lexicographic one. -/
theorem octetOrder_eq (xs ys : List UInt8) :
    octetOrder xs ys = compare (xs.map UInt8.toNat) (ys.map UInt8.toNat) := by
  induction xs generalizing ys with
  | nil => cases ys <;> rfl
  | cons x xs ih =>
    cases ys with
    | nil => rfl
    | cons y ys =>
      rw [octetOrder, ih, List.map_cons, List.map_cons, List.compare_cons_cons]

/-- The order of optional texts puts none first. -/
theorem optionOrder_eq (s t : Option String) : optionOrder s t = compare s t := by
  cases s <;> cases t <;> rfl

/-- The octets that a literal holds; none if it holds no octets. -/
def octetsOf (l : Literal) : List UInt8 :=
  match l.kind with
  | .octets octets _ => octets
  | _ => []

/-- The order that a genus gives to its literals. -/
def orderIn : Genus → Literal → Literal → Ordering
  | .numeric => compareOn fun l => l.number?.map fun number => Decimal.place number.1
  | .string => compareLex (compareLex (compareOn lexical) (compareOn language))
      (compareOn fun l => l.effectiveDatatype.text)
  | .boolean => compareOn truth?
  | .date => compareOn moment?
  | .octets => compareOn fun l => l.octetsOf.map UInt8.toNat
  | .iri | .var => compareOn rdf

instance (genus : Genus) : TransCmp (orderIn genus) := by
  cases genus with
  | iri => exact inferInstanceAs (TransCmp (compareOn rdf))
  | var => exact inferInstanceAs (TransCmp (compareOn rdf))
  | numeric => exact inferInstanceAs (TransCmp (compareOn _))
  | string => exact inferInstanceAs (TransCmp (compareLex (compareLex _ _) _))
  | boolean => exact inferInstanceAs (TransCmp (compareOn truth?))
  | date => exact inferInstanceAs (TransCmp (compareOn moment?))
  | octets => exact inferInstanceAs (TransCmp (compareOn _))

/-! ## The order of two literals -/

variable {a b : Literal}

/-- Literals of one genus are ordered by what the genus orders them by. -/
theorem order_of_genus_eq (h : a.kind.genus = b.kind.genus) :
    a.order b = orderIn a.kind.genus a b := by
  have hkinds := LiteralKind.sameGenus_of_genus_eq h
  unfold order
  generalize ha : a.kind = kind at hkinds ⊢
  generalize hb : b.kind = kind' at hkinds ⊢
  cases hkinds with
  | numeric x s y t =>
    show numberOrder x y = compareOn (fun l => l.number?.map fun n => Decimal.place n.1) a b
    rw [numberOrder_eq, compareOn, number?, number?, ha, hb]
    rfl
  | string =>
    dsimp only
    rw [optionOrder_eq]
    rfl
  | boolean x y =>
    show compare x y = compareOn truth? a b
    rw [compareOn, truth?, truth?, ha, hb]
    rfl
  | date x y =>
    show x.order y = compareOn moment? a b
    rw [compareOn, moment?, moment?, ha, hb]
    rfl
  | octets x s y t =>
    show octetOrder x y = compareOn (fun l => l.octetsOf.map UInt8.toNat) a b
    rw [octetOrder_eq, compareOn, octetsOf, octetsOf, ha, hb]

/-- Literals of different genera are ordered by their RDF texts. -/
theorem order_of_genus_ne (h : a.kind.genus ≠ b.kind.genus) :
    a.order b = compare a.rdf b.rdf := by
  unfold order
  split
  · next ha hb => exact absurd (by rw [ha, hb]; rfl) h
  · next ha hb => exact absurd (by rw [ha, hb]) h
  · next ha hb => exact absurd (by rw [ha, hb]; rfl) h
  · next ha hb => exact absurd (by rw [ha, hb]; rfl) h
  · next ha hb => exact absurd (by rw [ha, hb]; rfl) h
  · rfl

/-- In the other direction the order is turned around. -/
theorem order_swap (a b : Literal) : b.order a = (a.order b).swap := by
  by_cases h : a.kind.genus = b.kind.genus
  · rw [order_of_genus_eq h, order_of_genus_eq h.symm, h]
    exact OrientedCmp.eq_swap
  · rw [order_of_genus_ne h, order_of_genus_ne (Ne.symm h)]
    exact OrientedOrd.eq_swap

/-- Among literals of one genus, the order is transitive. -/
theorem order_trans {c : Literal} (hab : a.kind.genus = b.kind.genus)
    (hbc : b.kind.genus = c.kind.genus) (h : (a.order b).isLE) (h' : (b.order c).isLE) :
    (a.order c).isLE := by
  rw [order_of_genus_eq hab] at h
  rw [order_of_genus_eq hbc, ← hab] at h'
  rw [order_of_genus_eq (hab.trans hbc)]
  exact TransCmp.isLE_trans h h'

end Literal

end SolutionAlgebra
