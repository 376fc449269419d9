import SolutionAlgebra.Literal.Operations
import SolutionAlgebra.Proofs.Decimal.Binary64

/-! # The order of numbers

Every number has a place among the others: below zero, at zero or above, and how far. Zero has one
place whatever its sign, and the undefined number stands behind all others. Numbers are equal, and
are ordered, as their places are.

* **`Place`** — the places and their order.
* **`lt_iff`**, **`beq_iff`** — what the comparisons of numbers say about their places.
* **`Literal.numberOrder_eq`** — the order of numbers is that of their places. -/

namespace SolutionAlgebra

namespace Decimal

open Float.Model
open Std (TransCmp TransOrd LawfulEqOrd OrientedOrd compare_self)

/-- Where a number stands among the others. -/
structure Place where
  /-- On which side of zero, and whether beyond all finite numbers. -/
  band : Int
  /-- How large the exponent is; turned around below zero. -/
  exponent : Int
  /-- How large the mantissa is; turned around below zero. -/
  mantissa : Int
deriving DecidableEq

namespace Place

/-- Places are ordered by the band, then by the exponent, then by the mantissa. -/
instance : Ord Place where
  compare p q := (compare p.band q.band).then
    ((compare p.exponent q.exponent).then (compare p.mantissa q.mantissa))

instance : TransOrd Place :=
  inferInstanceAs (TransCmp (compareLex (compareOn band)
    (compareLex (compareOn exponent) (compareOn mantissa))))

instance : LawfulEqOrd Place where
  eq_of_compare {p q} h := by
    obtain ⟨hband, hrest⟩ := Ordering.then_eq_eq.1 h
    obtain ⟨hexponent, hmantissa⟩ := Ordering.then_eq_eq.1 hrest
    cases p
    cases q
    cases LawfulEqOrd.eq_of_compare hband
    cases LawfulEqOrd.eq_of_compare hexponent
    cases LawfulEqOrd.eq_of_compare hmantissa
    rfl

end Place

/-- The place of a number that is taken apart. -/
def placeOf : UnpackedFloat → Place
  | .infinity .negative => ⟨-2, 0, 0⟩
  | .finite .negative m e _ => ⟨-1, -e, -m⟩
  | .zero _ => ⟨0, 0, 0⟩
  | .finite .positive m e _ => ⟨1, e, m⟩
  | .infinity .positive => ⟨2, 0, 0⟩
  | .notANumber => ⟨3, 0, 0⟩

/-- The place of a number. -/
def place (x : Float) : Place := placeOf x.toModel.unpack

/-- Below zero the order is turned around. -/
theorem compare_neg_neg {α : Type} [AddCommGroup α] [LinearOrder α] [IsOrderedAddMonoid α]
    (a b : α) : compare (-a) (-b) = (compare a b).swap := by
  rcases lt_trichotomy a b with h | rfl | h
  · rw [compare_lt_iff_lt.2 h, compare_gt_iff_gt.2 (neg_lt_neg h)]
    rfl
  · rw [compare_self, compare_self]
    rfl
  · rw [compare_gt_iff_gt.2 h, compare_lt_iff_lt.2 (neg_lt_neg h)]
    rfl

/-- Mantissas are compared as integers. -/
theorem compare_natCast (m n : Nat) : compare (m : Int) n = compare m n := by
  rcases Nat.lt_trichotomy m n with h | rfl | h
  · rw [Nat.compare_eq_lt.2 h, Int.compare_eq_lt.2 (by omega)]
  · rw [compare_self, compare_self]
  · rw [Nat.compare_eq_gt.2 h, Int.compare_eq_gt.2 (by omega)]

/-- **Two defined numbers are compared by their places.** -/
theorem compare_eq {u v : UnpackedFloat} (hu : u.isNaN = false) (hv : v.isNaN = false) :
    u.compare v = some (compare (placeOf u) (placeOf v)) := by
  -- the bands differ except where both are finite and on the same side of zero
  cases u with
  | notANumber => cases hu
  | infinity s =>
    cases v with
    | notANumber => cases hv
    | infinity t => cases s <;> cases t <;> rfl
    | zero t => cases s <;> rfl
    | finite t n f _ => cases s <;> cases t <;> rfl
  | zero s =>
    cases v with
    | notANumber => cases hv
    | infinity t => cases t <;> rfl
    | zero t => rfl
    | finite t n f _ => cases t <;> rfl
  | finite s m e _ =>
    cases v with
    | notANumber => cases hv
    | infinity t => cases s <;> cases t <;> rfl
    | zero t => cases s <;> rfl
    | finite t n f _ =>
      cases s with
      | positive =>
        cases t with
        | positive =>
          show some ((compare e f).then (compare m n)) =
            some ((compare e f).then (compare (m : Int) n))
          rw [compare_natCast]
        | negative => rfl
      | negative =>
        cases t with
        | positive => rfl
        | negative =>
          show some ((compare e f).then (compare m n)).swap =
            some ((compare (-e) (-f)).then (compare (-(m : Int)) (-n)))
          rw [compare_neg_neg, compare_neg_neg, compare_natCast, Ordering.swap_then]

/-- The undefined number is compared with none. -/
theorem compare_eq_none {u v : UnpackedFloat} (h : u.isNaN = true ∨ v.isNaN = true) :
    u.compare v = none := by
  rcases h with h | h
  · cases u with
    | notANumber => rfl
    | infinity s => cases h
    | zero s => cases h
    | finite s m e _ => cases h
  · cases v with
    | notANumber => cases u <;> rfl
    | infinity s => cases h
    | zero s => cases h
    | finite s m e _ => cases h

/-! ## Comparisons of numbers -/

variable {x y : Float}

/-- That two numbers are both defined. -/
def BothDefined (x y : Float) : Prop := x.isNaN = false ∧ y.isNaN = false

/-- The order of the two numbers does not matter. -/
theorem BothDefined.symm (h : BothDefined x y) : BothDefined y x := ⟨h.2, h.1⟩

/-- Unless two numbers are both defined, one of them is not. -/
theorem isNaN_of_not_bothDefined (h : ¬ BothDefined x y) : x.isNaN = true ∨ y.isNaN = true := by
  cases hx : x.isNaN with
  | true => exact .inl rfl
  | false =>
    cases hy : y.isNaN with
    | true => exact .inr rfl
    | false => exact absurd ⟨hx, hy⟩ h

/-- What a comparison of two numbers says. -/
theorem compare_unpack_eq_some_iff {o : Ordering} :
    x.toModel.unpack.compare y.toModel.unpack = some o ↔
      BothDefined x y ∧ compare (place x) (place y) = o := by
  by_cases h : BothDefined x y
  · rw [compare_eq h.1 h.2, Option.some.injEq]
    exact (and_iff_right h).symm
  · rw [compare_eq_none (isNaN_of_not_bothDefined h)]
    constructor
    · intro hnone
      cases hnone
    · intro hboth
      exact absurd hboth.1 h

/-- A number is below another if both are defined and its place comes first. -/
theorem lt_iff : x < y ↔ BothDefined x y ∧ compare (place x) (place y) = .lt := by
  rw [← compare_unpack_eq_some_iff, ← beq_iff_eq]
  show decide _ = true ↔ _
  rw [decide_eq_true_iff]
  rfl

/-- Numbers are equal if both are defined and have the same place. -/
theorem beq_iff : (x == y) = true ↔ BothDefined x y ∧ place x = place y := by
  rw [← LawfulEqOrd.compare_eq_iff_eq (a := place x), ← compare_unpack_eq_some_iff]
  exact @beq_iff_eq (Option Ordering) _ _ _ _

/-- The place of the undefined number. -/
theorem place_of_isNaN (h : x.isNaN = true) : place x = ⟨3, 0, 0⟩ := by
  change x.toModel.unpack.isNaN = true at h
  unfold place
  generalize x.toModel.unpack = u at h
  cases u with
  | notANumber => rfl
  | infinity s => cases h
  | zero s => cases h
  | finite s m e _ => cases h

/-- A defined number stands before the undefined one. -/
theorem compare_place_of_isNaN (hx : x.isNaN = false) (hy : y.isNaN = true) :
    compare (place x) (place y) = .lt := by
  change x.toModel.unpack.isNaN = false at hx
  rw [place_of_isNaN hy]
  unfold place
  generalize x.toModel.unpack = u at hx
  cases u with
  | notANumber => cases hx
  | infinity s => cases s <;> rfl
  | zero s => rfl
  | finite s m e _ => cases s <;> rfl

end Decimal

namespace Literal

open Decimal Std

/-- **The order of numbers is that of their places.** -/
theorem numberOrder_eq (x y : Float) : numberOrder x y = compare (place x) (place y) := by
  have hswap : compare (place y) (place x) = (compare (place x) (place y)).swap :=
    OrientedOrd.eq_swap
  unfold numberOrder
  by_cases h : BothDefined x y
  · have hlt : x < y ↔ compare (place x) (place y) = .lt := lt_iff.trans (and_iff_right h)
    have hgt : y < x ↔ compare (place x) (place y) = .gt := by
      rw [lt_iff, and_iff_right h.symm, hswap, Ordering.swap_eq_lt]
    have heq : (x == y) = true ↔ compare (place x) (place y) = .eq := by
      rw [beq_iff, and_iff_right h, LawfulEqOrd.compare_eq_iff_eq]
    cases ho : compare (place x) (place y) with
    | lt => rw [if_pos (hlt.2 ho)]
    | eq => rw [if_neg (by rw [hlt, ho]; decide), if_neg (by rw [hgt, ho]; decide),
        if_pos (heq.2 ho)]
    | gt => rw [if_neg (by rw [hlt, ho]; decide), if_pos (hgt.2 ho)]
  · -- nothing is said of the undefined number, which is put behind all others
    rw [if_neg fun hlt => h (lt_iff.1 hlt).1, if_neg fun hgt => h (lt_iff.1 hgt).1.symm,
      if_neg fun heq => h (beq_iff.1 heq).1]
    cases hx : x.isNaN with
    | false =>
      cases hy : y.isNaN with
      | false => exact absurd ⟨hx, hy⟩ h
      | true => rw [compare_place_of_isNaN hx hy]; rfl
    | true =>
      cases hy : y.isNaN with
      | false => rw [← Ordering.swap_inj, ← hswap, compare_place_of_isNaN hy hx]; rfl
      | true => rw [place_of_isNaN hx, place_of_isNaN hy]; rfl

end Literal

end SolutionAlgebra
