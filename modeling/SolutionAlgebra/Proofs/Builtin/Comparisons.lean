import SolutionAlgebra.Builtin.Apply
import SolutionAlgebra.Proofs.Term.Order

/-! # Comparisons fit together

Equality and order of terms go through the kinds of terms each in its own way. They agree
nevertheless: two terms are equal exactly if neither comes before the other, whatever their genera;
only the undefined number, which equals nothing, has a place in the order and is not equal to what
stands there. So the six comparisons answer as those of a total order do.

* **`Literal.order_eq_iff`**, **`Term.order_eq_iff`** — equal terms are those at one place of the
  order.
* **`Comparison.Fit`** — how the answers of the six comparisons hang together.
* **`Comparison.exists_fit`** — for any two terms they do. -/

namespace SolutionAlgebra

open Std

/-! ## Places in the order -/

/-- The undefined number aside, numbers are equal if they have one place. -/
theorem Literal.numberOrder_eq_iff {x y : Float} (hx : x.isNaN = false) (hy : y.isNaN = false) :
    numberOrder x y = .eq ↔ (x == y) = true := by
  rw [numberOrder_eq, LawfulEqOrd.compare_eq_iff_eq, Decimal.beq_iff,
    and_iff_right (show Decimal.BothDefined x y from ⟨hx, hy⟩)]

/-- Moments have one place in the order if they are the same time. -/
theorem Calendar.Moment.order_eq_iff {m n : Calendar.Moment} :
    m.order n = .eq ↔ m.sameTime n = true := by
  rw [order, sameTime, Ordering.then_eq_eq, LawfulEqOrd.compare_eq_iff_eq,
    LawfulEqOrd.compare_eq_iff_eq, Bool.and_eq_true, beq_iff_eq, beq_iff_eq]

namespace Literal

variable {a b : Literal}

/-- Octets have one place in the order if they are the same. -/
theorem octetOrder_eq_iff {xs ys : List UInt8} : octetOrder xs ys = .eq ↔ (xs == ys) = true := by
  rw [octetOrder_eq, LawfulEqOrd.compare_eq_iff_eq, beq_iff_eq,
    (List.map_injective_iff.2 fun _ _ h => UInt8.toNat_inj.1 h).eq_iff]

/-- Strings have one place in the order if text, language and datatype are the same. -/
theorem stringOrder_eq_iff :
    ((compare a.lexical b.lexical).then (optionOrder a.language b.language)).then
        (compare a.effectiveDatatype.text b.effectiveDatatype.text) = .eq ↔
      (a.lexical == b.lexical && a.language == b.language &&
        a.effectiveDatatype = b.effectiveDatatype) = true := by
  have hdatatype : a.effectiveDatatype.text = b.effectiveDatatype.text ↔
      a.effectiveDatatype = b.effectiveDatatype := by
    constructor
    · intro h
      exact congrArg Iri.mk h
    · exact congrArg Iri.text
  rw [Ordering.then_eq_eq, Ordering.then_eq_eq, optionOrder_eq, LawfulEqOrd.compare_eq_iff_eq,
    LawfulEqOrd.compare_eq_iff_eq, LawfulEqOrd.compare_eq_iff_eq, hdatatype, Bool.and_eq_true,
    Bool.and_eq_true, beq_iff_eq, beq_iff_eq, decide_eq_true_iff]

/-- A number that is not undefined has a defined value. -/
theorem isNaN_of_not_undefined {x : Float} {type : NumericType} (h : ¬ a.Undefined)
    (hkind : a.kind = .numeric x type) : x.isNaN = false :=
  Bool.eq_false_iff.2 fun hnan => h ⟨x, type, hkind, hnan⟩

/-- **Equal literals are those at one place of the order**, but for the undefined number. -/
theorem order_eq_iff (ha : ¬ a.Undefined) (hb : ¬ b.Undefined) :
    a.order b = .eq ↔ a.equal b = true := by
  by_cases hgenus : a.kind.genus = b.kind.genus
  · have hkinds := LiteralKind.sameGenus_of_genus_eq hgenus
    unfold order equal
    generalize hka : a.kind = kind at hkinds ⊢
    generalize hkb : b.kind = kind' at hkinds ⊢
    cases hkinds with
    | numeric x s y t =>
      exact numberOrder_eq_iff (isNaN_of_not_undefined ha hka) (isNaN_of_not_undefined hb hkb)
    | string => exact stringOrder_eq_iff
    | boolean x y => exact LawfulEqOrd.compare_eq_iff_eq.trans beq_iff_eq.symm
    | date x y => exact Calendar.Moment.order_eq_iff
    | octets x s y t => exact octetOrder_eq_iff
  · rw [order_of_genus_ne hgenus, equal_of_genus_ne hgenus, LawfulEqOrd.compare_eq_iff_eq,
      beq_iff_eq]

end Literal

/-- The text of a variable tells its name: only labels of blank nodes start without a sign. -/
theorem Variable.text_injective : Function.Injective Variable.text := by
  rintro ⟨s⟩ ⟨t⟩ h
  have hlabel : ∀ {s t : String}, (Variable.mk s).isBlankLabel = true → s ≠ "?" ++ t := by
    rintro _ t hlabel rfl
    rw [isBlankLabel, String.toList_append] at hlabel
    cases hlabel
  unfold text at h
  split at h
  · next hs =>
    split at h
    · exact congrArg Variable.mk h
    · exact absurd h (hlabel hs)
  · split at h
    · next ht => exact absurd h.symm (hlabel ht)
    · have hname : s.toList = t.toList := by
        simpa only [String.toList_append, List.append_cancel_left_eq] using
          congrArg String.toList h
      exact congrArg Variable.mk (String.toList_inj.1 hname)

namespace Term

variable {a b : Term}

/-- **Equal terms are those at one place of the order**, but for the undefined number. -/
theorem order_eq_iff (ha : ¬ a.Undefined) (hb : ¬ b.Undefined) :
    a.order b = .eq ↔ a.equal b = true := by
  by_cases hgenus : a.genus = b.genus
  · cases sameForm_of_genus_eq hgenus with
    | iri i j =>
      rw [order_of_literal?_eq_none (.inl rfl), LawfulEqOrd.compare_eq_iff_eq, rdf_iri_eq_iff,
        equal, decide_eq_true_iff]
    | var v w =>
      rw [order_of_literal?_eq_none (.inl rfl), LawfulEqOrd.compare_eq_iff_eq, equal,
        decide_eq_true_iff]
      exact Variable.text_injective.eq_iff
    | literal l m => exact Literal.order_eq_iff ha hb
  · rw [order_of_genus_ne hgenus, equal_of_genus_ne hgenus, LawfulEqOrd.compare_eq_iff_eq,
      beq_iff_eq]

end Term

/-! ## The six comparisons -/

namespace Comparison

variable (present : Calendar.Moment) (draw : Unit → Nat)

/-- What a comparison, as an operation on two terms, is evaluated to. -/
def answer (c : Comparison) (a b : Term) : Outcome Term :=
  Builtin.apply present draw (.comparison c) [some (.term a), some (.term b)]

/-- A comparison of two terms has an answer, which says whether they stand in it. -/
theorem answer_eq (c : Comparison) (a b : Term) :
    answer present draw c a b = .ok (Builtin.truthTerm (c.holds a b)) := rfl

/-- That the six comparisons of two terms, and of the same terms in the other order, have the
answers that follow from whether the first term is less than the second, equal to it or greater. -/
structure Fit (a b : Term) (isLess isEqual isGreater : Bool) : Prop where
  /-- The first term is exactly one of the three. -/
  exactlyOne : [isLess, isEqual, isGreater].count true = 1
  /-- Whether it is less is answered. -/
  less : answer present draw .less a b = .ok (Builtin.truthTerm isLess)
  /-- Whether it is equal is answered. -/
  equal : answer present draw .equal a b = .ok (Builtin.truthTerm isEqual)
  /-- Whether it is greater is answered. -/
  greater : answer present draw .greater a b = .ok (Builtin.truthTerm isGreater)
  /-- Less or equal is one or the other. -/
  lessOrEqual : answer present draw .lessOrEqual a b = .ok (Builtin.truthTerm (isLess || isEqual))
  /-- Greater or equal is one or the other. -/
  greaterOrEqual :
    answer present draw .greaterOrEqual a b = .ok (Builtin.truthTerm (isGreater || isEqual))
  /-- Not equal is the negation of equal. -/
  notEqual : answer present draw .notEqual a b = .ok (Builtin.truthTerm !isEqual)
  /-- In the other order, less becomes greater. -/
  less_swap : answer present draw .less b a = answer present draw .greater a b
  /-- In the other order, greater becomes less. -/
  greater_swap : answer present draw .greater b a = answer present draw .less a b
  /-- In the other order, less or equal becomes greater or equal. -/
  lessOrEqual_swap : answer present draw .lessOrEqual b a =
    answer present draw .greaterOrEqual a b
  /-- In the other order, greater or equal becomes less or equal. -/
  greaterOrEqual_swap : answer present draw .greaterOrEqual b a =
    answer present draw .lessOrEqual a b
  /-- Equality does not depend on the order. -/
  equal_swap : answer present draw .equal b a = answer present draw .equal a b
  /-- Nor does its negation. -/
  notEqual_swap :
    answer present draw .notEqual b a = answer present draw .notEqual a b

/-- **The six comparisons fit together**: any two terms but the undefined number are exactly one of
less, equal and greater, and all answers follow from which. -/
theorem exists_fit {a b : Term} (ha : ¬ a.Undefined) (hb : ¬ b.Undefined) :
    ∃ isLess isEqual isGreater : Bool, Fit present draw a b isLess isEqual isGreater := by
  have hequal : a.equal b = (a.order b == .eq) := by
    rw [Bool.eq_iff_iff, beq_iff_eq, Term.order_eq_iff ha hb]
  have hequal' : b.equal a = (b.order a == .eq) := by
    rw [Bool.eq_iff_iff, beq_iff_eq, Term.order_eq_iff hb ha]
  refine ⟨a.order b == .lt, a.order b == .eq, a.order b == .gt, ?_⟩
  have hexactlyOne : ∀ o : Ordering, [o == .lt, o == .eq, o == .gt].count true = 1 := by decide
  -- all answers are read off the order of the terms, which the other order turns around
  constructor
  case exactlyOne => exact hexactlyOne _
  all_goals simp only [answer_eq, holds, hequal, hequal', Term.order_swap a b]
  all_goals cases a.order b <;> rfl

/-- Zero equals the negative zero of another class, so that it is neither less nor greater. -/
theorem exists_fit_zero :
    ¬ (Term.literal (.numeric 0 .integer)).Undefined ∧
      ¬ (Term.literal (.numeric (-0) .double)).Undefined ∧
      Fit ⟨0, 0, 0⟩ (fun _ => 0) (.literal (.numeric 0 .integer)) (.literal (.numeric (-0) .double))
        false true false := by
  have hdefined : ∀ {x : Float} {type : NumericType}, x.isNaN = false →
      ¬ (Term.literal (.numeric x type)).Undefined := by
    rintro x type hx ⟨y, type', hkind, hnan⟩
    cases hkind
    exact absurd (hx.symm.trans hnan) (by decide)
  have hzero := @hdefined 0 .integer (by decide +kernel)
  have hnegative := @hdefined (-0) .double (by decide +kernel)
  obtain ⟨isLess, isEqual, isGreater, hfit⟩ := exists_fit ⟨0, 0, 0⟩ (fun _ => 0) hzero hnegative
  have hequal : isEqual = true := by
    have h := hfit.equal
    rw [answer_eq, show holds .equal _ _ = true from by decide +kernel] at h
    cases isEqual with
    | true => rfl
    | false => exact absurd (Except.ok.inj h) (by decide)
  subst hequal
  -- only one of the three is so
  have hone := hfit.exactlyOne
  cases isLess with
  | true => cases isGreater <;> exact absurd hone (by decide)
  | false =>
    cases isGreater with
    | true => exact absurd hone (by decide)
    | false => exact ⟨hzero, hnegative, hfit⟩

end Comparison

end SolutionAlgebra
