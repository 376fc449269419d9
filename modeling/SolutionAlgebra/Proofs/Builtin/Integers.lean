import SolutionAlgebra.Proofs.Builtin.Comparisons
import SolutionAlgebra.Proofs.Literal.Integers

/-! # Operations on integers

Integer literals hold floating-point numbers. So they are compared and computed with as their
integers rounded to 53 binary digits: exactly as long as operands and result are at most `2 ^ 53` in
size, and beyond that with one rounding of each operand and one of the result.

* **`Builtin.ActRounded`** — how two integer literals are compared and computed with.
* **`Builtin.exists_actRounded`** — any two that are written with 64-bit integers are so. -/

namespace SolutionAlgebra.Builtin

open Decimal

/-- The integers of 64 bits. -/
def IsInt64 (a : ℤ) : Prop := -2 ^ 63 ≤ a ∧ a < 2 ^ 63

instance (a : ℤ) : Decidable (IsInt64 a) := inferInstanceAs (Decidable (_ ∧ _))

/-- The size of a 64-bit integer. -/
theorem IsInt64.natAbs_le {a : ℤ} (h : IsInt64 a) : a.natAbs ≤ 2 ^ 63 := by
  obtain ⟨hlow, hhigh⟩ := h
  omega

variable (present : Calendar.Moment) (draw : Unit → Nat)

/-- That two literals are compared as two integers are when these are rounded, and that their sum,
difference and product are written for those of the rounded integers. -/
structure ActRounded (l m : Literal) (a b : ℤ) : Prop where
  /-- Equality is answered. -/
  equal : Comparison.answer present draw .equal (.literal l) (.literal m) =
    .ok (truthTerm (rounded a = rounded b))
  /-- Whether the first is less is answered. -/
  less : Comparison.answer present draw .less (.literal l) (.literal m) =
    .ok (truthTerm (rounded a < rounded b))
  /-- Whether the first is greater is answered. -/
  greater : Comparison.answer present draw .greater (.literal l) (.literal m) =
    .ok (truthTerm (rounded b < rounded a))
  /-- Sums, differences and products are computed. -/
  compute : ∀ (op : ArithmeticOperator) (r : ℤ), op.onIntegers? (rounded a) (rounded b) = some r →
    ∃ result : Literal, apply present draw (.arithmetic op)
      [some (.term (.literal l)), some (.term (.literal m))] = .ok (.literal result) ∧
        result.WrittenFor r

variable {l m : Literal} {a b : ℤ}

/-- Literals that stand for integers act as the rounded integers do. -/
theorem actRounded_of_standsFor (hl : l.StandsFor a) (hm : m.StandsFor b) (ha : a.natAbs ≤ 2 ^ 63)
    (hb : b.natAbs ≤ 2 ^ 63) : ActRounded present draw l m a b := by
  obtain ⟨hequal, horder⟩ := Literal.compare_integers hl hm (by omega) (by omega)
  -- the other three comparisons are answered from these
  have hholds : Comparison.holds .equal (.literal l) (.literal m) =
      decide (rounded a = rounded b) := hequal
  have hless : Comparison.holds .less (.literal l) (.literal m) =
      decide (rounded a < rounded b) := by
    show (l.order m == .lt) = _
    rw [horder, Bool.eq_iff_iff, beq_iff_eq, compare_lt_iff_lt, decide_eq_true_iff]
  have hgreater : Comparison.holds .greater (.literal l) (.literal m) =
      decide (rounded b < rounded a) := by
    show (l.order m == .gt) = _
    rw [horder, Bool.eq_iff_iff, beq_iff_eq, compare_gt_iff_gt, decide_eq_true_iff]
  refine ⟨?_, ?_, ?_, fun op r h => ?_⟩
  · rw [Comparison.answer_eq, hholds]
  · rw [Comparison.answer_eq, hless]
  · rw [Comparison.answer_eq, hgreater]
  · obtain ⟨result, happly, hwritten⟩ := Literal.exists_apply_integers hl hm ha hb h
    refine ⟨result, ?_, hwritten⟩
    show ((Literal.apply op l m).mapError _).map Term.literal = _
    rw [happly]
    rfl

/-- **Integer literals act as integers of 53 binary digits**, whatever 64-bit integers they are
written with; shorter ones are not changed. -/
theorem exists_actRounded {s t : String} (hs : readInt? s.toList = some a)
    (ht : readInt? t.toList = some b) (ha : IsInt64 a) (hb : IsInt64 b) :
    ∃ l m : Literal, Literal.typed s Vocabulary.integer = .ok l ∧
      Literal.typed t Vocabulary.integer = .ok m ∧ ActRounded present draw l m a b ∧
      (a.natAbs ≤ 2 ^ 53 → rounded a = a) ∧ (b.natAbs ≤ 2 ^ 53 → rounded b = b) := by
  have hla := ha.natAbs_le
  have hlb := hb.natAbs_le
  obtain ⟨l, hl, hstands⟩ := Literal.exists_typed_integer hs (by omega)
  obtain ⟨m, hm, hstands'⟩ := Literal.exists_typed_integer ht (by omega)
  exact ⟨l, m, hl, hm, actRounded_of_standsFor present draw hstands hstands' hla hlb, rounded_of_le,
    rounded_of_le⟩

/-- An integer of 54 binary digits and a small one. -/
theorem exists_actRounded_long :
    readInt? "9007199254740993".toList = some 9007199254740993 ∧
      readInt? "-01".toList = some (-1) ∧ IsInt64 9007199254740993 ∧ IsInt64 (-1) ∧
      ∃ l m : Literal, Literal.typed "9007199254740993" Vocabulary.integer = .ok l ∧
        Literal.typed "-01" Vocabulary.integer = .ok m ∧
        ActRounded ⟨0, 0, 0⟩ (fun _ => 0) l m 9007199254740993 (-1) ∧
        rounded (-1) = -1 := by
  have hs : readInt? "9007199254740993".toList = some 9007199254740993 := by decide +kernel
  have ht : readInt? "-01".toList = some (-1) := by decide +kernel
  have ha : IsInt64 9007199254740993 := by decide
  have hb : IsInt64 (-1) := by decide
  obtain ⟨l, m, hl, hm, hact, -, hshort⟩ := exists_actRounded ⟨0, 0, 0⟩ (fun _ => 0) hs ht ha hb
  exact ⟨hs, ht, ha, hb, l, m, hl, hm, hact, hshort (by decide)⟩

/-- Two integers of which the second one is rounded to the first one are answered to be equal. -/
theorem not_equal_exact :
    ¬ ∀ (present : Calendar.Moment) (draw : Unit → Nat) (s t : String) (a b : ℤ) (l m : Literal),
      readInt? s.toList = some a → readInt? t.toList = some b → IsInt64 a → IsInt64 b →
      Literal.typed s Vocabulary.integer = .ok l → Literal.typed t Vocabulary.integer = .ok m →
        Comparison.answer present draw .equal (.literal l) (.literal m) =
          .ok (truthTerm (a = b)) := by
  intro h
  have hs : readInt? "9007199254740992".toList = some 9007199254740992 := by decide +kernel
  have ht : readInt? "9007199254740993".toList = some 9007199254740993 := by decide +kernel
  obtain ⟨l, hl, hstands⟩ := Literal.exists_typed_integer hs (by decide)
  obtain ⟨m, hm, hstands'⟩ := Literal.exists_typed_integer ht (by decide)
  have hexact := h ⟨0, 0, 0⟩ (fun _ => 0) _ _ _ _ l m hs ht (by decide) (by decide) hl hm
  have hact := actRounded_of_standsFor ⟨0, 0, 0⟩ (fun _ => 0) hstands hstands' (by decide)
    (by decide)
  rw [hact.equal] at hexact
  exact absurd (Except.ok.inj hexact) (by decide +kernel)

end SolutionAlgebra.Builtin
