import Mathlib.Order.Bounds.Basic
import SolutionAlgebra.Aggregation
import SolutionAlgebra.Proofs.Decimal.Counts
import SolutionAlgebra.Proofs.Literal.Promotion

/-! # Sums and averages

The sum and the average of any terms are numbers, as what is not a number is passed over. While the
sum is made, it is of the widest class so far. The average divides it by a whole number that is not
zero, so that the quotient is never refused.

* **`Aggregation.classes`** — the classes of the numbers among some literals.
* **`Aggregation.exists_total`** — a sum is a number of the widest class.
* **`Aggregation.Averages`** — what the sum and the average of numbers are.
* **`Aggregation.exists_sum_and_average`** — sums and averages of all terms. -/

namespace SolutionAlgebra

namespace Literal

/-- A literal is a number exactly if it is one of some class. -/
theorem isNumeric_iff {l : Literal} : l.isNumeric = true ↔ ∃ type, l.OfType type := by
  unfold isNumeric OfType
  rw [Option.isSome_iff_exists]
  constructor
  · rintro ⟨⟨x, type⟩, h⟩
    exact ⟨type, x, h⟩
  · rintro ⟨type, x, h⟩
    exact ⟨(x, type), h⟩

/-- A positive whole number is not zero. -/
theorem not_isZero_integer {n : ℕ} (hn : 0 < n) : ¬ (integer n).IsZero := by
  rintro ⟨y, type, hy, hzero⟩
  cases hy
  rw [Decimal.ofInt_ne_zero (by omega)] at hzero
  cases hzero

end Literal

namespace Aggregation

variable {terms : List Term} {ls : List Literal} {l acc sum : Literal} {p q type : NumericType}

/-! ## The widest class -/

/-- The classes of the numbers among some literals. -/
def classes (ls : List Literal) : Set NumericType := {type | ∃ l ∈ ls, l.OfType type}

/-- Of no literals there are no classes. -/
theorem classes_nil : classes [] = ∅ :=
  Set.eq_empty_of_forall_notMem fun _ ⟨_, hmem, _⟩ => List.not_mem_nil hmem

/-- A further number adds its class. -/
theorem classes_cons (hl : l.OfType q) : classes (l :: ls) = insert q (classes ls) := by
  ext type
  constructor
  · rintro ⟨m, hm, htype⟩
    rcases List.mem_cons.1 hm with rfl | hm
    · exact .inl (htype.unique hl)
    · exact .inr ⟨m, hm, htype⟩
  · rintro (rfl | ⟨m, hm, htype⟩)
    · exact ⟨l, List.mem_cons_self, hl⟩
    · exact ⟨m, List.mem_cons_of_mem l hm, htype⟩

/-- What is not a number adds no class. -/
theorem classes_filter : classes (ls.filter Literal.isNumeric) = classes ls := by
  ext type
  constructor
  · rintro ⟨l, hl, htype⟩
    exact ⟨l, List.mem_of_mem_filter hl, htype⟩
  · rintro ⟨l, hl, htype⟩
    exact ⟨l, List.mem_filter.2 ⟨hl, Literal.isNumeric_iff.2 ⟨type, htype⟩⟩, htype⟩

/-- The greatest of some elements stays where the greater of two stands for both. -/
theorem isGreatest_insert_max {s : Set NumericType} (h : IsGreatest (insert (max p q) s) type) :
    IsGreatest (insert p (insert q s)) type := by
  obtain ⟨hmem, hbound⟩ := h
  have hmax : max p q ≤ type := hbound (Set.mem_insert _ _)
  constructor
  · rcases hmem with rfl | hmem
    · rcases max_choice p q with hp | hq
      · exact .inl hp
      · exact .inr (.inl hq)
    · exact .inr (.inr hmem)
  · rintro other (rfl | rfl | hother)
    · exact (le_max_left other q).trans hmax
    · exact (le_max_right p other).trans hmax
    · exact hbound (.inr hother)

/-! ## Sums -/

/-- **A sum goes on as a number** of the widest class so far, from any number on. -/
theorem exists_total_from (hacc : acc.OfType p) (hls : ∀ l ∈ ls, l.isNumeric = true) :
    ∃ sum type, ls.foldlM (fun sum l => (Literal.apply .add sum l).mapError .arithmetic) acc =
        (.ok sum : Outcome Literal) ∧
      sum.OfType type ∧ IsGreatest (insert p (classes ls)) type := by
  -- by induction on what is left to add, with the class of the sum so far in place of `p`
  induction ls generalizing acc p with
  | nil =>
      refine ⟨acc, p, rfl, hacc, ?_⟩
      rw [classes_nil, insert_empty_eq]
      exact isGreatest_singleton
  | cons l ls ih =>
      obtain ⟨hl, hls⟩ := List.forall_mem_cons.1 hls
      obtain ⟨q, hq⟩ := Literal.isNumeric_iff.1 hl
      rcases Literal.apply_cases .add hacc hq with ⟨m, hm, htype, -⟩ | ⟨hop, -⟩
      · obtain ⟨sum, type, hsum, hsumType, hgreatest⟩ := ih htype hls
        refine ⟨sum, type, ?_, hsumType, ?_⟩
        · rw [List.foldlM_cons, hm]
          exact hsum
        · rw [classes_cons hq]
          exact isGreatest_insert_max hgreatest
      · cases hop

/-- **The sum of numbers is a number** of the widest class among whole numbers and theirs. -/
theorem exists_total (hls : ∀ l ∈ ls, l.isNumeric = true) :
    ∃ sum type, total ls = .ok sum ∧ sum.OfType type ∧
      IsGreatest (insert .integer (classes ls)) type :=
  exists_total_from ⟨_, rfl⟩ hls

/-! ## Averages -/

/-- Where decimal fractions stand for whole numbers, the greatest class is at least theirs. -/
theorem isGreatest_insert_decimal {s : Set NumericType} (h : IsGreatest (insert .integer s) type) :
    IsGreatest (insert .decimal s) (max type .decimal) := by
  obtain ⟨hmem, hbound⟩ := h
  constructor
  · rcases max_choice type .decimal with heq | heq
    · have hle : .decimal ≤ type := max_eq_left_iff.1 heq
      rw [heq]
      refine .inr (hmem.resolve_left ?_)
      rintro rfl
      exact absurd hle (by decide)
    · exact .inl heq
  · rintro other (rfl | hother)
    · exact le_max_right _ _
    · exact (hbound (.inr hother)).trans (le_max_left _ _)

/-- A sum is divided by a positive whole number. -/
theorem exists_quotient {n : ℕ} (hn : 0 < n) (hsum : sum.OfType p)
    (hgreatest : IsGreatest (insert .integer (classes ls)) p) :
    ∃ mean type, Literal.apply .divide sum (.integer n) = .ok mean ∧ mean.OfType type ∧
      IsGreatest (insert .decimal (classes ls)) type := by
  have hdivisor : (Literal.integer n).OfType .integer := ⟨_, rfl⟩
  rcases Literal.apply_cases .divide hsum hdivisor with
    ⟨mean, hmean, htype, -⟩ | ⟨-, -, hzero, -⟩
  · refine ⟨mean, _, hmean, htype, ?_⟩
    show IsGreatest _ (max (max p .integer) .decimal)
    rw [max_eq_left (NumericType.integer_le p)]
    exact isGreatest_insert_decimal hgreatest
  · exact absurd hzero (Literal.not_isZero_integer hn)

/-- The sum and the average of numbers: the sum is of the widest class among whole numbers and
theirs. The average is the sum divided by how many they are, which is not zero, and of the widest
class among decimal fractions and theirs; of no numbers it is the integer zero. -/
structure Averages (ls : List Literal) (sum mean : Literal) : Prop where
  /-- The sum is a number of the widest class. -/
  widest : ∃ type, sum.OfType type ∧ IsGreatest (insert .integer (classes ls)) type
  /-- The average is a quotient, unless there is no number. -/
  quotient : ls = [] ∧ mean = .integer 0 ∨
    ls ≠ [] ∧ ¬ (Literal.integer ls.length).IsZero ∧
      Literal.apply .divide sum (.integer ls.length) = .ok mean ∧
      ∃ type, mean.OfType type ∧ IsGreatest (insert .decimal (classes ls)) type

/-- **Numbers have a sum and an average.** -/
theorem exists_averages (hls : ∀ l ∈ ls, l.isNumeric = true) :
    ∃ sum mean, total ls = .ok sum ∧ Aggregation.mean ls = .ok mean ∧ Averages ls sum mean := by
  obtain ⟨sum, p, hsum, hsumType, hgreatest⟩ := exists_total hls
  by_cases hne : ls = []
  · subst hne
    exact ⟨sum, .integer 0, hsum, rfl, ⟨p, hsumType, hgreatest⟩, .inl ⟨rfl, rfl⟩⟩
  · have hpos := List.length_pos_iff.2 hne
    obtain ⟨mean, type, hmean, htype, hgreatest'⟩ := exists_quotient hpos hsumType hgreatest
    refine ⟨sum, mean, hsum, ?_, ⟨p, hsumType, hgreatest⟩,
      .inr ⟨hne, Literal.not_isZero_integer hpos, hmean, type, htype, hgreatest'⟩⟩
    unfold Aggregation.mean
    rw [hsum]
    show (if ls.isEmpty then _ else _) = _
    rw [if_neg (by rwa [List.isEmpty_iff]), hmean]
    rfl

/-! ## All terms -/

/-- The numbers are found among the numeric terms. -/
theorem numbers_filter : numbers (terms.filter Term.isNumeric) = numbers terms := by
  unfold numbers
  rw [List.filterMap_filter, List.filter_filterMap, List.filter_filterMap]
  refine List.filterMap_congr fun t _ => ?_
  unfold Term.isNumeric
  cases t.literal? with
  | none => rfl
  | some l => cases h : l.isNumeric <;> simp [Option.filter, h]

/-- There are as many numbers as numeric terms. -/
theorem length_numbers : (numbers terms).length = terms.countP Term.isNumeric := by
  unfold numbers
  rw [← List.countP_eq_length_filter, List.countP_filterMap]
  refine List.countP_congr fun t _ => ?_
  unfold Term.isNumeric
  cases t.literal? <;> rfl

/-- Sums and averages are those of the numeric terms, whatever the separator is. -/
theorem apply_filter_isNumeric {a : Aggregation} (ha : a ∈ [Aggregation.sum, average])
    (separator other : String) :
    a.apply other (terms.filter Term.isNumeric) = a.apply separator terms := by
  rcases List.mem_pair.1 ha with rfl | rfl
  · show (total (numbers (terms.filter Term.isNumeric))).map _ = _
    rw [numbers_filter]
    rfl
  · show (mean (numbers (terms.filter Term.isNumeric))).map _ = _
    rw [numbers_filter]
    rfl

/-- **Sums and averages are numbers, whatever the terms are**, and they are those of the numeric
terms alone. The class of the sum is the widest among whole numbers and the classes of the numbers.
If there are numbers, the average is the sum divided by how many they are, which is not zero, and
its class is the widest among decimal fractions and the classes of the numbers; else it is the
integer zero. -/
theorem exists_sum_and_average (separator : String) (terms : List Term) :
    ∃ sum mean : Literal, Aggregation.sum.apply separator terms = .ok (.literal sum) ∧
      average.apply separator terms = .ok (.literal mean) ∧
      (∀ a ∈ [Aggregation.sum, average], ∀ other,
        a.apply other (terms.filter Term.isNumeric) = a.apply separator terms) ∧
      (∃ type, sum.OfType type ∧
        IsGreatest (insert .integer (classes (terms.filterMap Term.literal?))) type) ∧
      (terms.countP Term.isNumeric = 0 ∧ mean = .integer 0 ∨
        0 < terms.countP Term.isNumeric ∧
        ¬ (Literal.integer (terms.countP Term.isNumeric)).IsZero ∧
        Literal.apply .divide sum (.integer (terms.countP Term.isNumeric)) = .ok mean ∧
        ∃ type, mean.OfType type ∧
          IsGreatest (insert .decimal (classes (terms.filterMap Term.literal?))) type) := by
  have hclasses : classes (numbers terms) = classes (terms.filterMap Term.literal?) :=
    classes_filter
  obtain ⟨sum, mean, hsum, hmean, haverages⟩ :=
    @exists_averages (numbers terms) fun l hl => (List.mem_filter.1 hl).2
  refine ⟨sum, mean, ?_, ?_, fun a ha other => apply_filter_isNumeric ha separator other, ?_, ?_⟩
  · show (total (numbers terms)).map _ = _
    rw [hsum]
    rfl
  · show (Aggregation.mean (numbers terms)).map _ = _
    rw [hmean]
    rfl
  · rw [← hclasses]
    exact haverages.widest
  · rw [← hclasses, ← length_numbers, List.length_eq_zero_iff, List.length_pos_iff]
    exact haverages.quotient

end Aggregation

end SolutionAlgebra
