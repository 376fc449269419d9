import Mathlib.Tactic.TFAE
import SolutionAlgebra.Proofs.Entries
import SolutionAlgebra.Proofs.Term.Equality
import SolutionAlgebra.Solution

/-! # An algebra of solutions

A union has the bindings of both solutions; those of the second prevail, and its new variables join
at the end. So unions are associative, with the order of the variables and the group, but they come
out the same in both orders only where the solutions are compatible: where every variable that both
bind is bound to equal terms. Then, and only then, a solution falls apart into what it shares with
the other and what the other leaves unbound. All this is up to the equality of solutions, which
does not look at the order and compares terms by what they mean.

* **`Solution.ext`** — solutions are known by their variables, the terms of these, and the group.
* **`Solution.domain_union`**, **`Solution.get?_union`** — the variables and terms of a union.
* **`Solution.isCompatible_iff`**, **`Solution.equal_iff`** — compatible and equal solutions.
* **`Solution.equal_union_iff`**, **`Solution.equal_split_iff`** — two equalities that amount to
  compatibility.
* **`Solution.union_assoc_and_compatible_tfae`** — the laws together. -/

namespace SolutionAlgebra.Solution

variable {a b s : Solution} {v : Variable} {t : Term}

/-! ## Bindings -/

/-- A variable has the term that it is paired with. -/
theorem get?_eq_some_iff : s.get? v = some t ↔ (v, t) ∈ s.entries := by
  constructor
  · intro h
    obtain ⟨before, after, hentries, -⟩ := List.lookup_eq_some_iff.1 h
    rw [hentries]
    exact List.mem_append_right before List.mem_cons_self
  · exact Entries.lookup_of_mem s.nodup

/-- The bound variables are those that have a term. -/
theorem mem_domain_iff : v ∈ s.domain ↔ ∃ t, s.get? v = some t := by
  simp only [get?_eq_some_iff]
  exact ⟨fun h => by simpa [domain] using h, fun ⟨t, h⟩ => List.mem_map.2 ⟨_, h, rfl⟩⟩

/-- A variable is found to be bound if it is one of the bound variables. -/
theorem has_iff : s.has v = true ↔ v ∈ s.domain := by
  rw [has, Option.isSome_iff_exists, mem_domain_iff]

/-- The term of a variable is found by its name. -/
theorem getByName?_eq_get? (s : Solution) (name : String) :
    s.getByName? name = s.get? ⟨name⟩ := by
  rw [getByName?, get?]
  induction s.entries with
  | nil => rfl
  | cons entry rest ih =>
      obtain ⟨⟨w⟩, t⟩ := entry
      rw [List.find?_cons, List.lookup_cons]
      by_cases hname : w = name
      · simp [hname]
      · have hvariable : ¬ (⟨name⟩ : Variable) = ⟨w⟩ := fun h =>
          hname (congrArg Variable.name h).symm
        simp only [beq_eq_false_iff_ne.2 hname, beq_eq_false_iff_ne.2 hvariable]
        exact ih

/-- Solutions are known by their entries and the group. -/
theorem eq_of_entries {a b : Solution} (hentries : a.entries = b.entries)
    (hgroup : a.group = b.group) : a = b := by
  cases a
  cases b
  cases hentries
  cases hgroup
  rfl

/-- **Solutions are known by their variables, the terms of these, and the group.** -/
theorem ext (hdomain : a.domain = b.domain) (hget : ∀ v, a.get? v = b.get? v)
    (hgroup : a.group = b.group) : a = b :=
  eq_of_entries (Entries.ext a.nodup hdomain hget) hgroup

/-- Of the bindings, those that satisfy a condition are kept. -/
theorem get?_filter (s : Solution) (keep : Variable → Term → Bool) (v : Variable) :
    (s.filter keep).get? v = (s.get? v).filter (keep v) := by
  refine Option.ext fun t => ?_
  rw [get?_eq_some_iff, Option.filter_eq_some_iff, get?_eq_some_iff]
  exact List.mem_filter

/-! ## Unions -/

/-- The bindings of the second solution are inserted into those of the first. -/
theorem entries_union (a b : Solution) : (a.union b).entries =
    Entries.collect Prod.fst (fun entry _ => entry.2) a.entries b.entries :=
  (List.foldl_hom entries fun _ _ => rfl).symm

/-- A union stands for the group of the first solution. -/
@[simp] theorem group_union (a b : Solution) : (a.union b).group = a.group := by
  unfold union
  induction b.entries generalizing a with
  | nil => rfl
  | cons entry rest ih => exact ih (a.bind entry.1 entry.2)

/-- **The new variables of the second solution join at the end.** -/
theorem domain_union (a b : Solution) :
    (a.union b).domain = a.domain ++ b.domain.filter (· ∉ a.domain) := by
  rw [domain, entries_union, Entries.keys_collect]
  exact congrArg _ (Entries.eraseDups_of_nodup (b.nodup.filter _))

/-- **The terms of the second solution prevail.** -/
theorem get?_union (a b : Solution) (v : Variable) :
    (a.union b).get? v = (b.get? v).or (a.get? v) := by
  rw [get?, entries_union, Entries.lookup_collect_entries (fun t _ => t) a.entries b.nodup v, get?]
  cases b.entries.lookup v <;> rfl

/-- The variables of a union are those of both solutions. -/
theorem mem_domain_union : v ∈ (a.union b).domain ↔ v ∈ a.domain ∨ v ∈ b.domain := by
  rw [domain_union, List.mem_append, List.mem_filter, decide_eq_true_iff]
  tauto

/-- **Unions are associative**, with the order of the variables and the group. -/
theorem union_assoc (a b c : Solution) : (a.union b).union c = a.union (b.union c) := by
  refine ext ?_ (fun v => ?_) ?_
  · -- the variables of `c` join if neither `a` nor `b` has them
    simp only [domain_union, List.filter_append, List.filter_filter, List.append_assoc]
    congr 2
    refine List.filter_congr fun v _ => ?_
    rw [Bool.eq_iff_iff]
    simp only [List.mem_append, List.mem_filter, decide_eq_true_iff, Bool.and_eq_true]
    tauto
  · rw [get?_union, get?_union, get?_union, get?_union, Option.or_assoc]
  · rw [group_union, group_union, group_union]

/-! ## Compatible and equal solutions -/

/-- **Solutions are compatible if no variable has unequal terms in them.** -/
theorem isCompatible_iff : a.isCompatible b = true ↔
    ∀ v t u, a.get? v = some t → b.get? v = some u → t.equal u = true := by
  simp only [isCompatible, List.all_eq_true, Prod.forall, get?_eq_some_iff (s := a)]
  refine forall₂_congr fun v t => ?_
  cases hb : b.get? v with
  | none => simp
  | some u => simp [Term.equal_comm t u]

/-- Compatibility does not depend on the order of the solutions. -/
theorem isCompatible_comm (a b : Solution) : a.isCompatible b = b.isCompatible a := by
  have himp : ∀ a b : Solution, a.isCompatible b = true → b.isCompatible a = true := by
    intro a b h
    rw [isCompatible_iff] at h ⊢
    intro v t u hb ha
    rw [Term.equal_comm]
    exact h v u t ha hb
  exact Bool.eq_iff_iff.2 ⟨himp a b, himp b a⟩

/-- **Solutions are equal if they bind the same variables and are compatible.** -/
theorem equal_iff : a.equal b = true ↔
    (∀ v, v ∈ a.domain ↔ v ∈ b.domain) ∧ a.isCompatible b = true := by
  have hlength : a.size = b.size ↔ a.domain.length = b.domain.length := by
    simp only [size, domain, List.length_map]
  rw [equal, Bool.and_eq_true, Bool.and_eq_true, beq_iff_eq, List.all_eq_true, hlength]
  simp only [has_iff]
  refine and_congr_left fun _ => ⟨fun ⟨hlength, hsubset⟩ v => ?_, fun h => ?_⟩
  · -- no variable of `b` is left over, since none of `a` occurs twice
    have hsubperm : a.domain.Subperm b.domain := List.subperm_of_subset a.nodup hsubset
    exact (hsubperm.perm_of_length_le hlength.ge).mem_iff
  · exact ⟨((List.perm_ext_iff_of_nodup a.nodup b.nodup).2 h).length_eq, fun v => (h v).1⟩

/-- Equality does not depend on the order of the solutions. -/
theorem equal_comm (a b : Solution) : a.equal b = b.equal a := by
  rw [Bool.eq_iff_iff, equal_iff, equal_iff, isCompatible_comm]
  simp only [iff_comm]

/-! ## Two equalities that amount to compatibility -/

/-- That no term of a solution is the undefined number. -/
def Defined (s : Solution) : Prop := ∀ t ∈ s.terms, ¬ t.Undefined

/-- The terms of such a solution are equal to themselves. -/
theorem Defined.equal_self (h : s.Defined) (hget : s.get? v = some t) : t.equal t = true :=
  Term.equal_self_iff.2 (h t (List.mem_map.2 ⟨_, get?_eq_some_iff.1 hget, rfl⟩))

/-- **The unions in both orders are equal if the solutions are compatible.** -/
theorem equal_union_iff (ha : a.Defined) (hb : b.Defined) :
    (a.union b).equal (b.union a) = true ↔ a.isCompatible b = true := by
  have hdomain : ∀ v, v ∈ (a.union b).domain ↔ v ∈ (b.union a).domain := fun v => by
    rw [mem_domain_union, mem_domain_union, or_comm]
  rw [equal_iff, and_iff_right hdomain, isCompatible_iff, isCompatible_iff]
  simp only [get?_union]
  refine forall_congr' fun v => ?_
  -- a variable that only one solution binds has its one term in both unions
  cases hav : a.get? v with
  | none =>
      refine iff_of_true (fun t u ht hu => ?_) fun _ _ h => nomatch h
      rw [Option.or_none] at ht
      rw [Option.none_or, ht] at hu
      cases hu
      exact hb.equal_self ht
  | some x =>
      cases hbv : b.get? v with
      | none =>
          refine iff_of_true (fun t u ht hu => ?_) fun _ _ _ h => nomatch h
          cases ht
          cases hu
          exact ha.equal_self hav
      | some y => simp [Term.equal_comm y x]

/-- What a solution shares with another, after what the other leaves unbound: the terms that the
other has no unequal term for. -/
theorem get?_union_difference_intersection (a b : Solution) (v : Variable) :
    ((a.difference b).union (a.intersection b)).get? v =
      (a.get? v).filter fun t => (b.get? v).all fun u => u.equal t := by
  rw [get?_union, intersection, difference, get?_filter, get?_filter, has]
  cases a.get? v with
  | none => rfl
  | some t =>
      cases b.get? v with
      | none => rfl
      | some u =>
          simp only [Option.filter_some, Option.all_some, Option.isSome_some, Option.any_some]
          cases u.equal t <;> rfl

/-- **A solution falls apart into what it shares with another and what the other leaves unbound** if
they are compatible. -/
theorem equal_split_iff (ha : a.Defined) :
    a.equal ((a.difference b).union (a.intersection b)) = true ↔ a.isCompatible b = true := by
  have hget := get?_union_difference_intersection a b
  -- what is left of the bindings is what it was
  have hcompatible : a.isCompatible ((a.difference b).union (a.intersection b)) = true := by
    refine isCompatible_iff.2 fun v t u ht hu => ?_
    rw [hget, ht, Option.filter_eq_some_iff] at hu
    cases hu.1
    exact ha.equal_self ht
  rw [equal_iff, and_iff_left hcompatible, isCompatible_iff]
  simp only [mem_domain_iff, hget, Option.filter_eq_some_iff]
  constructor
  · intro h v t u ht hu
    obtain ⟨t', ht', hequal⟩ := (h v).1 ⟨t, ht⟩
    cases ht.symm.trans ht'
    rw [hu, Option.all_some, Term.equal_comm] at hequal
    exact hequal
  · intro h v
    refine ⟨fun ⟨t, ht⟩ => ⟨t, ht, ?_⟩, fun ⟨t, ht, _⟩ => ⟨t, ht⟩⟩
    cases hu : b.get? v with
    | none => rfl
    | some u => rw [Option.all_some, Term.equal_comm, h v t u ht hu]

/-! ## The laws together -/

/-- **The laws of solutions.** Unions are associative. Of solutions without the undefined number it
is the same to say that they are compatible, that their unions in both orders are equal, and that
the first falls apart into what it shares with the second and what the second leaves unbound.
Neither compatibility nor equality depends on the order of the solutions. -/
theorem union_assoc_and_compatible_tfae :
    (∀ a b c : Solution, (a.union b).union c = a.union (b.union c)) ∧
    (∀ a b : Solution, a.Defined → b.Defined →
      [a.isCompatible b = true,
        (a.union b).equal (b.union a) = true,
        a.equal ((a.difference b).union (a.intersection b)) = true].TFAE) ∧
    (∀ a b : Solution, a.isCompatible b = b.isCompatible a) ∧
    ∀ a b : Solution, a.equal b = b.equal a := by
  refine ⟨union_assoc, fun a b ha hb => ?_, isCompatible_comm, equal_comm⟩
  tfae_have 1 ↔ 2 := (equal_union_iff ha hb).symm
  tfae_have 1 ↔ 3 := (equal_split_iff ha).symm
  tfae_finish

/-- Two solutions that share a variable, one with the integer one and the other with the decimal
fraction: their unions are equal without being the same. -/
theorem union_assoc_and_compatible_tfae_ones :
    let one : NumericType → Term := fun type => .literal (.numeric 1 type)
    let a := ofList [(⟨"x"⟩, one .integer), (⟨"y"⟩, .var ⟨"b"⟩)]
    let b := ofList [(⟨"z"⟩, .var ⟨"b"⟩), (⟨"x"⟩, one .decimal)]
    a.Defined ∧ b.Defined ∧ a.isCompatible b = true ∧ a.union b ≠ b.union a ∧
      (a.union b).equal (b.union a) = true ∧
      a.equal ((a.difference b).union (a.intersection b)) = true := by
  intro one a b
  have hone : ∀ type, ¬ (one type).Undefined := fun type h =>
    absurd (Literal.undefined_numeric_iff.1 h) (by decide +kernel)
  have ha : a.Defined := List.forall_mem_cons.2 ⟨hone _, List.forall_mem_singleton.2 fun h => h⟩
  have hb : b.Defined :=
    List.forall_mem_cons.2 ⟨fun h => h, List.forall_mem_singleton.2 (hone _)⟩
  have hcompatible : a.isCompatible b = true := by decide +kernel
  have hdomain : (a.union b).domain ≠ (b.union a).domain := by decide +kernel
  have htfae := union_assoc_and_compatible_tfae.2.1 a b ha hb
  exact ⟨ha, hb, hcompatible, fun h => hdomain (congrArg domain h),
    (htfae.out 0 1).1 hcompatible, (htfae.out 0 2).1 hcompatible⟩

end SolutionAlgebra.Solution
