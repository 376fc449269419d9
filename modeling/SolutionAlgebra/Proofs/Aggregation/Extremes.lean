import SolutionAlgebra.Aggregation
import SolutionAlgebra.Proofs.Term.Order

/-! # Least and greatest terms

The least and the greatest of some terms are found in one pass, which keeps the best term so far and
gives it up only for a better one. Among literals of one genus, and among terms that are no
literals, the order is transitive. There the pass ends with the first of the best terms: none is
better, and all terms before it are worse. So in any other order of the terms it ends with one that
is neither better nor worse, although it may be another of several with the same value.

* **`Aggregation.Uniform`** — that terms are literals of one genus, or no literals.
* **`Aggregation.FirstExtreme`** — that a term is the first of the best terms.
* **`Aggregation.FirstExtreme.step`** — what a further term makes of it.
* **`Aggregation.least_and_greatest`** — the least and the greatest of uniform terms. -/

namespace SolutionAlgebra.Aggregation

variable {preferred : Ordering} {terms seen others : List Term} {a b c m t best : Term}

/-! ## Uniform terms -/

/-- That terms are of one genus, or IRIs and variables. -/
inductive Uniform (terms : List Term) : Prop where
  /-- The terms are literals with values of one kind, or all IRIs or all variables. -/
  | genus {genus : Genus} (h : ∀ t ∈ terms, t.genus = genus)
  /-- No term is a literal. -/
  | names (h : ∀ t ∈ terms, t.literal? = none)

/-- Some of uniform terms are uniform. -/
theorem Uniform.of_subset (h : Uniform terms) (hsubset : ∀ t ∈ seen, t ∈ terms) :
    Uniform seen := by
  cases h with
  | genus h => exact .genus fun t ht => h t (hsubset t ht)
  | names h => exact .names fun t ht => h t (hsubset t ht)

/-- Among uniform terms, the order is transitive. -/
theorem Uniform.atMost_trans (h : Uniform terms) (ha : a ∈ terms) (hb : b ∈ terms)
    (hc : c ∈ terms) (hab : a.AtMost b) (hbc : b.AtMost c) : a.AtMost c := by
  cases h with
  | genus h =>
      exact Term.atMost_trans ((h a ha).trans (h b hb).symm) ((h b hb).trans (h c hc).symm) hab hbc
  | names h =>
      rw [Term.atMost_iff_isLE, Term.order_of_literal?_eq_none (.inl (h a ha))] at hab ⊢
      rw [Term.atMost_iff_isLE, Term.order_of_literal?_eq_none (.inl (h b hb))] at hbc
      exact Std.TransOrd.isLE_trans hab hbc

/-! ## Better and worse terms -/

/-- That a term is not given up for another. -/
def Keeps (preferred : Ordering) (a b : Term) : Prop := b.order a ≠ preferred

/-- The lesser term is kept where the least is wanted. -/
theorem keeps_lt_iff : Keeps .lt a b ↔ a.AtMost b := by
  unfold Keeps Term.AtMost
  rw [Term.order_swap a b]
  cases a.order b <;> decide

/-- A term is given up for another exactly if they stand in the reverse of the wanted order. -/
theorem not_keeps_iff : ¬ Keeps preferred a b ↔ a.order b = preferred.swap := by
  unfold Keeps
  rw [Term.order_swap a b, Classical.not_not]
  cases a.order b <;> cases preferred <;> decide

/-- Among uniform terms, what is kept for one that is kept for a third is kept for the third. -/
theorem Uniform.keeps_trans (h : Uniform terms) (hpreferred : preferred ≠ .eq) (ha : a ∈ terms)
    (hb : b ∈ terms) (hc : c ∈ terms) (hab : Keeps preferred a b) (hbc : Keeps preferred b c) :
    Keeps preferred a c := by
  cases preferred with
  | lt =>
      rw [keeps_lt_iff] at hab hbc ⊢
      exact h.atMost_trans ha hb hc hab hbc
  | eq => exact absurd rfl hpreferred
  | gt =>
      -- where the greatest is wanted, the greater term is kept
      exact h.atMost_trans hc hb ha hbc hab

/-- An order other than equality is not its own reverse. -/
theorem swap_ne_self (hpreferred : preferred ≠ .eq) : preferred.swap ≠ preferred := by
  revert hpreferred
  cases preferred <;> decide

/-- A term is kept for itself. -/
theorem keeps_self (hpreferred : preferred ≠ .eq) : Keeps preferred a a := by
  intro heq
  have hswap := Term.order_swap a a
  rw [heq] at hswap
  exact swap_ne_self hpreferred hswap.symm

/-! ## The first of the best terms -/

/-- That a term is among others, that none is better, and that all before it are worse. -/
def FirstExtreme (preferred : Ordering) (terms : List Term) (m : Term) : Prop :=
  ∃ before after, terms = before ++ m :: after ∧ (∀ t ∈ terms, t.order m ≠ preferred) ∧
    ∀ t ∈ before, t.order m = preferred.swap

/-- The first of the best terms is among them. -/
theorem FirstExtreme.mem (h : FirstExtreme preferred terms m) : m ∈ terms := by
  obtain ⟨before, after, rfl, -⟩ := h
  exact List.mem_append_right before List.mem_cons_self

/-- A single term is the first of the best. -/
theorem FirstExtreme.singleton (hpreferred : preferred ≠ .eq) (t : Term) :
    FirstExtreme preferred [t] t :=
  ⟨[], [], rfl, List.forall_mem_singleton.2 (keeps_self hpreferred), nofun⟩

/-- **A further term is the first of the best if it is better, and else the one so far stays.** -/
theorem FirstExtreme.step (hpreferred : preferred ≠ .eq) (huniform : Uniform (seen ++ [t]))
    (h : FirstExtreme preferred seen best) :
    FirstExtreme preferred (seen ++ [t]) (if t.order best = preferred then t else best) := by
  have hbest : best ∈ seen ++ [t] := List.mem_append_left [t] h.mem
  have ht : t ∈ seen ++ [t] := List.mem_append_right seen List.mem_cons_self
  obtain ⟨before, after, hseen, hnone, hbefore⟩ := h
  by_cases hbetter : t.order best = preferred
  · -- what is not worse than the better term would be kept for it, and so would the best so far
    have hworse : ∀ u ∈ seen, u.order t = preferred.swap := by
      intro u hu
      refine not_keeps_iff.1 fun hkeeps => ?_
      exact huniform.keeps_trans hpreferred hbest (List.mem_append_left [t] hu) ht (hnone u hu)
        hkeeps hbetter
    rw [if_pos hbetter]
    refine ⟨seen, [], rfl, ?_, hworse⟩
    refine List.forall_mem_append.2
      ⟨fun u hu => ?_, List.forall_mem_singleton.2 (keeps_self hpreferred)⟩
    rw [hworse u hu]
    exact swap_ne_self hpreferred
  · rw [if_neg hbetter]
    refine ⟨before, after ++ [t], ?_, ?_, hbefore⟩
    · rw [hseen, List.append_assoc, List.cons_append]
    · exact List.forall_mem_append.2 ⟨hnone, List.forall_mem_singleton.2 hbetter⟩

/-- **The pass ends with the first of the best terms.** -/
theorem FirstExtreme.foldl (hpreferred : preferred ≠ .eq) (huniform : Uniform (seen ++ terms))
    (h : FirstExtreme preferred seen best) : FirstExtreme preferred (seen ++ terms)
      (terms.foldl (fun best t => if t.order best = preferred then t else best) best) := by
  induction terms generalizing seen best with
  | nil =>
      rw [List.append_nil]
      exact h
  | cons t terms ih =>
      rw [List.append_cons] at huniform ⊢
      have hpart : Uniform (seen ++ [t]) :=
        huniform.of_subset fun u hu => List.mem_append_left terms hu
      exact ih huniform (h.step hpreferred hpart)

/-- Of the same terms in another order, the first of the best has the same value. -/
theorem FirstExtreme.order_eq (hpreferred : preferred ≠ .eq) (hperm : terms.Perm others)
    (h : FirstExtreme preferred terms m) (h' : FirstExtreme preferred others t) :
    t.order m = .eq := by
  have hm := hperm.mem_iff.1 h.mem
  have ht := hperm.mem_iff.2 h'.mem
  obtain ⟨-, -, -, hnone, -⟩ := h
  obtain ⟨-, -, -, hnone', -⟩ := h'
  have htm := hnone t ht
  have hmt := hnone' m hm
  rw [Term.order_swap t m] at hmt
  generalize t.order m = o at htm hmt ⊢
  revert hpreferred htm hmt
  cases o <;> cases preferred <;> decide

/-! ## Least and greatest -/

/-- Of uniform terms the pass finds the first of the best. -/
theorem exists_firstExtreme (hpreferred : preferred ≠ .eq) (huniform : Uniform terms)
    (hne : terms ≠ []) :
    ∃ m, extreme? preferred terms = some m ∧ FirstExtreme preferred terms m := by
  cases terms with
  | nil => exact absurd rfl hne
  | cons t terms => exact ⟨_, rfl, (FirstExtreme.singleton hpreferred t).foldl hpreferred huniform⟩

/-- What it finds has the same value in any other order of the terms. -/
theorem exists_extreme (hpreferred : preferred ≠ .eq) (huniform : Uniform terms)
    (hne : terms ≠ []) : ∃ m, extreme? preferred terms = some m ∧ FirstExtreme preferred terms m ∧
      ∀ others, terms.Perm others →
        ∃ m', extreme? preferred others = some m' ∧ m'.order m = .eq := by
  obtain ⟨m, hm, hfirst⟩ := exists_firstExtreme hpreferred huniform hne
  refine ⟨m, hm, hfirst, fun others hperm => ?_⟩
  have hothers : Uniform others := huniform.of_subset fun t ht => hperm.mem_iff.2 ht
  have hne' : others ≠ [] := fun hnil => hne (List.perm_nil.1 (hnil ▸ hperm))
  obtain ⟨m', hm', hfirst'⟩ := exists_firstExtreme hpreferred hothers hne'
  exact ⟨m', hm', hfirst.order_eq hpreferred hperm hfirst'⟩

/-- **The least and the greatest of uniform terms are the first of the least and of the greatest**,
and in any other order of the terms they have the same values. -/
theorem least_and_greatest (separator : String) (huniform : Uniform terms) (hne : terms ≠ []) :
    ∃ low high, least.apply separator terms = .ok low ∧ FirstExtreme .lt terms low ∧
      greatest.apply separator terms = .ok high ∧ FirstExtreme .gt terms high ∧
      ∀ others, terms.Perm others → ∃ low' high', least.apply separator others = .ok low' ∧
        low'.order low = .eq ∧ greatest.apply separator others = .ok high' ∧
        high'.order high = .eq := by
  have hlt : Ordering.lt ≠ .eq := nofun
  have hgt : Ordering.gt ≠ .eq := nofun
  obtain ⟨low, hlow, hleast, hlow'⟩ := exists_extreme hlt huniform hne
  obtain ⟨high, hhigh, hgreatest, hhigh'⟩ := exists_extreme hgt huniform hne
  have happly : ∀ {a : Aggregation} {o : Option Term} {m : Term}, o = some m →
      a.required o = .ok m := by
    rintro a o m rfl
    rfl
  refine ⟨low, high, happly hlow, hleast, happly hhigh, hgreatest, fun others hperm => ?_⟩
  obtain ⟨l, hl, hlEq⟩ := hlow' others hperm
  obtain ⟨h, hh, hhEq⟩ := hhigh' others hperm
  exact ⟨l, h, happly hl, hlEq, happly hh, hhEq⟩

/-- The least of the integers two and one and of the decimal fraction one is the integer one; where
the fraction stands first it is the fraction, which is equal to it. -/
theorem least_and_greatest_ones :
    let two := Term.literal (.integer 2)
    let one := Term.literal (.integer 1)
    let decimalOne := Term.literal (.numeric 1 .decimal)
    Uniform [two, one, decimalOne] ∧ least.apply " " [two, one, decimalOne] = .ok one ∧
      FirstExtreme .lt [two, one, decimalOne] one ∧
      least.apply " " [decimalOne, one, two] = .ok decimalOne ∧ decimalOne.order one = .eq := by
  intro two one decimalOne
  have hnumeric : ∀ t ∈ [two, one, decimalOne], t.genus = .numeric :=
    List.forall_mem_cons.2 ⟨rfl, List.forall_mem_cons.2 ⟨rfl, List.forall_mem_singleton.2 rfl⟩⟩
  have huniform : Uniform [two, one, decimalOne] := .genus hnumeric
  have hleast : least.apply " " [two, one, decimalOne] = .ok one := by decide +kernel
  have hleast' : least.apply " " [decimalOne, one, two] = .ok decimalOne := by decide +kernel
  obtain ⟨low, high, hlow, hfirst, -, -, hothers⟩ :=
    least_and_greatest " " huniform (List.cons_ne_nil _ _)
  obtain ⟨low', high', hlow', heq, -⟩ :=
    hothers [decimalOne, one, two] (List.reverse_perm [decimalOne, one, two])
  cases hleast.symm.trans hlow
  cases hleast'.symm.trans hlow'
  exact ⟨huniform, hleast, hfirst, hleast', heq⟩

end SolutionAlgebra.Aggregation
