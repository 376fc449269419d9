import Mathlib.Algebra.BigOperators.Group.List.Lemmas
import Mathlib.Algebra.GroupWithZero.Nat
import Mathlib.Data.List.Induction

/-! # Partitions of lists

A list falls into parts by a relation of likeness: an element stands in one part with all the
elements that are like it, in their order in the list, and the parts stand in the order of their
first elements.

* **`Grouping.IsPartition`** — what it is for lists to be the parts of a list.
* **`Grouping.IsPartition.unique`** — there is one way only to part a list.
* **`Grouping.isPartition_of_key`** — the parts by a key, where like elements are those of one
  key.
* **`Grouping.sum_length_of_key`** — these parts have as many elements as the list. -/

namespace SolutionAlgebra.Grouping

variable {α κ : Type}

/-- That lists are the parts of a list by a relation of likeness, in the order in which the parts
first appear in the list. -/
structure IsPartition (alike : α → α → Prop) [DecidableRel alike] (xs : List α)
    (parts : List (List α)) : Prop where
  /-- Every part has an element. -/
  nonempty : ∀ part ∈ parts, part ≠ []
  /-- A part holds exactly the elements that are like any one of its elements, in order. -/
  whole : ∀ part ∈ parts, ∀ x ∈ part, part = xs.filter fun y => alike x y
  /-- Every element stands in a part. -/
  covers : ∀ x ∈ xs, ∃ part ∈ parts, x ∈ part
  /-- Elements of different parts are not alike. -/
  apart : parts.Pairwise fun part part' => ∀ x ∈ part, ∀ y ∈ part', ¬ alike x y
  /-- An earlier part first appears in the list before a later one. -/
  ordered : parts.Pairwise fun part part' => ∀ x ∈ part, ∀ y ∈ part',
    (xs.findIdx fun z => alike x z) < xs.findIdx fun z => alike y z

/-- The first place where one of two conditions holds, where they hold of the same elements. -/
theorem findIdx_congr {p q : α → Bool} {xs : List α} (h : ∀ x ∈ xs, p x = q x) :
    xs.findIdx p = xs.findIdx q := by
  induction xs with
  | nil => rfl
  | cons x xs ih =>
      obtain ⟨hx, hxs⟩ := List.forall_mem_cons.1 h
      rw [List.findIdx_cons, List.findIdx_cons, hx, ih hxs]

namespace IsPartition

variable {alike alike' : α → α → Prop} [DecidableRel alike] [DecidableRel alike'] {xs : List α}
  {parts : List (List α)} {part : List α} {x y : α}

/-- The elements of the parts are elements of the list. -/
theorem mem_of_mem (h : IsPartition alike xs parts) (hpart : part ∈ parts) (hx : x ∈ part) :
    x ∈ xs := by
  rw [h.whole part hpart x hx] at hx
  exact (List.mem_filter.1 hx).1

/-- Elements of one part are alike. -/
theorem alike_of_mem (h : IsPartition alike xs parts) (hpart : part ∈ parts) (hx : x ∈ part)
    (hy : y ∈ part) : alike x y := by
  rw [h.whole part hpart x hx] at hy
  exact of_decide_eq_true (List.mem_filter.1 hy).2

/-- Parts stay parts under a relation that says the same of the elements of the list. -/
theorem congr (h : IsPartition alike xs parts)
    (hsame : ∀ x ∈ xs, ∀ y ∈ xs, alike x y ↔ alike' x y) : IsPartition alike' xs parts where
  nonempty := h.nonempty
  whole := by
    intro part hpart x hx
    rw [h.whole part hpart x hx]
    refine List.filter_congr fun y hy => ?_
    exact decide_eq_decide.2 (hsame x (h.mem_of_mem hpart hx) y hy)
  covers := h.covers
  apart := by
    refine h.apart.imp_of_mem fun hpart hpart' happart x hx y hy halike => ?_
    have hxs := h.mem_of_mem hpart hx
    have hys := h.mem_of_mem hpart' hy
    exact happart x hx y hy ((hsame x hxs y hys).2 halike)
  ordered := by
    have hindex : ∀ x ∈ xs, (xs.findIdx fun z => alike x z) = xs.findIdx fun z => alike' x z :=
      fun x hx => findIdx_congr fun z hz => decide_eq_decide.2 (hsame x hx z hz)
    refine h.ordered.imp_of_mem fun hpart hpart' hordered x hx y hy => ?_
    rw [← hindex x (h.mem_of_mem hpart hx), ← hindex y (h.mem_of_mem hpart' hy)]
    exact hordered x hx y hy

/-- No part stands twice among the parts. -/
theorem nodup (h : IsPartition alike xs parts) : parts.Nodup := by
  refine h.ordered.imp_of_mem fun {part part'} hpart _ hordered => ?_
  rintro rfl
  obtain ⟨x, hx⟩ := List.exists_mem_of_ne_nil part (h.nonempty part hpart)
  exact Nat.lt_irrefl _ (hordered x hx x hx)

variable {parts' : List (List α)}

/-- A part by a relation is one of the parts, however the list is parted. -/
theorem mem_of_isPartition (h : IsPartition alike xs parts) (h' : IsPartition alike xs parts')
    (hpart : part ∈ parts) : part ∈ parts' := by
  obtain ⟨x, hx⟩ := List.exists_mem_of_ne_nil part (h.nonempty part hpart)
  obtain ⟨part', hpart', hx'⟩ := h'.covers x (h.mem_of_mem hpart hx)
  rw [h.whole part hpart x hx, ← h'.whole part' hpart' x hx']
  exact hpart'

/-- **A list falls into parts by a relation in one way only.** -/
theorem unique (h : IsPartition alike xs parts) (h' : IsPartition alike xs parts') :
    parts = parts' := by
  have hperm : parts.Perm parts' := (List.perm_ext_iff_of_nodup h.nodup h'.nodup).2 fun part =>
    ⟨h.mem_of_isPartition h', h'.mem_of_isPartition h⟩
  -- both are in the order of the first elements, which tells any two parts apart
  refine hperm.eq_of_pairwise (fun part part' hpart hpart' hlt hlt' => ?_) h.ordered h'.ordered
  obtain ⟨x, hx⟩ := List.exists_mem_of_ne_nil part (h.nonempty part hpart)
  obtain ⟨y, hy⟩ := List.exists_mem_of_ne_nil part' (h'.nonempty part' hpart')
  exact absurd (hlt x hx y hy) (Nat.lt_asymm (hlt' y hy x hx))

end IsPartition

/-! ## Parts by a key -/

variable [DecidableEq κ]

/-- The first occurrences of the elements of a list stand in the order of the list. -/
theorem pairwise_idxOf_eraseDups (ks : List κ) :
    ks.eraseDups.Pairwise fun k l => ks.idxOf k < ks.idxOf l := by
  induction ks using List.reverseRecOn with
  | nil => exact List.Pairwise.nil
  | append_singleton ks k ih =>
      have hold : ks.eraseDups.Pairwise fun l m => (ks ++ [k]).idxOf l < (ks ++ [k]).idxOf m := by
        refine ih.imp_of_mem fun hl hm hlt => ?_
        rw [List.idxOf_append, List.idxOf_append, if_pos (List.mem_eraseDups.1 hl),
          if_pos (List.mem_eraseDups.1 hm)]
        exact hlt
      rw [List.eraseDups_append]
      by_cases hk : k ∈ ks
      · -- an element that occurred before
        have hnone : [k].removeAll ks = [] := by simp [List.removeAll, hk]
        rw [hnone, List.eraseDups_nil, List.append_nil]
        exact hold
      · have hnew : [k].removeAll ks = [k] := by simp [List.removeAll, hk]
        rw [hnew, List.eraseDups_cons, List.filter_nil, List.eraseDups_nil]
        refine List.pairwise_append.2 ⟨hold, List.pairwise_singleton _ _, ?_⟩
        intro l hl m hm
        rw [List.mem_singleton.1 hm, List.idxOf_append, List.idxOf_append,
          if_pos (List.mem_eraseDups.1 hl), if_neg hk]
        exact Nat.lt_of_lt_of_le (List.idxOf_lt_length_of_mem (List.mem_eraseDups.1 hl))
          (Nat.le_add_left _ _)

/-- No element occurs twice among the first occurrences. -/
theorem nodup_eraseDups (ks : List κ) : ks.eraseDups.Nodup := by
  refine (pairwise_idxOf_eraseDups ks).imp fun hlt => ?_
  rintro rfl
  exact Nat.lt_irrefl _ hlt

/-- A key is first seen where the first element with this key stands. -/
theorem idxOf_map_key (key : α → κ) (xs : List α) (z : α) :
    (xs.map key).idxOf (key z) = xs.findIdx fun w => key z = key w := by
  rw [List.idxOf, List.findIdx_map]
  congr 1
  funext w
  show (key w == key z) = decide (key z = key w)
  rw [Bool.eq_iff_iff, beq_iff_eq, decide_eq_true_iff, eq_comm]

/-- **The parts by a key**: the elements of every key, the keys in the order of first sight. -/
theorem isPartition_of_key (key : α → κ) (xs : List α) :
    IsPartition (fun x y => key x = key y) xs
      (((xs.map key).eraseDups).map fun k => xs.filter (key · = k)) where
  nonempty := by
    intro part hpart
    obtain ⟨k, hk, rfl⟩ := List.mem_map.1 hpart
    obtain ⟨x, hx, rfl⟩ := List.mem_map.1 (List.mem_eraseDups.1 hk)
    exact List.ne_nil_of_mem (List.mem_filter.2 ⟨hx, decide_eq_true rfl⟩)
  whole := by
    intro part hpart x hx
    obtain ⟨k, -, rfl⟩ := List.mem_map.1 hpart
    have hkey : key x = k := of_decide_eq_true (List.mem_filter.1 hx).2
    refine List.filter_congr fun y _ => decide_eq_decide.2 ?_
    rw [hkey]
    exact eq_comm
  covers := by
    intro x hx
    refine ⟨xs.filter (key · = key x), List.mem_map.2 ⟨key x, ?_, rfl⟩, ?_⟩
    · exact List.mem_eraseDups.2 (List.mem_map_of_mem hx)
    · exact List.mem_filter.2 ⟨hx, decide_eq_true rfl⟩
  apart := by
    rw [List.pairwise_map]
    refine (pairwise_idxOf_eraseDups (xs.map key)).imp fun hlt x hx y hy hsame => ?_
    have hx := of_decide_eq_true (List.mem_filter.1 hx).2
    have hy := of_decide_eq_true (List.mem_filter.1 hy).2
    rw [← hx, ← hy, hsame] at hlt
    exact absurd hlt (Nat.lt_irrefl _)
  ordered := by
    rw [List.pairwise_map]
    refine (pairwise_idxOf_eraseDups (xs.map key)).imp fun hlt x hx y hy => ?_
    have hx := of_decide_eq_true (List.mem_filter.1 hx).2
    have hy := of_decide_eq_true (List.mem_filter.1 hy).2
    rw [← hx, ← hy, idxOf_map_key, idxOf_map_key] at hlt
    exact hlt

/-- **The parts by a key have as many elements as the list.** -/
theorem sum_length_of_key (key : α → κ) (xs : List α) :
    ((((xs.map key).eraseDups).map fun k => xs.filter (key · = k)).map List.length).sum =
      xs.length := by
  have hnodup := nodup_eraseDups (xs.map key)
  have hperm : (xs.map key).eraseDups.Perm (xs.map key).dedup :=
    (List.perm_ext_iff_of_nodup hnodup (List.nodup_dedup _)).2 fun k => by
      rw [List.mem_eraseDups, List.mem_dedup]
  -- the part of a key has as many elements as the key has places among the keys
  have hcount : ∀ k, (xs.filter (key · = k)).length = (xs.map key).count k := by
    intro k
    rw [List.count_eq_length_filter, List.filter_map, List.length_map]
    rfl
  calc ((((xs.map key).eraseDups).map fun k => xs.filter (key · = k)).map List.length).sum
      = (((xs.map key).eraseDups).map fun k => (xs.map key).count k).sum := by
        rw [List.map_map]
        exact congrArg List.sum (List.map_congr_left fun k _ => hcount k)
    _ = (((xs.map key).dedup).map fun k => (xs.map key).count k).sum :=
        (hperm.map _).sum_eq
    _ = (xs.map key).length := List.sum_map_count_dedup_eq_length _
    _ = xs.length := List.length_map _

end SolutionAlgebra.Grouping
