import Mathlib.Data.List.Forall2
import SolutionAlgebra.Proofs.Grouping.Key
import SolutionAlgebra.Proofs.Grouping.Partition
import SolutionAlgebra.Proofs.Operator.Combinators
import SolutionAlgebra.Proofs.Solution.Payload

/-! # Groups are the parts of the solutions

Grouping goes over the solutions once and gives each to the part of its key. The groups that come
out stand for the parts of the solutions by their keys, in the order of first sight; and where the
terms are IRIs and literals, the keys tell exactly the terms of different RDF texts apart.

* **`Grouping.Represents`** — what a solution that stands for a group says of the members.
* **`Grouping.groups_eq`** — the groups as the solutions that stand for the parts by key.
* **`Operator.drain_groupBy`** — what a grouping operator yields in all. -/

namespace SolutionAlgebra

namespace Grouping

variable {vs : List Variable} {rows members : List Solution}

/-- What a solution that stands for a group says of the members of the group. -/
structure Represents (vs : List Variable) (members : List Solution) (s : Solution) : Prop where
  /-- It binds what the first member binds of the grouping variables. -/
  first : ∀ v, s.get? v = if v ∈ vs then members.head?.bind (·.get? v) else none
  /-- These are the grouping variables that any one of the members binds. -/
  bound : ∀ row ∈ members, ∀ v, s.has v = true ↔ v ∈ vs ∧ row.has v = true
  /-- It carries the number of members and, of every variable, their terms in order. -/
  payload : ∃ group, s.group = some group ∧ group.rows = members.length ∧
    ∀ v, group.get? v = Group.collected? (members.filterMap (·.get? v))

/-! ## Parts by key -/

/-- The part of given members. -/
def partOf (vs : List Variable) (members : List Solution) : Part :=
  ⟨(members.head?.getD .empty).project vs, Group.ofRows members⟩

/-- The solution that stands for given members. -/
def standFor (vs : List Variable) (members : List Solution) : Solution :=
  (partOf vs members).bindings.withGroup (partOf vs members).group

/-- The solutions by their keys, in the order of first sight. -/
def membersByKey (vs : List Variable) (rows : List Solution) : List (List Solution) :=
  ((rows.map (key vs)).eraseDups).map fun k => rows.filter (key vs · = k)

/-- **Going over the solutions once gives the parts by key.** -/
theorem parts_eq (vs : List Variable) (rows : List Solution) :
    parts vs rows = ((rows.map (key vs)).eraseDups).map
      fun k => (k, partOf vs (rows.filter (key vs · = k))) := by
  show Entries.collect (key vs) (Part.add vs) [] rows = _
  refine Entries.collect_eq (partOf vs) (fun row => rfl) (fun members row hne => ?_) rows
  -- a further member changes what the group holds but not the first member
  have hhead : (members ++ [row]).head? = members.head? := by
    cases members with
    | nil => exact absurd rfl hne
    | cons first members => rfl
  rw [partOf, partOf, hhead, Group.ofRows_append]
  rfl

/-- The groups stand for the parts by key. -/
theorem groups_eq (h : ¬ (rows = [] ∧ vs = [])) :
    groups vs rows = (membersByKey vs rows).map (standFor vs) := by
  have hsome : (rows.isEmpty && vs.isEmpty) = false := by
    rw [← Bool.not_eq_true, Bool.and_eq_true, List.isEmpty_iff, List.isEmpty_iff]
    exact h
  rw [groups, hsome, if_neg Bool.false_ne_true, parts_eq, membersByKey, List.map_map, List.map_map]
  rfl

/-- The members of the groups: the solutions by key, and no members for the one group of no
solutions. -/
def membersOf (vs : List Variable) (rows : List Solution) : List (List Solution) :=
  if rows = [] ∧ vs = [] then [[]] else membersByKey vs rows

/-- Every group stands for its members. -/
theorem groups_eq_map (vs : List Variable) (rows : List Solution) :
    groups vs rows = (membersOf vs rows).map (standFor vs) := by
  unfold membersOf
  split
  · next h =>
    obtain ⟨rfl, rfl⟩ := h
    rfl
  · next h => exact groups_eq h

/-- What a solution that stands for members carries. -/
theorem group_standFor (vs : List Variable) (members : List Solution) :
    (standFor vs members).group = some (Group.ofRows members) := rfl

/-- A solution that stands for members that agree represents them. -/
theorem represents_standFor (hne : members ≠ [])
    (hagree : ∀ a ∈ members, ∀ b ∈ members, Agree vs a b) :
    Represents vs members (standFor vs members) := by
  obtain ⟨first, rest, rfl⟩ := List.exists_cons_of_ne_nil hne
  have hget : ∀ v, (standFor vs (first :: rest)).get? v = if v ∈ vs then first.get? v else none :=
    fun v => Solution.get?_project first vs v
  refine ⟨hget, fun row hrow v => ?_, Group.ofRows (first :: rest), rfl, ?_, ?_⟩
  · rw [Solution.has, Solution.has, hget]
    by_cases hv : v ∈ vs
    · -- the members agree on which grouping variables are bound
      have hsame := congrArg Option.isSome (hagree first List.mem_cons_self row hrow v hv)
      rw [Option.isSome_map, Option.isSome_map] at hsame
      rw [if_pos hv, hsame]
      exact (and_iff_right hv).symm
    · rw [if_neg hv]
      exact ⟨fun h => absurd h Bool.false_ne_true, fun h => absurd h.1 hv⟩
  · exact Group.rows_ofRows (first :: rest)
  · exact Group.get?_ofRows (first :: rest)

/-- The solutions by key are the parts by key. -/
theorem isPartition_membersByKey (vs : List Variable) (rows : List Solution) :
    IsPartition (fun a b => key vs a = key vs b) rows (membersByKey vs rows) :=
  isPartition_of_key (key vs) rows

/-- Where the grouping variables have data for terms, the solutions by key are the parts of
solutions that agree. -/
theorem isPartition_agree (hdata : ∀ row ∈ rows, ∀ v ∈ vs, ∀ t ∈ row.get? v, t.IsData) :
    IsPartition (Agree vs) rows (membersByKey vs rows) :=
  (isPartition_membersByKey vs rows).congr
    fun a ha b hb => key_eq_iff (hdata a ha) (hdata b hb)

/-- Where the grouping variables have data for terms, the groups represent the parts of solutions
that agree. -/
theorem exists_represents (hrows : rows ≠ [])
    (hdata : ∀ row ∈ rows, ∀ v ∈ vs, ∀ t ∈ row.get? v, t.IsData) :
    ∃ parts, IsPartition (Agree vs) rows parts ∧
      List.Forall₂ (Represents vs) parts (groups vs rows) := by
  have hpartition := isPartition_agree hdata
  refine ⟨membersByKey vs rows, hpartition, ?_⟩
  rw [groups_eq fun h => hrows h.1, List.forall₂_map_right_iff, List.forall₂_same]
  intro members hmembers
  refine represents_standFor (hpartition.nonempty members hmembers) fun a ha b hb => ?_
  exact hpartition.alike_of_mem hmembers ha hb

end Grouping

/-! ## Grouping operators -/

namespace Operator

open Grouping

/-- **A grouping operator yields the groups of the solutions of its input**: one for each part of
solutions that agree on the grouping variables, in the order in which the parts first appear, and
each represents the members of its part. Without solutions there is an empty group only if there
are no grouping variables. -/
theorem drain_groupBy (input : Operator) (vs : List Variable) {rows : List Solution}
    {last : input.State} (hinput : drain input input.start = .rows rows last)
    (hdata : ∀ row ∈ rows, ∀ v ∈ vs, ∀ t ∈ row.get? v, t.IsData) :
    ∃ found last', drain (input.groupBy vs) (input.groupBy vs).start = .rows found last' ∧
      (rows ≠ [] → ∃ parts, IsPartition (Agree vs) rows parts ∧
        List.Forall₂ (Represents vs) parts found) ∧
      (rows = [] → found = if vs = [] then [Solution.empty.withGroup {}] else []) := by
  have hevents : (input.groupBy vs).events (input.groupBy vs).start =
      (groups vs rows).map .ok := by
    rw [← groupEvents_rows, ← (drain_rows hinput).1]
    exact events_groupBy input vs input.start
  obtain ⟨last', hdrain, -⟩ := drain_of_events hevents
  refine ⟨groups vs rows, last', hdrain, fun hrows => exists_represents hrows hdata, ?_⟩
  rintro rfl
  by_cases hvs : vs = []
  · rw [hvs, if_pos rfl]
    rfl
  · rw [groups_eq fun h => hvs h.2, if_neg hvs]
    rfl

/-- Solutions whose terms hold the mark and quotation marks, or are an IRI, or missing. -/
def markedRows : List Solution :=
  [.ofList [(⟨"x"⟩, .literal (.plain "a\"\x1f")), (⟨"y"⟩, .literal (.plain "b"))],
    .ofList [(⟨"x"⟩, .iri ⟨"http://e/a"⟩)], .ofList [(⟨"y"⟩, .literal (.plain "\x1f\""))]]

/-- The groups of solutions whose terms hold the mark. -/
theorem drain_groupBy_markedRows :
    ∃ found last', drain ((values markedRows).groupBy [⟨"x"⟩, ⟨"y"⟩]) (markedRows, none) =
        .rows found last' ∧
      ∃ parts, IsPartition (Agree [⟨"x"⟩, ⟨"y"⟩]) markedRows parts ∧
        List.Forall₂ (Represents [⟨"x"⟩, ⟨"y"⟩]) parts found := by
  have hplain : ∀ {lexical : String} {t : Term}, some (.literal (.plain lexical)) = some t →
      t.IsData := by
    rintro lexical t ht
    cases ht
    exact (Literal.Formed.plain lexical).sound
  have hiri : ∀ {t : Term}, some (.iri ⟨"http://e/a"⟩) = some t → t.IsData := by
    rintro t ht
    cases ht
    show Iri.Accepted ⟨"http://e/a"⟩
    decide +kernel
  have hdata : ∀ row ∈ markedRows, ∀ v ∈ [⟨"x"⟩, ⟨"y"⟩], ∀ t ∈ row.get? v, t.IsData := by
    intro row hrow v hv t ht
    simp only [markedRows, List.mem_cons, List.not_mem_nil, or_false] at hrow hv
    rcases hrow with rfl | rfl | rfl <;> rcases hv with rfl | rfl
    · exact hplain ht
    · exact hplain ht
    · exact hiri ht
    · exact nomatch ht
    · exact nomatch ht
    · exact hplain ht
  obtain ⟨last, hinput, -⟩ := drain_of_events (events_values markedRows markedRows)
  obtain ⟨found, last', hdrain, hparts, -⟩ :=
    drain_groupBy (values markedRows) [⟨"x"⟩, ⟨"y"⟩] hinput hdata
  exact ⟨found, last', hdrain, hparts (List.cons_ne_nil _ _)⟩

end Operator

end SolutionAlgebra
