import SolutionAlgebra.Proofs.Entries
import SolutionAlgebra.Solution

/-! # What a group collects

A group collects the terms of every variable from its members one by one, and counts the members.
In the end it holds for a variable the terms that the members bind to it, in the order of the
members.

* **`Group.get?_ofRows`**, **`Group.keys_ofRows`**, **`Group.rows_ofRows`** — what the group of
  given members holds.
* **`Solution.get?_project`**, **`Solution.domain_project`** — what is left of a solution under some
  variables. -/

namespace SolutionAlgebra

namespace Group

/-- The terms of a variable as a group holds them: none at all where there are none. -/
def collected? : List Term → Option (List Term)
  | [] => none
  | t :: ts => some (t :: ts)

/-- The terms that a group holds are those that it collected. -/
theorem getD_collected? (ts : List Term) : (collected? ts).getD [] = ts := by
  cases ts <;> rfl

/-- A further member appends its term of a variable, if it has one. -/
theorem get?_push (group : Group) (row : Solution) (v : Variable) :
    (group.push row).get? v = match row.get? v with
      | none => group.get? v
      | some t => some ((group.get? v).getD [] ++ [t]) := by
  have hvalues : (group.push row).values =
      Entries.collect Prod.fst (fun entry seen => seen.getD [] ++ [entry.2]) group.values
        row.entries := rfl
  rw [get?, hvalues,
    Entries.lookup_collect_entries (fun t seen => seen.getD [] ++ [t]) group.values row.nodup v,
    Solution.get?]
  cases row.entries.lookup v <;> rfl

/-- Further members append their terms of a variable. -/
theorem get?_foldl_push (group : Group) (rows : List Solution) (v : Variable) :
    (rows.foldl push group).get? v = match rows.filterMap (·.get? v) with
      | [] => group.get? v
      | t :: ts => some ((group.get? v).getD [] ++ t :: ts) := by
  induction rows generalizing group with
  | nil => rfl
  | cons row rows ih =>
      rw [List.foldl_cons, ih, get?_push, List.filterMap_cons]
      -- whether the first member binds the variable, and then whether a later one does
      cases row.get? v with
      | none => rfl
      | some t =>
          cases rows.filterMap (·.get? v) with
          | nil => rfl
          | cons u us =>
              show some (((group.get? v).getD [] ++ [t]) ++ u :: us) = _
              rw [List.append_assoc, List.singleton_append]

/-- **A group holds the terms that its members bind to a variable**, in their order. -/
theorem get?_ofRows (rows : List Solution) (v : Variable) :
    (ofRows rows).get? v = collected? (rows.filterMap (·.get? v)) := by
  rw [ofRows, get?_foldl_push]
  cases rows.filterMap (·.get? v) <;> rfl

/-- **A group counts its members.** -/
theorem rows_ofRows (rows : List Solution) : (ofRows rows).rows = rows.length := by
  have hcount : ∀ group : Group, (rows.foldl push group).rows = group.rows + rows.length := by
    induction rows with
    | nil => exact fun group => rfl
    | cons row rows ih =>
        intro group
        have hpush : (group.push row).rows = group.rows + 1 := rfl
        rw [List.foldl_cons, ih, List.length_cons, hpush]
        omega
  rw [ofRows, hcount, Nat.zero_add]

/-- **A group has the variables of its members**, in the order of first sight. -/
theorem keys_ofRows (rows : List Solution) :
    (ofRows rows).values.map Prod.fst = (rows.flatMap Solution.domain).eraseDups := by
  -- the members give their entries to the group as one list would
  have hvalues : ∀ group : Group, (rows.foldl push group).values =
      Entries.collect Prod.fst (fun entry seen => seen.getD [] ++ [entry.2]) group.values
        (rows.flatMap Solution.entries) := by
    induction rows with
    | nil => exact fun group => rfl
    | cons row rows ih =>
        intro group
        rw [List.foldl_cons, ih, List.flatMap_cons, Entries.collect_append]
        rfl
  rw [ofRows, hvalues, Entries.keys_collect, List.map_nil, List.nil_append,
    List.filter_eq_self.2 (by simp), List.map_flatMap]
  rfl

/-- Groups with the same variables, in the same order, the same terms of each and the same number of
members are the same, if no variable is there twice. -/
theorem ext {a b : Group} (hkeys : a.values.map Prod.fst = b.values.map Prod.fst)
    (hnodup : (a.values.map Prod.fst).Nodup) (hget : ∀ v, a.get? v = b.get? v)
    (hrows : a.rows = b.rows) : a = b := by
  have hvalues : a.values = b.values := Entries.ext hnodup hkeys hget
  cases a
  cases b
  cases hvalues
  cases hrows
  rfl

/-- One more member. -/
theorem ofRows_append (rows : List Solution) (row : Solution) :
    ofRows (rows ++ [row]) = (ofRows rows).push row := List.foldl_append

end Group

/-- The terms of given variables, each found under its variable. -/
theorem Solution.lookup_filterMap (s : Solution) (vs : List Variable) (v : Variable) :
    (vs.filterMap fun w => (s.get? w).map fun t => (w, t)).lookup v =
      if v ∈ vs then s.get? v else none := by
  induction vs with
  | nil => rfl
  | cons w vs ih =>
      rw [List.filterMap_cons]
      by_cases hv : v = w
      · -- the first occurrence of the variable decides, if it is bound; else none does
        subst hv
        rw [if_pos List.mem_cons_self]
        cases hget : s.get? v with
        | none =>
            rw [hget] at ih
            simp only [Option.map_none, ih, ite_self]
        | some t => exact List.lookup_cons_self
      · have hmem : v ∈ w :: vs ↔ v ∈ vs := by rw [List.mem_cons, or_iff_right hv]
        simp only [hmem]
        cases s.get? w with
        | none => exact ih
        | some t =>
            rw [Option.map_some]
            simp only [List.lookup_cons, beq_eq_false_iff_ne.2 hv]
            exact ih

/-- **A solution keeps its terms of given variables** and no others. -/
theorem Solution.get?_project (s : Solution) (vs : List Variable) (v : Variable) :
    (s.project vs).get? v = if v ∈ vs then s.get? v else none := by
  show (Entries.ofList (vs.filterMap fun w => (s.get? w).map fun t => (w, t))).lookup v = _
  rw [Entries.lookup_ofList, ← List.filterMap_reverse, Solution.lookup_filterMap]
  simp only [List.mem_reverse]

/-- A solution that keeps its terms of given variables binds those of them that it bound. -/
theorem Solution.domain_project (s : Solution) (vs : List Variable) :
    (s.project vs).domain = (vs.filter s.has).eraseDups := by
  show (Entries.ofList (vs.filterMap fun w => (s.get? w).map fun t => (w, t))).map Prod.fst = _
  rw [Entries.keys_ofList, List.map_filterMap]
  congr 1
  induction vs with
  | nil => rfl
  | cons v vs ih =>
      rw [List.filterMap_cons, List.filter_cons, Solution.has, ih]
      cases s.get? v <;> rfl

end SolutionAlgebra
