import SolutionAlgebra.Proofs.Grouping.Groups
import SolutionAlgebra.Proofs.Plan.Events
import SolutionAlgebra.Proofs.Solution.Algebra

/-! # What a plan denotes

What a plan denotes is said without the functions that run it: an extension by what the solution
answers for its variables afterwards, a grouping by the parts into which the solutions fall and by
what each group says of its members. This is a relation between plans and lists of events, but one
that leaves no choice: every plan denotes exactly one list.

Collecting the plan, in batches of any size for which the memory has room, gives the outcome of this
list. Without room for a batch there is no answer at all, not even where no solution would have been
put into it.

* **`Plan.Denotes`** — the relation, one rule for each kind of plan.
* **`Grouping.GroupsOf`** — the groups of some solutions.
* **`Plan.denotes_iff`** — a plan denotes its events and no other list.
* **`Plan.solutionsIn_eq_outcome`** — what collecting a plan gives.
* **`Plan.solutionsIn_eq_none`** — the sizes of batches for which no memory has room. -/

namespace SolutionAlgebra

/-! ## One solution from one -/

/-- That a solution binds a variable to a term and is another solution otherwise. -/
structure Solution.Binds (v : Variable) (t : Term) (row later : Solution) : Prop where
  /-- The variable has the term. -/
  self : later.get? v = some t
  /-- All other variables have what they had. -/
  others : ∀ w, w ≠ v → later.get? w = row.get? w
  /-- The variable comes after those that were bound. -/
  domain : later.domain = row.domain ++ [v]
  /-- The group is the same. -/
  group : later.group = row.group

/-- A solution in which a further variable is bound is the solution otherwise. -/
theorem Solution.binds_iff {v : Variable} {t : Term} {row later : Solution}
    (h : row.has v = false) : row.Binds v t later ↔ later = row.bind v t := by
  have hfresh : v ∉ row.domain := fun hmem => Bool.eq_false_iff.1 h (has_iff.2 hmem)
  have hdomain : (row.bind v t).domain = row.domain ++ [v] := by
    exact (Entries.keys_set v t row.entries).trans (if_neg hfresh)
  constructor
  · intro hbinds
    refine ext (hbinds.domain.trans hdomain.symm) (fun w => ?_) hbinds.group
    rw [get?_bind]
    split
    · next hw => rw [hw, hbinds.self]
    · next hw => exact hbinds.others w hw
  · rintro rfl
    refine ⟨?_, fun w hw => ?_, hdomain, group_bind row v t⟩
    · rw [get?_bind, if_pos rfl]
    · rw [get?_bind, if_neg hw]

/-- What an extension makes of a solution. -/
inductive Plan.ExtendsTo (ambient : Ambient) (v : Variable) (e : Compiled) (strict : Bool)
    (row : Solution) : Event → Prop where
  /-- A variable that is bound already is a fault. -/
  | alreadyBound (h : row.has v = true) :
      ExtendsTo ambient v e strict row (.error (.alreadyBound v))
  /-- The variable is bound to the term of the expression. -/
  | bound {t : Term} {later : Solution} (h : row.has v = false)
      (hvalue : e.evaluateTerm ambient row = .ok (some t)) (hbinds : row.Binds v t later) :
      ExtendsTo ambient v e strict row (.ok later)
  /-- An expression without a term leaves the solution as it is. -/
  | unbound (h : row.has v = false) (hvalue : e.evaluateTerm ambient row = .ok none) :
      ExtendsTo ambient v e strict row (.ok row)
  /-- In strict mode a fault of the expression is one of the extension. -/
  | strict {fault : EvaluationFault} (h : row.has v = false)
      (hvalue : e.evaluateTerm ambient row = .error fault) (hstrict : strict = true) :
      ExtendsTo ambient v e strict row (.error (.evaluation fault))
  /-- Else a fault of the expression leaves the solution as it is. -/
  | lenient {fault : EvaluationFault} (h : row.has v = false)
      (hvalue : e.evaluateTerm ambient row = .error fault) (hstrict : strict = false) :
      ExtendsTo ambient v e strict row (.ok row)

section

variable {ambient : Ambient} {v : Variable} {e : Compiled} {strict : Bool} {row : Solution}
  {event : Event}

/-- The event that an extension makes of a solution is the only one that comes of it. -/
theorem Plan.ExtendsTo.extendRow_eq (h : ExtendsTo ambient v e strict row event) :
    extendRow ambient v e strict row = [event] := by
  rw [extendRow]
  cases h with
  | alreadyBound h => rw [if_pos h]
  | bound h hvalue hbinds =>
      rw [if_neg (Bool.eq_false_iff.1 h), hvalue, (Solution.binds_iff h).1 hbinds]
  | unbound h hvalue => rw [if_neg (Bool.eq_false_iff.1 h), hvalue]
  | strict h hvalue hstrict =>
      rw [if_neg (Bool.eq_false_iff.1 h), hvalue]
      exact if_pos hstrict
  | lenient h hvalue hstrict =>
      rw [if_neg (Bool.eq_false_iff.1 h), hvalue]
      exact if_neg (Bool.eq_false_iff.1 hstrict)

/-- Something comes of every solution by an extension. -/
theorem Plan.exists_extendsTo (ambient : Ambient) (v : Variable) (e : Compiled) (strict : Bool)
    (row : Solution) : ∃ event, ExtendsTo ambient v e strict row event := by
  cases hbound : row.has v with
  | true => exact ⟨_, .alreadyBound hbound⟩
  | false =>
      cases hvalue : e.evaluateTerm ambient row with
      | error fault =>
          -- only here the mode decides
          cases hstrict : strict with
          | true => exact ⟨_, .strict hbound hvalue rfl⟩
          | false => exact ⟨_, .lenient hbound hvalue rfl⟩
      | ok found =>
          cases found with
          | none => exact ⟨_, .unbound hbound hvalue⟩
          | some t => exact ⟨_, .bound hbound hvalue ((Solution.binds_iff hbound).2 rfl)⟩

/-- An extension makes one event of a solution. -/
theorem Plan.extendsTo_iff :
    ExtendsTo ambient v e strict row event ↔ extendRow ambient v e strict row = [event] := by
  refine ⟨fun h => h.extendRow_eq, fun h => ?_⟩
  obtain ⟨other, hother⟩ := exists_extendsTo ambient v e strict row
  cases hother.extendRow_eq.symm.trans h
  exact hother

end

/-- That an event comes of another: a fault of itself, and a solution of one to which it is
related. -/
inductive ComesOf (r : Solution → Event → Prop) : Event → Event → Prop where
  /-- A solution. -/
  | row {row : Solution} {event : Event} (h : r row event) : ComesOf r (.ok row) event
  /-- A fault passes. -/
  | fault (e : ExecutionFault) : ComesOf r (.error e) (.error e)

section

variable {r : Solution → Event → Prop} {f : Solution → List Event}
  (hf : ∀ row event, r row event ↔ f row = [event]) (hone : ∀ row, ∃ event, f row = [event])

include hf hone

/-- One event comes of an event, if a function makes one of each solution. -/
theorem exists_comesOf_iff (event : Event) :
    ∃ found, onRow f event = [found] ∧ ∀ other, ComesOf r event other ↔ other = found := by
  cases event with
  | error e =>
      refine ⟨.error e, rfl, fun other => ⟨fun h => ?_, ?_⟩⟩
      · cases h
        rfl
      · rintro rfl
        exact .fault e
  | ok row =>
      obtain ⟨found, hfound⟩ := hone row
      refine ⟨found, hfound, fun other => ⟨fun h => ?_, ?_⟩⟩
      · cases h with
        | row h =>
            have hsame := hfound.symm.trans ((hf row other).1 h)
            exact (List.cons.inj hsame).1.symm
      · rintro rfl
        exact .row ((hf row other).2 hfound)

/-- Events that come of others one by one. -/
theorem forall₂_comesOf_iff {events later : List Event} :
    List.Forall₂ (ComesOf r) events later ↔ later = events.flatMap (onRow f) := by
  induction events generalizing later with
  | nil => rw [List.forall₂_nil_left_iff, List.flatMap_nil]
  | cons event events ih =>
      obtain ⟨found, hfound, hcomes⟩ := exists_comesOf_iff hf hone event
      rw [List.forall₂_cons_left_iff, List.flatMap_cons, hfound, List.singleton_append]
      constructor
      · rintro ⟨other, rest, hother, hrest, rfl⟩
        rw [(hcomes other).1 hother, ih.1 hrest]
      · rintro rfl
        exact ⟨found, _, (hcomes found).2 rfl, ih.2 rfl, rfl⟩

end

/-! ## Groups -/

namespace Grouping

variable {vs : List Variable} {rows members found : List Solution} {s : Solution}

/-- The text by which a solution falls into a group: the RDF texts of the terms of the grouping
variables, or `UNBOUND`, with the character U+001F between them. -/
def groupText (vs : List Variable) (row : Solution) : List Char :=
  [mark].intercalate (vs.map fun v => match row.get? v with
    | some t => t.rdf.toList
    | none => ['U', 'N', 'B', 'O', 'U', 'N', 'D'])

/-- That two solutions fall into one group. Where the terms of the grouping variables are IRIs and
literals, it is those of one RDF text or none that do so (`key_eq_iff`); a variable in the place of
a term may have a mark in its name, which is then taken for one between two texts. -/
def Together (vs : List Variable) (a b : Solution) : Prop := groupText vs a = groupText vs b

instance (vs : List Variable) : DecidableRel (Together vs) :=
  fun _ _ => inferInstanceAs (Decidable (_ = _))

/-- What a solution says of the members of the group that it stands for. -/
structure StandsFor (vs : List Variable) (members : List Solution) (s : Solution) : Prop where
  /-- It binds what the first member binds of the grouping variables. -/
  first : ∀ v, s.get? v = if v ∈ vs then members.head?.bind (·.get? v) else none
  /-- These are in the order of the grouping variables. -/
  domain : s.domain = (vs.filter s.has).eraseDups
  /-- It carries the number of members and, of every variable, their terms in order; the variables
  are in the order of first sight. -/
  payload : ∃ group, s.group = some group ∧ group.rows = members.length ∧
    (∀ v, group.get? v = Group.collected? (members.filterMap (·.get? v))) ∧
    group.values.map Prod.fst = (members.flatMap Solution.domain).eraseDups

/-- The groups of some solutions by some variables. -/
structure GroupsOf (vs : List Variable) (rows found : List Solution) : Prop where
  /-- Without solutions and without variables there is one group, without members. -/
  whole : rows = [] → vs = [] → List.Forall₂ (StandsFor vs) [[]] found
  /-- Else there is a group for each part of solutions that fall together, in the order in which the
  parts first appear. -/
  parts : ¬ (rows = [] ∧ vs = []) → ∃ parts, IsPartition (Together vs) rows parts ∧
    List.Forall₂ (StandsFor vs) parts found
  /-- Where the grouping variables have IRIs and literals for terms, these are the parts of
  solutions that agree, and each group represents its members. -/
  agree : rows ≠ [] → (∀ row ∈ rows, ∀ v ∈ vs, ∀ t ∈ row.get? v, t.IsData) →
    ∃ parts, IsPartition (Agree vs) rows parts ∧ List.Forall₂ (Represents vs) parts found

/-- Solutions that fall together are those of one key. -/
theorem together_iff {a b : Solution} : Together vs a b ↔ key vs a = key vs b := by
  have hpart : ∀ row : Solution, groupText vs row =
      [mark].intercalate (vs.map fun v => partText (row.get? v)) := by
    intro row
    refine congrArg _ (List.map_congr_left fun v _ => ?_)
    cases row.get? v <;> rfl
  by_cases hvs : vs = []
  · subst hvs
    exact iff_of_true rfl rfl
  · rw [Together, hpart, hpart, ← toList_key hvs, ← toList_key hvs, String.toList_inj]

/-- Grouping makes a solution that stands for members. -/
theorem standsFor_standFor (vs : List Variable) (members : List Solution) :
    StandsFor vs members (standFor vs members) := by
  have hget : ∀ v, (standFor vs members).get? v =
      if v ∈ vs then members.head?.bind (·.get? v) else none := by
    intro v
    have hproject := Solution.get?_project (members.head?.getD .empty) vs v
    cases members <;> exact hproject
  have hdomain : (standFor vs members).domain =
      (vs.filter (standFor vs members).has).eraseDups := by
    refine (Solution.domain_project _ vs).trans (congrArg _ (List.filter_congr fun v hv => ?_))
    rw [Solution.has, Solution.has, hget, if_pos hv]
    cases members <;> rfl
  exact ⟨hget, hdomain, _, group_standFor vs members, Group.rows_ofRows members,
    Group.get?_ofRows members, Group.keys_ofRows members⟩

/-- Nothing is left open of a solution that stands for members. -/
theorem StandsFor.unique {s' : Solution} (h : StandsFor vs members s)
    (h' : StandsFor vs members s') : s = s' := by
  have hsame : ∀ v, s.get? v = s'.get? v := fun v => (h.first v).trans (h'.first v).symm
  have hdomain : s.domain = s'.domain := by
    rw [h.domain, h'.domain]
    refine congrArg _ (List.filter_congr fun v _ => ?_)
    rw [Solution.has, Solution.has, hsame]
  obtain ⟨group, hgroup, hrows, hterms, hkeys⟩ := h.payload
  obtain ⟨group', hgroup', hrows', hterms', hkeys'⟩ := h'.payload
  have hnodup : (group.values.map Prod.fst).Nodup := by
    rw [hkeys]
    exact nodup_eraseDups _
  have hpayload : group = group' := Group.ext (hkeys.trans hkeys'.symm) hnodup
    (fun v => (hterms v).trans (hterms' v).symm) (hrows.trans hrows'.symm)
  exact Solution.ext hdomain hsame (by rw [hgroup, hgroup', hpayload])

/-- The solution that stands for members is the one that grouping makes. -/
theorem standsFor_iff : StandsFor vs members s ↔ s = standFor vs members := by
  constructor
  · exact fun h => h.unique (standsFor_standFor vs members)
  · rintro rfl
    exact standsFor_standFor vs members

/-- Solutions that stand for parts one by one. -/
theorem forall₂_standsFor_iff {parts : List (List Solution)} :
    List.Forall₂ (StandsFor vs) parts found ↔ found = parts.map (standFor vs) := by
  induction parts generalizing found with
  | nil => rw [List.forall₂_nil_left_iff, List.map_nil]
  | cons members parts ih =>
      rw [List.forall₂_cons_left_iff, List.map_cons]
      constructor
      · rintro ⟨s, rest, hs, hrest, rfl⟩
        rw [standsFor_iff.1 hs, ih.1 hrest]
      · rintro rfl
        exact ⟨_, _, standsFor_iff.2 rfl, ih.2 rfl, rfl⟩

/-- **The groups of solutions** are what grouping gives and nothing else. -/
theorem groupsOf_iff : GroupsOf vs rows found ↔ found = groups vs rows := by
  have hpartition : IsPartition (Together vs) rows (membersByKey vs rows) :=
    (isPartition_membersByKey vs rows).congr fun a _ b _ => together_iff.symm
  constructor
  · intro h
    rw [groups_eq_map]
    unfold membersOf
    split
    · next hempty => exact forall₂_standsFor_iff.1 (h.whole hempty.1 hempty.2)
    · next hsome =>
      obtain ⟨parts, hparts, hfound⟩ := h.parts hsome
      -- there is only one way to fall into parts in this order
      rw [hparts.unique hpartition] at hfound
      exact forall₂_standsFor_iff.1 hfound
  · rintro rfl
    refine ⟨?_, fun hsome => ⟨_, hpartition, ?_⟩, exists_represents⟩
    · rintro rfl rfl
      exact forall₂_standsFor_iff.2 rfl
    · exact forall₂_standsFor_iff.2 (groups_eq hsome)

/-- What grouping makes of events: the groups of all solutions, or the fault before which there are
some, and then what it makes of the events after the fault. -/
inductive Grouped (vs : List Variable) : List Event → List Event → Prop where
  /-- All events are solutions. -/
  | ended {rows found : List Solution} (h : GroupsOf vs rows found) :
      Grouped vs (rows.map .ok) (found.map .ok)
  /-- There is a fault after some solutions, which are not grouped. -/
  | failed {rows : List Solution} {e : ExecutionFault} {events later : List Event}
      (h : Grouped vs events later) :
      Grouped vs (rows.map .ok ++ .error e :: events) (.error e :: later)

/-- Grouping makes one list of events of another. -/
theorem grouped_iff {events later : List Event} :
    Grouped vs events later ↔ later = groupEvents vs [] events := by
  constructor
  · intro h
    induction h with
    | ended h => rw [groupEvents_rows, groupsOf_iff.1 h]
    | failed _ ih => rw [groupEvents_rows_error, ih]
  · rintro rfl
    -- by induction on the events, with the solutions since the last fault put before them
    suffices h : ∀ seen, Grouped vs (seen.map .ok ++ events) (groupEvents vs seen events) from h []
    induction events with
    | nil =>
        intro seen
        rw [List.append_nil]
        exact .ended (groupsOf_iff.2 rfl)
    | cons event events ih =>
        intro seen
        cases event with
        | error e => exact .failed (ih [])
        | ok row =>
            have hrow := ih (seen ++ [row])
            rw [List.map_append, List.append_assoc] at hrow
            exact hrow

end Grouping

/-! ## Plans -/

namespace Plan

/-- The events that a plan denotes. -/
inductive Denotes (ambient : Ambient) : Plan → List Event → Prop where
  /-- Solutions at hand are the events. -/
  | values (rows : List Solution) : Denotes ambient (.values rows) (rows.map .ok)
  /-- The events of one plan come after those of the other. -/
  | union {left right : Plan} {events later : List Event} (hleft : Denotes ambient left events)
      (hright : Denotes ambient right later) :
      Denotes ambient (.union left right) (events ++ later)
  /-- Solutions stay where the predicate is true. -/
  | filter {input : Plan} {events : List Event} (h : Denotes ambient input events)
      (predicate : Compiled) (strict : Bool) :
      Denotes ambient (.filter input predicate strict)
        (events.flatMap (onRow (filterRow ambient predicate strict)))
  /-- Solutions are extended one by one. -/
  | extend {input : Plan} {events later : List Event} {v : Variable} {e : Compiled}
      {strict : Bool} (h : Denotes ambient input events)
      (hlater : List.Forall₂ (ComesOf (ExtendsTo ambient v e strict)) events later) :
      Denotes ambient (.extend input v e strict) later
  /-- Solutions are changed one by one. -/
  | map {input : Plan} {events : List Event} (h : Denotes ambient input events)
      (f : Solution → Except ExecutionFault Solution) :
      Denotes ambient (.map input f) (events.flatMap (onRow fun row => [f row]))
  /-- Each solution makes room for a list of them. -/
  | flatMap {input : Plan} {events : List Event} (h : Denotes ambient input events)
      (f : Solution → Except ExecutionFault (List Solution)) :
      Denotes ambient (.flatMap input f) (events.flatMap (onRow (Operator.multiplyEvents f)))
  /-- Solutions are grouped all together. -/
  | groupBy {input : Plan} {events later : List Event} {vs : List Variable}
      (h : Denotes ambient input events) (hlater : Grouping.Grouped vs events later) :
      Denotes ambient (.groupBy input vs) later

variable {ambient : Ambient}

/-- The events that come of extensions one by one. -/
theorem forall₂_extendsTo_iff {v : Variable} {e : Compiled} {strict : Bool}
    {events later : List Event} :
    List.Forall₂ (ComesOf (ExtendsTo ambient v e strict)) events later ↔
      later = events.flatMap (onRow (extendRow ambient v e strict)) := by
  have hrow : ∀ row event, ExtendsTo ambient v e strict row event ↔
      extendRow ambient v e strict row = [event] := fun row event => extendsTo_iff
  refine forall₂_comesOf_iff hrow fun row => ?_
  rw [← bindValue_eq_extendRow]
  exact ⟨_, rfl⟩

/-- **A plan denotes its events** and no other list. -/
theorem denotes_iff {p : Plan} {events : List Event} :
    p.Denotes ambient events ↔ events = p.events ambient := by
  constructor
  · intro h
    induction h with
    | values rows => rfl
    | union _ _ hleft hright => rw [Plan.events, hleft, hright]
    | filter _ predicate strict ih => rw [Plan.events, ih]
    | extend _ hlater ih => rw [Plan.events, ← ih, forall₂_extendsTo_iff.1 hlater]
    | map _ f ih => rw [Plan.events, ih]
    | flatMap _ f ih =>
        rw [Plan.events, ih]
        rfl
    | groupBy _ hlater ih => rw [Plan.events, ← ih, Grouping.grouped_iff.1 hlater]
  · -- a plan denotes its events by the rule of its constructor
    rintro rfl
    induction p with
    | values rows => exact .values rows
    | union left right hleft hright => exact .union hleft hright
    | filter input predicate strict ih => exact .filter ih predicate strict
    | extend input v e strict ih => exact .extend ih (forall₂_extendsTo_iff.2 rfl)
    | map input f ih => exact .map ih f
    | flatMap input f ih => exact .flatMap ih f
    | groupBy input vs ih => exact .groupBy ih (Grouping.grouped_iff.2 rfl)

/-- **Collecting a plan gives what the plan denotes.** A plan denotes one list of events. In batches
of any size for which the memory has room, collecting the plan gives the solutions of this list or,
if it holds a fault, the first one; without room for a batch it stops, whatever the list is. -/
theorem solutionsIn_eq_outcome (ambient : Ambient) (p : Plan) :
    ∃ events, (∀ other, p.Denotes ambient other ↔ other = events) ∧
      ∀ (memory : Memory) (size : Nat), p.solutionsIn memory ambient size =
        if memory.holds (max size 1) then some (outcome events) else none := by
  refine ⟨p.events ambient, fun other => denotes_iff, fun memory size => ?_⟩
  rw [solutionsIn, Operator.collectIn_eq, ← solutions, solutions_eq_outcome]

/-- **Batches of very many solutions have no room** in any memory, however few solutions the plan
has. -/
theorem solutionsIn_eq_none (memory : Memory) (ambient : Ambient) (p : Plan) {size : Nat}
    (h : 0x1000000000000000 ≤ size) : p.solutionsIn memory ambient size = none := by
  rw [solutionsIn, Operator.collectIn_eq, if_neg]
  intro hholds
  have hlt := Memory.lt_of_holds hholds
  omega

/-- The plan without a solution denotes no events, but it has no outcome in batches of 2 ^ 62
solutions. -/
theorem not_solutionsIn_eq_outcome : ¬ ∀ (memory : Memory) (ambient : Ambient) (size : Nat)
    (p : Plan) (events : List Event), p.Denotes ambient events →
      p.solutionsIn memory ambient size = some (outcome events) := by
  intro h
  have hcollect := h .addressable ⟨⟨0, 0, 0⟩, fun _ _ => 0⟩ 0x4000000000000000 (.values []) []
    (.values [])
  rw [solutionsIn_eq_none _ _ _ (by decide)] at hcollect
  cases hcollect

end Plan

end SolutionAlgebra
