import Mathlib.Data.List.Forall2
import Mathlib.Data.List.GetD
import SolutionAlgebra.Proofs.Solution.Algebra

/-! # The history of solutions

Solutions come about one after the other: of given pairs, out of solutions that are there already,
or in place, where a solution takes a further pair or a group. An account of a solution tells which
pairs were inserted into it, one after the other, and its group. Accounts are kept along with the
solutions, without a look at them, and every solution agrees with its account whatever is done: its
variables stand in the order in which they were first inserted, each with the term that was inserted
last, and none stands there twice. Making a solution out of others changes none of these.

* **`Solution.Action.perform`**, **`Solution.Action.note`** — what an action does to solutions, and
  to accounts.
* **`Solution.foldl_perform_eq_map`** — the solutions are those that the accounts tell of.
* **`Solution.getElem?_foldl_perform`** — only what is changed in place becomes another.
* **`Solution.shelf_keeps_book`** — what holds of all solutions that come about. -/

namespace SolutionAlgebra.Solution

/-! ## Actions -/

/-- How a new solution is made out of a solution, and out of a second one, which is named by its
place. -/
inductive Derivation where
  /-- One more variable is bound. -/
  | extend (v : Variable) (t : Term)
  /-- The bindings of both. -/
  | union (other : Nat)
  /-- The bindings that the second has with an equal term. -/
  | intersection (other : Nat)
  /-- The bindings whose variables the second leaves unbound. -/
  | difference (other : Nat)
  /-- The bindings that satisfy a condition. -/
  | filter (keep : Variable → Term → Bool)
  /-- Every term changed by a function. -/
  | map (f : Variable → Term → Term)
  /-- The bindings of given variables. -/
  | project (vs : List Variable)

/-- What is done to a list of solutions. New solutions join at the end. -/
inductive Action where
  /-- A new solution is made of given pairs. -/
  | collect (pairs : List (Variable × Term))
  /-- A new solution is made out of the one at a place. -/
  | derive (place : Nat) (how : Derivation)
  /-- The solution at a place takes a further pair. -/
  | bind (place : Nat) (v : Variable) (t : Term)
  /-- The solution at a place takes a group. -/
  | withGroup (place : Nat) (group : Group)

/-- The new solution. Where no solution stands at a place, the empty one is taken for it. -/
def Derivation.perform (shelf : List Solution) (s : Solution) : Derivation → Solution
  | extend v t => s.bind v t
  | union other => s.union (shelf.getD other .empty)
  | intersection other => s.intersection (shelf.getD other .empty)
  | difference other => s.difference (shelf.getD other .empty)
  | filter keep => s.filter keep
  | map f => s.map f
  | project vs => s.project vs

/-- Whether only the bindings of given variables are taken. -/
def Derivation.isProjection : Derivation → Bool
  | project _ => true
  | _ => false

/-- The solutions after an action. -/
def Action.perform (shelf : List Solution) : Action → List Solution
  | collect pairs => shelf ++ [ofList pairs]
  | derive place how => shelf ++ [how.perform shelf (shelf.getD place .empty)]
  | bind place v t => shelf.modify place fun s => s.bind v t
  | withGroup place group => shelf.modify place fun s => s.withGroup group

/-- The place at which an action changes a solution. -/
def Action.altered? : Action → Option Nat
  | bind place _ _ => some place
  | withGroup place _ => some place
  | _ => none

/-! ## Accounts -/

/-- What is known of a solution from how it came about. -/
structure Account where
  /-- The pairs that were inserted, one after the other. -/
  inserted : List (Variable × Term) := []
  /-- The group that it stands for. -/
  group : Option Group := none

namespace Account

/-- The term that a variable was last inserted with. -/
def last? (a : Account) (v : Variable) : Option Term := a.inserted.reverse.lookup v

/-- What is left of the pairs: every variable where it came first, with the term that came last. -/
def pairs (a : Account) : List (Variable × Term) := Entries.settle a.inserted

/-- The solution that an account tells of. -/
def solution (a : Account) : Solution := { ofList a.inserted with group := a.group }

/-- The entries of the solution are those of the account. -/
theorem entries_solution (a : Account) : a.solution.entries = a.pairs :=
  Entries.ofList_eq_settle a.inserted

/-- The solution answers what was inserted last. -/
theorem get?_solution (a : Account) (v : Variable) : a.solution.get? v = a.last? v :=
  Entries.lookup_ofList a.inserted v

/-- The solution has the variables that were inserted, each once and in the order of first
insertion. -/
theorem domain_solution (a : Account) :
    a.solution.domain = (a.inserted.map Prod.fst).eraseDups :=
  Entries.keys_ofList a.inserted

end Account

/-- The account of the new solution. What is filtered or changed is inserted anew. -/
def Derivation.note (book : List Account) (a : Account) : Derivation → Account
  | extend v t => { a with inserted := a.inserted ++ [(v, t)] }
  | union other => { a with inserted := a.inserted ++ (book.getD other {}).pairs }
  | intersection other =>
      { a with
        inserted := a.pairs.filter fun (v, t) =>
          ((book.getD other {}).last? v).any fun u => u.equal t }
  | difference other =>
      { a with inserted := a.pairs.filter fun (v, _) => ((book.getD other {}).last? v).isNone }
  | filter keep => { a with inserted := a.pairs.filter fun (v, t) => keep v t }
  | map f => { a with inserted := a.pairs.map fun (v, t) => (v, f v t) }
  | project vs => { inserted := vs.filterMap fun v => (a.last? v).map fun t => (v, t) }

/-- The accounts after an action. -/
def Action.note (book : List Account) : Action → List Account
  | collect pairs => book ++ [{ inserted := pairs }]
  | derive place how => book ++ [how.note book (book.getD place {})]
  | bind place v t => book.modify place fun a => { a with inserted := a.inserted ++ [(v, t)] }
  | withGroup place group => book.modify place fun a => { a with group := some group }

/-! ## Solutions agree with their accounts -/

/-- One more pair is inserted at the end. -/
theorem solution_extend (a : Account) (v : Variable) (t : Term) :
    Account.solution { a with inserted := a.inserted ++ [(v, t)] } = a.solution.bind v t :=
  eq_of_entries (Entries.ofList_append a.inserted [(v, t)]) rfl

/-- A union inserts the pairs of the second solution. -/
theorem solution_union (a b : Account) :
    Account.solution { a with inserted := a.inserted ++ b.pairs } =
      a.solution.union b.solution := by
  refine eq_of_entries ?_ (group_union a.solution b.solution).symm
  rw [entries_union, Account.entries_solution b]
  exact Entries.ofList_append a.inserted b.pairs

/-- Bindings that are kept are inserted as they are. -/
theorem solution_filter (a : Account) (keep : Variable → Term → Bool) :
    Account.solution { a with inserted := a.pairs.filter fun (v, t) => keep v t } =
      a.solution.filter keep := by
  have hentries : a.pairs.filter (fun (v, t) => keep v t) = (a.solution.filter keep).entries := by
    rw [← Account.entries_solution]
    rfl
  refine eq_of_entries ?_ rfl
  rw [hentries]
  exact Entries.ofList_eq_self (a.solution.filter keep).nodup

/-- Bindings that are changed are inserted in their order. -/
theorem solution_map (a : Account) (f : Variable → Term → Term) :
    Account.solution { a with inserted := a.pairs.map fun (v, t) => (v, f v t) } =
      a.solution.map f := by
  have hentries : a.pairs.map (fun (v, t) => (v, f v t)) = (a.solution.map f).entries := by
    rw [← Account.entries_solution]
    rfl
  refine eq_of_entries ?_ rfl
  rw [hentries]
  exact Entries.ofList_eq_self (a.solution.map f).nodup

/-- **A new solution is the one that its account tells of.** -/
theorem Derivation.solution_note (book : List Account) (a : Account) (how : Derivation) :
    (how.note book a).solution = how.perform (book.map Account.solution) a.solution := by
  have hother : ∀ other, (book.map Account.solution).getD other .empty =
      (book.getD other {}).solution := fun other => List.getD_map book {} Account.solution
  cases how with
  | extend v t => exact solution_extend a v t
  | union other =>
      rw [perform, hother]
      exact solution_union a _
  | intersection other =>
      rw [perform, hother, Solution.intersection]
      simp only [Account.get?_solution]
      exact solution_filter a fun v t =>
        ((book.getD other {}).last? v).any fun u => u.equal t
  | difference other =>
      rw [perform, hother, Solution.difference]
      simp only [has, Account.get?_solution, Option.not_isSome]
      exact solution_filter a fun v _ => ((book.getD other {}).last? v).isNone
  | filter keep => exact solution_filter a keep
  | map f => exact solution_map a f
  | project vs =>
      rw [perform, Solution.project]
      simp only [Account.get?_solution]
      rfl

/-- A change in place, before or after a function is applied everywhere. -/
theorem map_modify {α β : Type} {f : α → β} {change : α → α} {change' : β → β}
    (h : ∀ a, f (change a) = change' (f a)) (as : List α) (place : Nat) :
    (as.modify place change).map f = (as.map f).modify place change' := by
  refine List.ext_getElem? fun i => ?_
  rw [List.getElem?_map, List.getElem?_modify, List.getElem?_modify, List.getElem?_map]
  cases as[i]? with
  | none => rfl
  | some a =>
      by_cases hi : place = i
      · simp [hi, h]
      · simp [hi]

/-- **After an action the solutions are those that the accounts tell of**, if they were before. -/
theorem Action.map_note (book : List Account) (action : Action) :
    (action.note book).map Account.solution = action.perform (book.map Account.solution) := by
  cases action with
  | collect pairs => exact List.map_append
  | derive place how =>
      have hplace : (book.map Account.solution).getD place .empty =
          (book.getD place {}).solution := List.getD_map book {} Account.solution
      rw [note, perform, List.map_append, hplace, ← Derivation.solution_note]
      rfl
  | bind place v t => exact map_modify (fun a => solution_extend a v t) book place
  | withGroup place group =>
      have hgroup : ∀ a : Account,
          Account.solution { a with group := some group } = a.solution.withGroup group :=
        fun _ => rfl
      exact map_modify hgroup book place

/-- **The solutions are those that the accounts tell of**, whatever is done. -/
theorem foldl_perform_eq_map (actions : List Action) (book : List Account) :
    actions.foldl Action.perform (book.map Account.solution) =
      (actions.foldl Action.note book).map Account.solution :=
  List.foldl_hom (List.map Account.solution) fun book action => (Action.map_note book action).symm

/-! ## What stays as it is -/

/-- An action leaves what it does not change in place. -/
theorem Action.getElem?_perform {shelf : List Solution} {action : Action} {place : Nat}
    (hplace : place < shelf.length) (h : action.altered? ≠ some place) :
    (action.perform shelf)[place]? = shelf[place]? := by
  cases action with
  | collect pairs => exact List.getElem?_append_left hplace
  | derive other how => exact List.getElem?_append_left hplace
  | bind other v t => exact List.getElem?_modify_ne _ _ fun e => h (congrArg some e)
  | withGroup other group => exact List.getElem?_modify_ne _ _ fun e => h (congrArg some e)

/-- No action takes a solution away. -/
theorem Action.length_le_perform (shelf : List Solution) (action : Action) :
    shelf.length ≤ (action.perform shelf).length := by
  cases action <;> simp [perform]

/-- **Only what is changed in place becomes another solution.** -/
theorem getElem?_foldl_perform {shelf : List Solution} {actions : List Action} {place : Nat}
    (hplace : place < shelf.length) (h : ∀ action ∈ actions, action.altered? ≠ some place) :
    (actions.foldl Action.perform shelf)[place]? = shelf[place]? := by
  induction actions generalizing shelf with
  | nil => rfl
  | cons action actions ih =>
      rw [List.forall_mem_cons] at h
      rw [List.foldl_cons, ih (hplace.trans_le (action.length_le_perform shelf)) h.2,
        Action.getElem?_perform hplace h.1]

/-- **Only a projection drops the group.** -/
theorem Derivation.group_perform (shelf : List Solution) (s : Solution) (how : Derivation) :
    (how.perform shelf s).group = if how.isProjection then none else s.group := by
  cases how with
  | union other => exact group_union s _
  | _ => rfl

/-! ## Every solution that comes about -/

/-- That all that can be seen of a solution is one list of pairs, in which no variable occurs
twice. -/
structure Shows (s : Solution) (pairs : List (Variable × Term)) : Prop where
  nodup : (pairs.map Prod.fst).Nodup
  entries : s.entries = pairs
  domain : s.domain = pairs.map Prod.fst
  terms : s.terms = pairs.map Prod.snd
  size : s.size = pairs.length
  get? : ∀ v t, s.get? v = some t ↔ (v, t) ∈ pairs
  has : ∀ v, s.has v = true ↔ v ∈ pairs.map Prod.fst
  getByName? : ∀ name t, s.getByName? name = some t ↔ ((⟨name⟩ : Variable), t) ∈ pairs

/-- Every solution shows its entries. -/
theorem shows_entries (s : Solution) : s.Shows s.entries where
  nodup := s.nodup
  entries := rfl
  domain := rfl
  terms := rfl
  size := rfl
  get? := fun _ _ => get?_eq_some_iff
  has := fun _ => has_iff
  getByName? := fun name _ => by rw [getByName?_eq_get?, get?_eq_some_iff]

/-- That a solution shows what its account tells: its variables in the order in which they were
first inserted, each with the term that was last inserted, and the group. -/
structure Keeps (s : Solution) (a : Account) : Prop where
  pairs : s.Shows a.pairs
  order : s.domain = (a.inserted.map Prod.fst).eraseDups
  term : ∀ v, s.get? v = a.last? v
  group : s.group = a.group

/-- A solution shows what the account tells that it is made from. -/
theorem keeps_solution (a : Account) : a.solution.Keeps a where
  pairs := a.entries_solution ▸ shows_entries a.solution
  order := a.domain_solution
  term := a.get?_solution
  group := rfl

/-- The solutions that come about by actions. -/
def shelf (actions : List Action) : List Solution := actions.foldl Action.perform []

/-- The accounts of these solutions. -/
def book (actions : List Action) : List Account := actions.foldl Action.note []

/-- **Whatever is done, every solution keeps to its account**, and it stays as it is unless it is
changed in place, also where others are made out of it. A solution that is made out of another has
the group of that one, unless it is a projection. -/
theorem shelf_keeps_book (actions : List Action) :
    List.Forall₂ Keeps (shelf actions) (book actions) ∧
    (∀ (later : List Action) (place : Nat), place < (shelf actions).length →
      (∀ action ∈ later, action.altered? ≠ some place) →
      (shelf (actions ++ later))[place]? = (shelf actions)[place]?) ∧
    ∀ (s : Solution) (how : Derivation),
      (how.perform (shelf actions) s).group = if how.isProjection then none else s.group := by
  have hshelf : shelf actions = (book actions).map Account.solution :=
    foldl_perform_eq_map actions []
  refine ⟨?_, fun later place hplace h => ?_, Derivation.group_perform (shelf actions)⟩
  · rw [hshelf, List.forall₂_map_left_iff]
    exact List.forall₂_same.2 fun a _ => keeps_solution a
  · rw [shelf, List.foldl_append]
    exact getElem?_foldl_perform hplace h

/-- Pairs with a repeated variable, a variable that is bound again, a union, and the projection of
a group: the variables stay where they came first, and the union does not follow when one of the
solutions that it is made of is changed afterwards. -/
theorem shelf_keeps_book_rebound :
    let x : Variable := ⟨"x"⟩
    let y : Variable := ⟨"y"⟩
    let z : Variable := ⟨"z"⟩
    let label : String → Term := fun name => .var ⟨name⟩
    let actions : List Action :=
      [.collect [(x, label "_:a"), (y, label "_:b"), (x, label "_:c")], .bind 0 y (label "_:d"),
        .collect [(z, label "_:e"), (y, label "_:f")], .derive 0 (.union 1), .withGroup 2 {},
        .derive 2 (.project [z, ⟨"w"⟩, x, z])]
    let later : List Action := [.bind 0 z (label "_:g"), .derive 2 (.difference 1)]
    (shelf actions).map entries =
      [[(x, label "_:c"), (y, label "_:d")], [(z, label "_:e"), (y, label "_:f")],
        [(x, label "_:c"), (y, label "_:f"), (z, label "_:e")],
        [(z, label "_:e"), (x, label "_:c")]] ∧
    List.Forall₂ Keeps (shelf actions) (book actions) ∧
    2 < (shelf actions).length ∧ (∀ action ∈ later, action.altered? ≠ some 2) ∧
    (shelf (actions ++ later))[2]? = (shelf actions)[2]? ∧
    (shelf (actions ++ later))[0]? ≠ (shelf actions)[0]? ∧
    (shelf actions).map group = [none, none, some {}, none] := by
  intro x y z label actions later
  have hplace : 2 < (shelf actions).length := by decide +kernel
  have hlater : ∀ action ∈ later, action.altered? ≠ some 2 := by
    rw [List.forall_mem_cons, List.forall_mem_singleton]
    decide +kernel
  obtain ⟨hkeeps, hstays, -⟩ := shelf_keeps_book actions
  exact ⟨by decide +kernel, hkeeps, hplace, hlater, hstays later 2 hplace hlater,
    by decide +kernel, by decide +kernel⟩

end SolutionAlgebra.Solution
