import SolutionAlgebra.Entries
import SolutionAlgebra.Term.Basic

/-! # Solutions

A solution binds variables to terms, in the order in which the variables were first bound. A
solution that stands for a group of others carries what the group collected: for every variable the
terms that the members bind to it, and the number of members. -/

namespace SolutionAlgebra

/-- What a group of solutions collected. -/
structure Group where
  /-- The terms of each variable in the order of the members, the variables in the order in which
  they were first seen. -/
  values : List (Variable × List Term) := []
  /-- The number of members. -/
  rows : Nat := 0
deriving DecidableEq

/-- A solution. No variable is bound twice. -/
structure Solution where
  /-- The bound variables with their terms. -/
  entries : List (Variable × Term) := []
  /-- What the group collected, if the solution stands for a group. -/
  group : Option Group := none
  /-- Every variable has one entry at most. -/
  nodup : (entries.map Prod.fst).Nodup := by simp
deriving DecidableEq

namespace Solution

/-- The solution that binds nothing. -/
def empty : Solution := {}

/-- The solution that binds given pairs, one after the other. -/
def ofList (pairs : List (Variable × Term)) : Solution where
  entries := Entries.ofList pairs
  nodup := Entries.nodup_keys_ofList pairs

/-- The term of a variable. -/
def get? (s : Solution) (v : Variable) : Option Term := s.entries.lookup v

/-- Whether a variable is bound. -/
def has (s : Solution) (v : Variable) : Bool := (s.get? v).isSome

/-- The term of the variable with a name. -/
def getByName? (s : Solution) (name : String) : Option Term :=
  (s.entries.find? fun (v, _) => v.name == name).map Prod.snd

/-- The bound variables. -/
def domain (s : Solution) : List Variable := s.entries.map Prod.fst

/-- The bound terms. -/
def terms (s : Solution) : List Term := s.entries.map Prod.snd

/-- The number of bound variables. -/
def size (s : Solution) : Nat := s.entries.length

/-- The solution in which a variable is bound to a term. -/
def bind (s : Solution) (v : Variable) (t : Term) : Solution :=
  { s with
    entries := Entries.set v t s.entries
    nodup := Entries.nodup_keys_set s.nodup v t }

/-- The empty solution binds nothing. -/
@[simp] theorem get?_empty (v : Variable) : empty.get? v = none := rfl

/-- A binding answers for its own variable and no other. -/
@[simp] theorem get?_bind (s : Solution) (v w : Variable) (t : Term) :
    (s.bind v t).get? w = if w = v then some t else s.get? w := by
  simp [bind, get?]

/-- A binding does not change the group. -/
@[simp] theorem group_bind (s : Solution) (v : Variable) (t : Term) :
    (s.bind v t).group = s.group := rfl

/-! ## Two solutions -/

/-- Whether the terms of every variable bound in both solutions are equal. -/
def isCompatible (a b : Solution) : Bool :=
  a.entries.all fun (v, t) => match b.get? v with
    | some u => u.equal t
    | none => true

/-- Whether two solutions bind the same variables to equal terms. -/
def equal (a b : Solution) : Bool :=
  a.size == b.size && a.domain.all b.has && a.isCompatible b

/-- The bindings that satisfy a condition. -/
def filter (s : Solution) (keep : Variable → Term → Bool) : Solution :=
  { s with
    entries := s.entries.filter fun (v, t) => keep v t
    nodup := s.nodup.sublist (List.filter_sublist.map Prod.fst) }

/-- The bindings of both solutions; those of the second prevail. -/
def union (a b : Solution) : Solution :=
  b.entries.foldl (fun s (v, t) => s.bind v t) a

/-- The bindings of the first solution that the second has with an equal term. -/
def intersection (a b : Solution) : Solution :=
  a.filter fun v t => (b.get? v).any fun u => u.equal t

/-- The bindings of the first solution whose variables the second leaves unbound. -/
def difference (a b : Solution) : Solution := a.filter fun v _ => !b.has v

/-! ## Changed solutions -/

/-- The solution with every term changed by a function. -/
def map (s : Solution) (f : Variable → Term → Term) : Solution :=
  { s with
    entries := s.entries.map fun (v, t) => (v, f v t)
    nodup := by simpa [Function.comp_def] using s.nodup }

/-- The bindings of given variables, in their order, without the group. -/
def project (s : Solution) (vs : List Variable) : Solution :=
  ofList (vs.filterMap fun v => (s.get? v).map fun t => (v, t))

/-- The solution as one that stands for a group. -/
def withGroup (s : Solution) (group : Group) : Solution := { s with group := some group }

/-- Whether the solution stands for a group. -/
def isGrouped (s : Solution) : Bool := s.group.isSome

/-! ## Text -/

/-- A binding as text. -/
def bindingText (v : Variable) (t : Term) : String := v.text ++ ": " ++ t.rdf

/-- The text of a solution: `\x7b?x: "a", ?y: <http://example.org/>\x7d`. -/
def text (s : Solution) : String :=
  "\x7b" ++ String.intercalate ", " (s.entries.map fun (v, t) => bindingText v t) ++ "\x7d"

end Solution

namespace Group

/-- The group with a further member. -/
def push (group : Group) (row : Solution) : Group where
  values := row.entries.foldl
    (fun values (v, t) => Entries.update v (fun seen => seen.getD [] ++ [t]) values) group.values
  rows := group.rows + 1

/-- The group of given members. -/
def ofRows (rows : List Solution) : Group := rows.foldl push {}

/-- The terms of a variable, if any member binds it. -/
def get? (group : Group) (v : Variable) : Option (List Term) := group.values.lookup v

end Group

/-! ## Grouping

Solutions fall into groups by the RDF texts of the terms that they bind to some variables. A group
stands where its first member stood and binds what its first member binds to those variables. -/

namespace Grouping

/-- The text that stands for an unbound variable in a key. -/
def unboundKey : String := "UNBOUND"

/-- The key of every solution where there are no variables to group by. -/
def wholeKey : String := "__all__"

/-- The mark between the parts of a key. -/
def separator : String := "\x1f"

/-- The key by which a solution falls into a group. -/
def key (vs : List Variable) (row : Solution) : String :=
  if vs.isEmpty then wholeKey
  else String.intercalate separator
    (vs.map fun v => ((row.get? v).map Term.rdf).getD unboundKey)

/-- A group and the bindings of its first member. -/
structure Part where
  /-- The bindings of the grouping variables. -/
  bindings : Solution
  /-- What the members bind. -/
  group : Group

/-- The part that a further member falls into. -/
def Part.add (vs : List Variable) (row : Solution) : Option Part → Part
  | some part => { part with group := part.group.push row }
  | none => ⟨row.project vs, Group.push {} row⟩

/-- The parts by their keys, in the order of their first members. -/
def parts (vs : List Variable) (rows : List Solution) : List (String × Part) :=
  rows.foldl (fun parts row => Entries.update (key vs row) (Part.add vs row) parts) []

/-- The solutions that stand for the groups. Without variables to group by there is one group, even
where there is nothing to group. -/
def groups (vs : List Variable) (rows : List Solution) : List Solution :=
  if rows.isEmpty && vs.isEmpty then [Solution.empty.withGroup {}]
  else (parts vs rows).map fun (_, part) => part.bindings.withGroup part.group

end Grouping

end SolutionAlgebra
