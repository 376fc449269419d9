import SolutionAlgebra.Proofs.Compiled.Correspondence

/-! # What an expression reads

An expression reads the variables among its leaves and in its lists, and of a group the number of
members and the terms of the variables that it aggregates. Nothing else of a solution has an
influence on its term: neither other variables, nor the order of the bindings, nor the rest of the
group; and unless the expression has a volatile operation, nothing from outside either.

* **`Expression.reads`**, **`Expression.aggregates`** — the variables that an expression reads, and
  those that it aggregates.
* **`Solution.AgreeOn`** — that two solutions have the same for both.
* **`Expression.corresponds_of_agreeOn`** — for solutions that agree, all compiled forms of an
  expression correspond.
* **`Expression.evaluateTerm_of_agreeOn`** — an expression has the same term for solutions that
  agree. -/

namespace SolutionAlgebra

/-- That two solutions have the same terms of some variables, and groups that agree on others. -/
structure Solution.AgreeOn (vs ws : List Variable) (s s' : Solution) : Prop where
  /-- A variable is bound to the same term, or unbound in both. -/
  terms : ∀ v ∈ vs, s.get? v = s'.get? v
  /-- The groups, if any, have the same number of members and the same terms. -/
  groups : Group.AgreeOn ws s.group s'.group

/-- A solution agrees with itself. -/
theorem Solution.AgreeOn.refl (vs ws : List Variable) (s : Solution) : AgreeOn vs ws s s :=
  ⟨fun _ _ => rfl, .refl ws s.group⟩

/-- Solutions that agree on the variables of two lists agree on those of each. -/
theorem Solution.AgreeOn.append {vs vs' ws ws' : List Variable} {s s' : Solution}
    (h : AgreeOn (vs ++ vs') (ws ++ ws') s s') : AgreeOn vs ws s s' ∧ AgreeOn vs' ws' s s' :=
  ⟨⟨fun v hv => h.terms v (List.mem_append_left vs' hv),
      h.groups.mono (List.subset_append_left ws ws')⟩,
    ⟨fun v hv => h.terms v (List.mem_append_right vs hv),
      h.groups.mono (List.subset_append_right ws ws')⟩⟩

namespace Expression

/-! ## Variables and volatile operations -/

/-- The variable that a leaf is, if it is one. -/
def variableOf? (prefixes : Prefixes) (text : String) : Option Variable :=
  match Term.parse prefixes text with
  | .ok (.var v) => some v
  | _ => none

mutual

/-- The variables that an expression has for its leaves and in its lists. The variable of an
aggregate is not among them. -/
def reads (prefixes : Prefixes) : Expression → List Variable
  | term text => (variableOf? prefixes text).toList
  | list texts => texts.filterMap (variableOf? prefixes)
  | operation _ args => readsAll prefixes args
  | aggregate _ _ _ _ => []
  | call _ args => readsAll prefixes args

/-- The variables that several expressions read. -/
def readsAll (prefixes : Prefixes) : List Expression → List Variable
  | [] => []
  | e :: es => reads prefixes e ++ readsAll prefixes es

end

mutual

/-- The variables that an expression aggregates. -/
def aggregates (prefixes : Prefixes) : Expression → List Variable
  | term _ => []
  | list _ => []
  | operation _ args => aggregatesAll prefixes args
  | aggregate _ (term text) _ _ => (variableOf? prefixes text).toList
  | aggregate _ _ _ _ => []
  | call _ args => aggregatesAll prefixes args

/-- The variables that several expressions aggregate. -/
def aggregatesAll (prefixes : Prefixes) : List Expression → List Variable
  | [] => []
  | e :: es => aggregates prefixes e ++ aggregatesAll prefixes es

end

mutual

/-- Whether an expression has an operation that takes something from outside. -/
def isVolatile : Expression → Bool
  | term _ => false
  | list _ => false
  | operation operator args =>
    (Builtin.named? (lowerName operator)).any Builtin.isVolatile || anyVolatile args
  | aggregate _ target _ _ => isVolatile target
  | call _ args => anyVolatile args

/-- Whether some of several expressions has an operation that takes something from outside. -/
def anyVolatile : List Expression → Bool
  | [] => false
  | e :: es => isVolatile e || anyVolatile es

end

/-- A leaf that is a variable. -/
theorem variableOf?_of_parse {prefixes : Prefixes} {text : String} {v : Variable}
    (h : Term.parse prefixes text = .ok (.var v)) : variableOf? prefixes text = some v := by
  rw [variableOf?, h]

/-! ## Compiled forms -/

variable {scope : Scope} {s s' : Solution}

/-- The compiled form of a leaf is that of the term that the leaf is. -/
theorem exists_leafOf {text : String} {c : Compiled} (h : (term text).CompilesTo scope c) :
    ∃ t, Term.parse scope.prefixes text = .ok t ∧ c = leafOf t := by
  cases h with
  | «variable» h => exact ⟨_, h, rfl⟩
  | @constant _ t h hvar =>
      refine ⟨t, h, ?_⟩
      cases t with
      | var v => exact absurd rfl (hvar v)
      | iri i => rfl
      | literal l => rfl

/-- The nodes of an operation on compiled arguments. -/
inductive IsNode : Builtin → List Compiled → Compiled → Prop where
  /-- A choice. -/
  | choice (condition yes no : Compiled) :
      IsNode .choice [condition, yes, no] (.choose condition yes no)
  /-- A `coalesce`. -/
  | coalesce (args : List Compiled) : IsNode .coalesce args (.coalesce args)
  /-- Any other operation. -/
  | apply {b : Builtin} {args : List Compiled} (place : Nat) (hchoice : b ≠ .choice)
      (hcoalesce : b ≠ .coalesce) : IsNode b args (.apply b place args)

/-- The compiled form of an operation is a node on the compiled forms of its arguments. -/
theorem exists_isNode {operator : String} {args : List Expression} {c : Compiled}
    (h : (operation operator args).CompilesTo scope c) :
    ∃ b args', Builtin.named? (lowerName operator) = some b ∧
      List.Forall₂ (CompilesTo scope) args args' ∧ IsNode b args' c := by
  cases h with
  | choice hname hcondition hyes hno =>
      exact ⟨_, _, hname, .cons hcondition (.cons hyes (.cons hno .nil)), .choice _ _ _⟩
  | coalesce hname hargs => exact ⟨_, _, hname, hargs, .coalesce _⟩
  | operation hname hchoice hcoalesce hargs =>
      exact ⟨_, _, hname, hargs, .apply _ hchoice hcoalesce⟩

/-! ## Two compiled forms of an expression -/

/-- The members of a list are the same for solutions that agree on its variables. -/
theorem members_eq {texts : List String} {ts ts' : List Term}
    (h : List.Forall₂ (fun text t => Term.parse scope.prefixes text = .ok t) texts ts)
    (h' : List.Forall₂ (fun text t => Term.parse scope.prefixes text = .ok t) texts ts')
    (hterms : ∀ text ∈ texts, ∀ v, variableOf? scope.prefixes text = some v →
      s.get? v = s'.get? v) :
    ts.filterMap (Compiled.member s) = ts'.filterMap (Compiled.member s') := by
  induction h generalizing ts' with
  | nil =>
      cases h'
      rfl
  | @cons text t _ _ hparse _ ih =>
      obtain _ | ⟨hparse', hrest'⟩ := h'
      -- both forms have the member that the text is
      rw [hparse] at hparse'
      cases hparse'
      obtain ⟨hfirst, hterms⟩ := List.forall_mem_cons.1 hterms
      have hmember : Compiled.member s t = Compiled.member s' t := by
        cases t with
        | var v => exact hfirst v (variableOf?_of_parse hparse)
        | iri i => rfl
        | literal l => rfl
      rw [List.filterMap_cons, List.filterMap_cons, hmember, ih hrest' hterms]

/-- The compiled forms of a leaf correspond. -/
theorem leaf_corresponds {text : String} {c c' : Compiled} (h : (term text).CompilesTo scope c)
    (h' : (term text).CompilesTo scope c')
    (hterms : ∀ v, variableOf? scope.prefixes text = some v → s.get? v = s'.get? v) :
    Compiled.Corresponds s s' c c' := by
  obtain ⟨t, hparse, rfl⟩ := exists_leafOf h
  obtain ⟨t', hparse', rfl⟩ := exists_leafOf h'
  rw [hparse] at hparse'
  cases hparse'
  cases t with
  | var v => exact .lookup (hterms v (variableOf?_of_parse hparse))
  | iri i => exact .constant (.iri i)
  | literal l => exact .constant (.literal l)

/-- The nodes of an operation correspond if the arguments do. -/
theorem node_corresponds {b : Builtin} {args args' : List Compiled} {c c' : Compiled}
    (h : IsNode b args c) (h' : IsNode b args' c') (hvolatile : b.isVolatile = false)
    (hargs : List.Forall₂ (Compiled.Corresponds s s') args args') :
    Compiled.Corresponds s s' c c' := by
  cases h with
  | choice =>
      cases h' with
      | choice =>
          obtain _ | ⟨hcondition, _ | ⟨hyes, _ | ⟨hno, _⟩⟩⟩ := hargs
          exact .choose hcondition hyes hno
      | apply _ hchoice _ => exact absurd rfl hchoice
  | coalesce =>
      cases h' with
      | coalesce => exact .coalesce hargs
      | apply _ _ hcoalesce => exact absurd rfl hcoalesce
  | apply _ hchoice hcoalesce =>
      cases h' with
      | choice => exact absurd rfl hchoice
      | coalesce => exact absurd rfl hcoalesce
      | apply => exact .apply hvolatile hargs

/-- The compiled forms of an aggregate correspond. -/
theorem aggregate_corresponds {aggregation : String} {target : Expression} {distinct : Bool}
    {separator : Option String} {c c' : Compiled}
    (h : (aggregate aggregation target distinct separator).CompilesTo scope c)
    (h' : (aggregate aggregation target distinct separator).CompilesTo scope c')
    (hgroups : Group.AgreeOn ((aggregate aggregation target distinct separator).aggregates
      scope.prefixes) s.group s'.group) : Compiled.Corresponds s s' c c' := by
  cases h with
  | rows _ hstar =>
      cases h' with
      | rows => exact .aggregate (hgroups.mono (List.nil_subset _))
      -- no text is both the star and a variable
      | values _ hparse => exact absurd hparse (not_parse_of_star hstar)
  | values hname hparse =>
      cases h' with
      | rows _ hstar => exact absurd hparse (not_parse_of_star hstar)
      | values hname' hparse' =>
          rw [hname] at hname'
          rw [hparse] at hparse'
          cases hname'
          cases hparse'
          refine .aggregate (hgroups.mono ?_)
          rw [aggregates, variableOf?_of_parse hparse]
          exact List.Subset.refl _

mutual

/-- **Two compiled forms of an expression correspond** for solutions that agree on what the
expression reads and aggregates. -/
theorem corresponds_of_agreeOn {scope : Scope} {s s' : Solution} {c c' : Compiled} (e : Expression)
    (h : e.CompilesTo scope c) (h' : e.CompilesTo scope c') (hvolatile : e.isVolatile = false)
    (hagree : s.AgreeOn (e.reads scope.prefixes) (e.aggregates scope.prefixes) s') :
    Compiled.Corresponds s s' c c' := by
  cases e with
  | term text =>
      refine leaf_corresponds h h' fun v hv => hagree.terms v ?_
      rw [reads, hv]
      exact List.mem_singleton_self v
  | list texts =>
      cases h with
      | list hparse =>
          cases h' with
          | list hparse' =>
              refine .list (members_eq hparse hparse' fun text htext v hv => hagree.terms v ?_)
              rw [reads]
              exact List.mem_filterMap.2 ⟨text, htext, hv⟩
  | operation operator args =>
      obtain ⟨b, args', hname, hargs, hnode⟩ := exists_isNode h
      obtain ⟨b', args'', hname', hargs', hnode'⟩ := exists_isNode h'
      -- the name decides the operation, so that only the places may differ
      rw [hname] at hname'
      cases hname'
      rw [isVolatile, hname, Option.any_some, Bool.or_eq_false_iff] at hvolatile
      rw [reads, aggregates] at hagree
      exact node_corresponds hnode hnode' hvolatile.1
        (corresponds_of_agreeOnAll args hargs hargs' hvolatile.2 hagree)
  | aggregate aggregation target distinct separator =>
      exact aggregate_corresponds h h' hagree.groups
  | call function args =>
      rw [isVolatile] at hvolatile
      rw [reads, aggregates] at hagree
      cases h with
      | call hname hargs =>
          cases h' with
          | call hname' hargs' =>
              rw [hname] at hname'
              cases hname'
              exact .call (corresponds_of_agreeOnAll args hargs hargs' hvolatile hagree)

/-- Two compiled forms of several expressions correspond one by one. -/
theorem corresponds_of_agreeOnAll {scope : Scope} {s s' : Solution} {cs cs' : List Compiled}
    (es : List Expression) (h : List.Forall₂ (CompilesTo scope) es cs)
    (h' : List.Forall₂ (CompilesTo scope) es cs') (hvolatile : anyVolatile es = false)
    (hagree : s.AgreeOn (readsAll scope.prefixes es) (aggregatesAll scope.prefixes es) s') :
    List.Forall₂ (Compiled.Corresponds s s') cs cs' := by
  cases h with
  | nil =>
      cases h'
      exact .nil
  | cons hfirst hrest =>
      obtain _ | ⟨hfirst', hrest'⟩ := h'
      rw [anyVolatile, Bool.or_eq_false_iff] at hvolatile
      rw [readsAll, aggregatesAll] at hagree
      obtain ⟨hagree, hagreeAll⟩ := hagree.append
      exact .cons (corresponds_of_agreeOn _ hfirst hfirst' hvolatile.1 hagree)
        (corresponds_of_agreeOnAll _ hrest hrest' hvolatile.2 hagreeAll)

end

/-! ## Evaluation -/

/-- **The term of an expression depends only on what the expression reads and aggregates**: for
solutions that agree on it, a compiled expression without volatile operations has the same term, or
none for both, or the same fault. -/
theorem evaluateTerm_of_agreeOn (ambient ambient' : Ambient) {scope : Scope} {progress : Progress}
    {e : Expression} {compiled : Compiled} {s s' : Solution}
    (h : (((e.compile scope).run).run progress).1 = .ok compiled) (hvolatile : e.isVolatile = false)
    (hagree : s.AgreeOn (e.reads scope.prefixes) (e.aggregates scope.prefixes) s') :
    compiled.evaluateTerm ambient s = compiled.evaluateTerm ambient' s' := by
  have hcompiles := compilesTo_of_compile e h
  exact Compiled.evaluateTerm_eq ambient ambient'
    (corresponds_of_agreeOn e hcompiles hcompiles hvolatile hagree)

/-- A choice between a count and a variable, for two groups of which one binds another variable and
the other collects one. -/
theorem evaluateTerm_of_agreeOn_choice :
    let e := operation "If" [operation "in" [term "?x", list ["\"b\"", "$y"]],
      aggregate "count" (term "?v") false none, term "?x"]
    let compiled := Compiled.choose
      (.apply .among 1 [.lookup ⟨"x"⟩, .list [.literal (.plain "b"), .var ⟨"y"⟩]])
      (.aggregate .count (.values ⟨"v"⟩) false " ") (.lookup ⟨"x"⟩)
    let a := Term.literal (.plain "a")
    let s := (Solution.ofList [(⟨"x"⟩, a), (⟨"y"⟩, a), (⟨"z"⟩, a)]).withGroup ⟨[(⟨"v"⟩, [a])], 2⟩
    let s' := (Solution.ofList [(⟨"y"⟩, a), (⟨"x"⟩, a)]).withGroup
      ⟨[(⟨"w"⟩, [a, a]), (⟨"v"⟩, [a])], 2⟩
    (((e.compile (Engine.ofSettings {}).scope).run).run ⟨.empty, 0⟩).1 = .ok compiled ∧
      e.isVolatile = false ∧
      s.AgreeOn (e.reads Prefixes.common) (e.aggregates Prefixes.common) s' ∧
      compiled.evaluateTerm ⟨⟨0, 0, 0⟩, fun _ _ => 0⟩ s =
        compiled.evaluateTerm ⟨⟨1, 0, 0⟩, fun _ _ => 1⟩ s' := by
  intro e compiled a s s'
  have hcompile : (((e.compile (Engine.ofSettings {}).scope).run).run ⟨.empty, 0⟩).1 =
      .ok compiled := by rfl
  have hvolatile : e.isVolatile = false := by rfl
  have hreads : e.reads Prefixes.common = [⟨"x"⟩, ⟨"y"⟩, ⟨"x"⟩] := by rfl
  have haggregates : e.aggregates Prefixes.common = [⟨"v"⟩] := by rfl
  have hagree : s.AgreeOn (e.reads Prefixes.common) (e.aggregates Prefixes.common) s' := by
    rw [hreads, haggregates]
    exact ⟨by decide, .grouped rfl (by decide)⟩
  exact ⟨hcompile, hvolatile, hagree,
    evaluateTerm_of_agreeOn _ _ hcompile hvolatile hagree⟩

end Expression

end SolutionAlgebra
