import SolutionAlgebra.Proofs.Expression.Nodes

/-! # Names and leaves that are resolved

An expression is compiled exactly if all of its nodes are resolved, those included that no
evaluation may come to: its names stand for something, its leaves are terms, a choice has three
arguments, and an aggregate collects a variable, or the star under a plain count. Where a node is
not resolved, the fault is that of the first demand that is not met, in the order of the text: the
name of a node, its arguments from left to right, and the number of its arguments.

* **`Expression.Resolved`** — that a node is resolved.
* **`Expression.demands`** — what a compilation asks of all nodes, in order.
* **`Expression.faultOf?_compile`** — a compilation fails with the first demand that is not met.
* **`Expression.compile_ok_iff_and_error_iff`** — when a compilation succeeds, and how it fails. -/

namespace SolutionAlgebra

/-- The name of a function is known exactly if it is in the table without its angle brackets. -/
theorem Functions.exists_find?_iff {table : Functions} {name : String} :
    (∃ f, table.find? name = some f) ↔ bareName name ∈ table.entries.map Prod.fst := by
  rw [find?, ← Option.isSome_iff_exists, List.lookup_isSome_iff, List.mem_map]
  simp only [beq_iff_eq, eq_comm (a := bareName name)]

/-- What a compilation asks of an expression at one place. -/
inductive Demand where
  /-- That a leaf, or a member of a list, is a term. -/
  | leaf (text : String)
  /-- That an operation has the name. -/
  | operator (name : String)
  /-- That an operation takes as many arguments. -/
  | arguments (operator : String) (count : Nat)
  /-- That an aggregation has the name. -/
  | aggregation (name : String)
  /-- That an aggregation is possible over an expression. -/
  | target (aggregation : String) (target : Expression) (distinct : Bool)
  /-- That an extension function has the name. -/
  | function (name : String)

open Expression in
/-- The fault of a demand that is not met. -/
def Demand.fault? (scope : Scope) : Demand → Option CompileFault
  | leaf text => (faultOf? (Term.parse scope.prefixes text)).map .term
  | operator name => match Builtin.named? (lowerName name) with
    | some _ => none
    | none => some (.operator name)
  | arguments name count =>
    if Builtin.named? (lowerName name) = some .choice ∧ count ≠ 3 then
      some (.unsupported .choice)
    else none
  | aggregation name => match Aggregation.named? (lowerName name) with
    | some _ => none
    | none => some (.aggregation name)
  | target name (.term text) distinct =>
    if Text.trim text.toList = ['*'] then
      if Aggregation.named? (lowerName name) = some .count ∧ distinct = false then none
      else some (.unsupported (.allRows name distinct))
    else match Term.parse scope.prefixes text with
      | .error fault => some (.term fault)
      | .ok (.var _) => none
      | .ok t => some (.unsupported (.constant name t))
  | target name other _ => some (.unsupported (.nested name other))
  | function name => match scope.functions.find? name with
    | some _ => none
    | none => some (.function name)

namespace Expression

/-! ## Nodes and demands -/

/-- The arguments of a node. What an aggregate collects is not an argument. -/
def arguments : Expression → List Expression
  | term _ => []
  | list _ => []
  | operation _ args => args
  | aggregate _ _ _ _ => []
  | call _ args => args

/-- That an expression is a node of another, however deep it lies and whether or not an evaluation
may come to it. -/
inductive Within : Expression → Expression → Prop where
  /-- The whole expression. -/
  | here (e : Expression) : Within e e
  /-- A node of an argument. -/
  | argument {n arg e : Expression} (harg : arg ∈ e.arguments) (h : Within n arg) : Within n e

/-- That the names and leaves of a node stand for something. -/
def Resolved (scope : Scope) : Expression → Prop
  | term text => ∃ t, Term.parse scope.prefixes text = .ok t
  | list texts => ∀ text ∈ texts, ∃ t, Term.parse scope.prefixes text = .ok t
  | operation operator args =>
    ∃ b, Builtin.named? (lowerName operator) = some b ∧ (b = .choice → args.length = 3)
  | aggregate aggregation target distinct _ =>
    ∃ a text, Aggregation.named? (lowerName aggregation) = some a ∧ target = .term text ∧
      ((∃ v, Term.parse scope.prefixes text = .ok (.var v)) ∨
        Text.trim text.toList = ['*'] ∧ a = .count ∧ distinct = false)
  | call function _ => Functions.bareName function ∈ scope.functions.entries.map Prod.fst

mutual

/-- What a compilation asks of all nodes of an expression, in order. -/
def demands : Expression → List Demand
  | term text => [.leaf text]
  | list texts => texts.map .leaf
  | operation operator args =>
    .operator operator :: (demandsAll args ++ [.arguments operator args.length])
  | aggregate aggregation target distinct _ =>
    [.aggregation aggregation, .target aggregation target distinct]
  | call function args => .function function :: demandsAll args

/-- What a compilation asks of all nodes of several expressions, in order. -/
def demandsAll : List Expression → List Demand
  | [] => []
  | e :: es => demands e ++ demandsAll es

end

variable {scope : Scope}

/-- All nodes of an expression have a property exactly if it has it and all nodes of its arguments
do. -/
theorem forall_within_iff {P : Expression → Prop} {e : Expression} :
    (∀ n, n.Within e → P n) ↔ P e ∧ ∀ arg ∈ e.arguments, ∀ n, n.Within arg → P n := by
  constructor
  · intro h
    exact ⟨h e (.here e), fun arg harg n hn => h n (.argument harg hn)⟩
  · rintro ⟨hself, hargs⟩ n hn
    cases hn with
    | here => exact hself
    | argument harg hn => exact hargs _ harg n hn

/-- A leaf is resolved exactly if it is a term. -/
theorem resolved_term_iff {text : String} :
    (term text).Resolved scope ↔ (Demand.leaf text).fault? scope = none := by
  rw [Resolved, Demand.fault?, Option.map_eq_none_iff, faultOf?_eq_none_iff]

/-- An operation is resolved exactly if its name is known and it takes as many arguments. -/
theorem resolved_operation_iff {operator : String} {args : List Expression} :
    (operation operator args).Resolved scope ↔
      (Demand.operator operator).fault? scope = none ∧
        (Demand.arguments operator args.length).fault? scope = none := by
  cases hname : Builtin.named? (lowerName operator) with
  | none => simp [Resolved, Demand.fault?, hname]
  | some b => simp [Resolved, Demand.fault?, hname]

/-- A call is resolved exactly if its name is known. -/
theorem resolved_call_iff {function : String} {args : List Expression} :
    (call function args).Resolved scope ↔ (Demand.function function).fault? scope = none := by
  rw [Resolved, ← Functions.exists_find?_iff, Demand.fault?]
  cases scope.functions.find? function <;> simp

/-- An aggregate is resolved exactly if its name is known and it is possible over its target. -/
theorem resolved_aggregate_iff {aggregation : String} {target : Expression} {distinct : Bool}
    {separator : Option String} :
    (aggregate aggregation target distinct separator).Resolved scope ↔
      (Demand.aggregation aggregation).fault? scope = none ∧
        (Demand.target aggregation target distinct).fault? scope = none := by
  cases hname : Aggregation.named? (lowerName aggregation) with
  | none => simp [Resolved, Demand.fault?, hname]
  | some a =>
      cases target with
      | term text =>
          by_cases hstar : Text.trim text.toList = ['*']
          · -- the star is no term, so that only a plain count is left
            have hparse : ∀ t, Term.parse scope.prefixes text ≠ .ok t :=
              fun _ => not_parse_of_star hstar
            simp [Resolved, Demand.fault?, hname, hstar, hparse]
          · rcases hparse : Term.parse scope.prefixes text with fault | t
            · simp [Resolved, Demand.fault?, hname, hstar, hparse]
            · cases t <;> simp [Resolved, Demand.fault?, hname, hstar, hparse]
      | _ => simp [Resolved, Demand.fault?, hname]

mutual

/-- All nodes of an expression are resolved exactly if all demands are met. -/
theorem forall_resolved_iff (e : Expression) :
    (∀ n : Expression, n.Within e → n.Resolved scope) ↔ ∀ d ∈ e.demands, d.fault? scope = none := by
  cases e with
  | term text =>
      rw [forall_within_iff, resolved_term_iff, arguments, demands, List.forall_mem_singleton]
      exact and_iff_left (List.forall_mem_nil _)
  | list texts =>
      rw [forall_within_iff, arguments, demands, List.forall_mem_map,
        and_iff_left (List.forall_mem_nil _)]
      exact forall₂_congr fun text _ => resolved_term_iff
  | operation operator args =>
      rw [forall_within_iff, arguments, forall_resolvedAll_iff args, resolved_operation_iff,
        demands, List.forall_mem_cons, List.forall_mem_append, List.forall_mem_singleton]
      -- the number of arguments is of the node, although it is counted after the arguments
      tauto
  | aggregate aggregation target distinct separator =>
      rw [forall_within_iff, resolved_aggregate_iff, arguments, demands, List.forall_mem_cons,
        List.forall_mem_singleton]
      exact and_iff_left (List.forall_mem_nil _)
  | call function args =>
      rw [forall_within_iff, arguments, forall_resolvedAll_iff args, resolved_call_iff, demands,
        List.forall_mem_cons]

/-- All nodes of several expressions are resolved exactly if all demands are met. -/
theorem forall_resolvedAll_iff (es : List Expression) :
    (∀ e ∈ es, ∀ n : Expression, n.Within e → n.Resolved scope) ↔
      ∀ d ∈ demandsAll es, d.fault? scope = none := by
  cases es with
  | nil => simp [demandsAll]
  | cons e es =>
      rw [List.forall_mem_cons, forall_resolved_iff e, forall_resolvedAll_iff es, demandsAll,
        List.forall_mem_append]

end

/-! ## The first demand that is not met -/

/-- The first result in a list is that of its head, or else that of its tail. -/
theorem findSome?_cons_eq_or {α β : Type} {f : α → Option β} {x : α} {xs : List α} :
    (x :: xs).findSome? f = (f x).or (xs.findSome? f) := by
  rw [List.findSome?_cons]
  cases f x <;> rfl

variable {progress : Progress}

/-- A leaf is read exactly if it is a term. -/
theorem faultOf?_readTerm (text : String) :
    faultOf? (((Compilation.readTerm scope text).run).run progress).1 =
      (Demand.leaf text).fault? scope := by
  unfold Compilation.readTerm
  rw [Demand.fault?]
  rcases Term.parse scope.prefixes text with fault | t
  · rfl
  · cases t <;> rfl

/-- Leaves are read up to the first that is no term. -/
theorem faultOf?_readTerms (texts : List String) (progress : Progress) :
    faultOf? (((Compilation.readTerms scope texts).run).run progress).1 =
      (texts.map Demand.leaf).findSome? (·.fault? scope) := by
  induction texts generalizing progress with
  | nil => rfl
  | cons text texts ih =>
      rw [Compilation.readTerms, List.map_cons, findSome?_cons_eq_or, ← faultOf?_readTerm]
      refine faultOf?_run_bind fun t next _ => ?_
      rw [faultOf?_run_bind_pure, ih]

/-- What an aggregation collects of a leaf is determined exactly if the aggregation is possible over
the leaf. -/
theorem faultOf?_collectedOf {a : Aggregation} {name text : String} {distinct : Bool}
    (hname : Aggregation.named? (lowerName name) = some a) :
    faultOf? (((collectedOf scope a name distinct text).run).run progress).1 =
      (Demand.target name (.term text) distinct).fault? scope := by
  rw [collectedOf, Demand.fault?, hname]
  by_cases hstar : Text.trim text.toList = ['*']
  · rw [if_pos hstar, if_pos hstar]
    by_cases hplain : a = .count ∧ distinct = false
    · obtain ⟨rfl, rfl⟩ := hplain
      rfl
    · have hrefused : (a ≠ .count || distinct) = true := by grind
      have hknown : ¬(some a = some .count ∧ distinct = false) := by grind
      rw [if_pos hrefused, if_neg hknown]
      rfl
  · rw [if_neg hstar, if_neg hstar, Compilation.readTerm]
    cases Term.parse scope.prefixes text with
    | error fault => rfl
    | ok t => cases t <;> rfl

/-- The node of an operation is made exactly if the operation takes as many arguments. -/
theorem faultOf?_nodeOf {b : Builtin} {name : String} {place : Nat} {args : List Compiled}
    (hname : Builtin.named? (lowerName name) = some b) :
    faultOf? (((nodeOf b place args).run).run progress).1 =
      (Demand.arguments name args.length).fault? scope := by
  rw [Demand.fault?, hname]
  unfold nodeOf
  split
  · split
    · rfl
    · next hargs =>
      have hlength : args.length ≠ 3 := by
        intro hlength
        obtain ⟨condition, yes, no, rfl⟩ := List.length_eq_three.1 hlength
        exact hargs _ _ _ rfl
      rw [if_pos ⟨rfl, hlength⟩]
      rfl
  · rfl
  · next hchoice hcoalesce =>
    rw [if_neg fun h => hchoice (Option.some.inj h.1)]
    rfl

mutual

/-- **A compilation fails with the first demand that is not met**, and succeeds if all are. -/
theorem faultOf?_compile {scope : Scope} (e : Expression) (progress : Progress) :
    faultOf? (((e.compile scope).run).run progress).1 =
      e.demands.findSome? (·.fault? scope) := by
  cases e with
  | term text =>
      rw [compile, demands, findSome?_cons_eq_or, ← faultOf?_readTerm]
      refine faultOf?_run_bind fun t next _ => ?_
      cases t <;> rfl
  | list texts =>
      rw [compile, demands, faultOf?_run_bind_pure, faultOf?_readTerms]
  | operation operator args =>
      rw [compile, demands, findSome?_cons_eq_or, Demand.fault?]
      cases hname : Builtin.named? (lowerName operator) with
      | none => rfl
      | some b =>
          refine faultOf?_run_bind fun place next _ => ?_
          rw [List.findSome?_append, ← faultOf?_compileAll args next]
          refine faultOf?_run_bind fun args' last hargs => ?_
          -- the arguments that are counted are the compiled ones, of which there are as many
          have hlength := (compilesTo_of_compileAll args (congrArg Prod.fst hargs)).length_eq
          rw [faultOf?_nodeOf hname, hlength, findSome?_cons_eq_or]
          exact Option.or_none.symm
  | aggregate aggregation target distinct separator =>
      rw [compile, demands, findSome?_cons_eq_or, findSome?_cons_eq_or, Demand.fault?]
      cases hname : Aggregation.named? (lowerName aggregation) with
      | none => rfl
      | some a =>
          cases target with
          | term text =>
              exact faultOf?_run_bind_pure.trans
                ((faultOf?_collectedOf hname).trans Option.or_none.symm)
          | _ => rfl
  | call function args =>
      rw [compile, demands, findSome?_cons_eq_or, Demand.fault?]
      cases hname : scope.functions.find? function with
      | none => rfl
      | some f =>
          dsimp only
          rw [faultOf?_run_bind_pure, faultOf?_compileAll args]
          rfl

/-- Several expressions are compiled up to the first demand that is not met. -/
theorem faultOf?_compileAll {scope : Scope} (es : List Expression) (progress : Progress) :
    faultOf? (((compileAll scope es).run).run progress).1 =
      (demandsAll es).findSome? (·.fault? scope) := by
  cases es with
  | nil => rw [compileAll, demandsAll]; rfl
  | cons e es =>
      rw [compileAll, demandsAll, List.findSome?_append, ← faultOf?_compile e progress]
      refine faultOf?_run_bind fun compiled next _ => ?_
      rw [faultOf?_run_bind_pure, faultOf?_compileAll es]

end

end Expression

end SolutionAlgebra
