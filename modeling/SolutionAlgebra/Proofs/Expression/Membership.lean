import SolutionAlgebra.Proofs.Compiled.Faults
import SolutionAlgebra.Proofs.Expression.Reads
import SolutionAlgebra.Proofs.Term.Equality

/-! # Spellings of membership

Whether a term is among others can be asked in three ways: of the others as one list, of the others
as further arguments, and of each one by itself in a disjunction of equations. The members of a list
are looked up together when the list is evaluated, and those that are unbound drop out; further
arguments are looked up one by one, and those without a value match nothing; and an equation has
the term on its other side. All three come to the same.

* **`Builtin.anyEqual`** — the disjunction of equations.
* **`Expression.HasTerm`** — that an expression has a term for its value.
* **`Expression.exists_others`** — the others as arguments, in both spellings.
* **`Expression.membership_agrees`** — all spellings give one answer. -/

namespace SolutionAlgebra

/-! ## Answers -/

namespace Builtin

variable (present : Calendar.Moment) (draw : Unit → Nat) (n : Term)

/-- The disjunction of the equations of a term with others. -/
def anyEqual : List Term → Outcome Term
  | [] => .ok (truthTerm false)
  | m :: ms => do
    let first ← (comparison .equal).apply present draw [some (.term n), some (.term m)]
    let rest ← anyEqual ms
    or.apply present draw [some (.term first), some (.term rest)]

/-- A disjunction of equations tells whether a term equals one of the others. -/
theorem anyEqual_eq (ms : List Term) :
    anyEqual present draw n ms = .ok (truthTerm (ms.any fun m => n.equal m)) := by
  induction ms with
  | nil => rfl
  | cons m ms ih =>
      rw [anyEqual, ih]
      rfl

/-- Whether the first argument is among the others. -/
theorem apply_among (args : Arguments) : among.apply present draw (some (.term n) :: args) =
    .ok (truthTerm (args.any (matchesTerm n))) := rfl

/-- Whether the first argument is not among the others. -/
theorem apply_notAmong (args : Arguments) : notAmong.apply present draw (some (.term n) :: args) =
    .ok (truthTerm (!args.any (matchesTerm n))) := rfl

/-- A list of terms matches a term that equals one of them. -/
theorem any_matchesTerm_terms (ms : List Term) :
    [some (.terms ms)].any (matchesTerm n) = ms.any fun m => n.equal m := by
  rw [List.any_cons, List.any_nil, Bool.or_false]
  exact congrArg ms.any (funext fun m => Term.equal_comm m n)

end Builtin

/-! ## Compiled leaves -/

namespace Compiled

variable (ambient : Ambient) (s : Solution)

/-- The value of a leaf: the term, or what the solution binds it to. -/
def leafValue (t : Term) : Option Value := (member s t).map .term

/-- A leaf has its value. -/
theorem evaluate_leafOf (t : Term) :
    evaluate ambient s (Expression.leafOf t) = .ok (leafValue s t) := by
  cases t <;> rfl

/-- Leaves have their values. -/
theorem evaluateAll_leaves (ts : List Term) :
    evaluateAll ambient s (ts.map Expression.leafOf) = .ok (ts.map (leafValue s)) := by
  induction ts with
  | nil => rfl
  | cons t ts ih =>
      rw [List.map_cons, evaluateAll, evaluate_leafOf, ih]
      rfl

/-- Leaves match a term that equals one of the members they have. -/
theorem any_matchesTerm_leaves (n : Term) (ts : List Term) :
    (ts.map (leafValue s)).any (Builtin.matchesTerm n) =
      (ts.filterMap (member s)).any fun m => n.equal m := by
  induction ts with
  | nil => rfl
  | cons t ts ih =>
      rw [List.map_cons, List.any_cons, ih, List.filterMap_cons, leafValue]
      cases member s t with
      | none => rfl
      | some m =>
          rw [List.any_cons, Term.equal_comm n m]
          rfl

end Compiled

/-- The stage at which the arguments of an operation are compiled, when the operation is compiled at
a given one. -/
def Progress.below (progress : Progress) : Progress :=
  { progress with places := progress.places + 1 }

namespace Expression

variable {scope : Scope} {progress middle next : Progress} {ambient : Ambient} {s : Solution}
  {needle : Expression} {needle' : Compiled} {texts : List String} {ts : List Term} {n : Term}
  {operator : String} {b : Builtin}

/-- The compiled forms of leaves that are parsed. -/
theorem run_compileAll_leaves
    (h : List.Forall₂ (fun text t => Term.parse scope.prefixes text = .ok t) texts ts)
    (progress : Progress) :
    ∃ next, ((compileAll scope (texts.map term)).run).run progress =
      (.ok (ts.map leafOf), next) := by
  induction h generalizing progress with
  | nil => exact ⟨progress, by rw [List.map_nil, compileAll]; rfl⟩
  | cons hparse _ ih =>
      obtain ⟨middle, hfirst⟩ := run_compile_leaf hparse progress
      obtain ⟨next, hrest⟩ := ih middle
      refine ⟨next, ?_⟩
      rw [List.map_cons, compileAll, run_bind, hfirst]
      simp only [run_bind, hrest]
      rfl

/-! ## Spellings -/

/-- That an expression, as it is compiled at some stage, has a term for its value. -/
def HasTerm (scope : Scope) (progress : Progress) (ambient : Ambient) (s : Solution)
    (e : Expression) (t : Term) : Prop :=
  ∃ compiled, (((e.compile scope).run).run progress).1 = .ok compiled ∧
    compiled.evaluate ambient s = .ok (some (.term t))

/-- Terms as the arguments after the first one: as one list, or one by one. -/
theorem exists_others {others : List Expression}
    (hothers : others ∈ [[list texts], texts.map term])
    (htexts : List.Forall₂ (fun text t => Term.parse scope.prefixes text = .ok t) texts ts)
    (ambient : Ambient) (s : Solution) (n : Term) (progress : Progress) :
    ∃ compiled values next, ((compileAll scope others).run).run progress = (.ok compiled, next) ∧
      Compiled.evaluateAll ambient s compiled = .ok values ∧
      values.any (Builtin.matchesTerm n) =
        (ts.filterMap (Compiled.member s)).any fun m => n.equal m := by
  rcases List.mem_cons.1 hothers with rfl | hothers
  · obtain ⟨next, hlist⟩ := run_compile_list htexts progress
    refine ⟨[.list ts], [some (.terms (ts.filterMap (Compiled.member s)))], next, ?_, rfl,
      Builtin.any_matchesTerm_terms n _⟩
    rw [compileAll, run_bind, hlist, compileAll]
    rfl
  · obtain rfl := List.mem_singleton.1 hothers
    obtain ⟨next, hleaves⟩ := run_compileAll_leaves htexts progress
    exact ⟨_, _, next, hleaves, Compiled.evaluateAll_leaves ambient s ts,
      Compiled.any_matchesTerm_leaves s n ts⟩

/-- An operation has the term that it computes from the term of its first argument and the values of
the others. -/
theorem hasTerm_operation {others : List Expression} {others' : List Compiled}
    {values : Arguments} {place : Nat} {t : Term}
    (hname : Builtin.named? (lowerName operator) = some b)
    (hnode : nodeOf b progress.places (needle' :: others') =
      pure (.apply b place (needle' :: others')))
    (hneedle : ((needle.compile scope).run).run progress.below = (.ok needle', middle))
    (hn : needle'.evaluate ambient s = .ok (some (.term n)))
    (hothers : ((compileAll scope others).run).run middle = (.ok others', next))
    (hvalues : Compiled.evaluateAll ambient s others' = .ok values)
    (happly : ∀ draw, b.apply ambient.present draw (some (.term n) :: values) = .ok t) :
    (operation operator (needle :: others)).HasTerm scope progress ambient s t := by
  have hargs : ((compileAll scope (needle :: others)).run).run progress.below =
      (.ok (needle' :: others'), next) := by
    rw [compileAll, run_bind, hneedle]
    simp only [run_bind, hothers]
    rfl
  refine ⟨.apply b place (needle' :: others'),
    congrArg Prod.fst (run_compile_operation hname hargs hnode), ?_⟩
  exact Compiled.evaluate_apply_of_values
    (Compiled.evaluateAll_eq_ok_iff.2 (.cons hn (Compiled.evaluateAll_eq_ok_iff.1 hvalues)))
    (happly _)

/-- **All spellings of membership give one answer**: with the others as one list, with the others as
further arguments, and as a disjunction of equations with those that are bound. The question whether
a term is not among others has the opposite answer. -/
theorem membership_agrees (hneedle : needle.HasTerm scope progress.below ambient s n)
    (htexts : List.Forall₂ (fun text t => Term.parse scope.prefixes text = .ok t) texts ts) :
    ∃ value : Bool,
      (∀ present draw, Builtin.anyEqual present draw n (ts.filterMap (Compiled.member s)) =
        .ok (Builtin.truthTerm value)) ∧
      ∀ others ∈ [[list texts], texts.map term], ∀ operator,
        (Builtin.named? (lowerName operator) = some .among →
          (operation operator (needle :: others)).HasTerm scope progress ambient s
            (Builtin.truthTerm value)) ∧
        (Builtin.named? (lowerName operator) = some .notAmong →
          (operation operator (needle :: others)).HasTerm scope progress ambient s
            (Builtin.truthTerm (!value))) := by
  obtain ⟨needle', hcompiled, hn⟩ := hneedle
  refine ⟨_, fun present draw => Builtin.anyEqual_eq present draw n _, ?_⟩
  intro others hothers operator
  obtain ⟨others', values, next, hothers', hvalues, hmatches⟩ := exists_others hothers htexts
    ambient s n (((needle.compile scope).run).run progress.below).2
  rw [← hmatches]
  exact ⟨fun hname => hasTerm_operation hname rfl (Prod.ext hcompiled rfl) hn hothers' hvalues
      fun draw => Builtin.apply_among _ draw n values,
    fun hname => hasTerm_operation hname rfl (Prod.ext hcompiled rfl) hn hothers' hvalues
      fun draw => Builtin.apply_notAmong _ draw n values⟩

/-- A sum that equals the decimal fraction of a variable, asked after an unbound variable and the
string of the same text, with the operation in capitals and in small letters. -/
theorem membership_agrees_sum :
    let scope := (Engine.ofSettings {}).scope
    let progress : Progress := ⟨.empty, 0⟩
    let ambient : Ambient := ⟨⟨0, 0, 0⟩, fun _ _ => 0⟩
    let s := Solution.ofList
      [(⟨"x"⟩, .literal (.integer 1)), (⟨"y"⟩, .literal (.numeric 2 .decimal))]
    let needle := operation "+" [term "?x", term "1"]
    let texts := ["?z", "\"2\"", "?y"]
    needle.HasTerm scope progress.below ambient s (.literal (.integer 2)) ∧
    List.Forall₂ (fun text t => Term.parse scope.prefixes text = .ok t) texts
      [.var ⟨"z"⟩, .literal (.plain "2"), .var ⟨"y"⟩] ∧
    (operation "IN" [needle, list texts]).HasTerm scope progress ambient s
      (Builtin.truthTerm true) ∧
    (operation "in" (needle :: texts.map term)).HasTerm scope progress ambient s
      (Builtin.truthTerm true) ∧
    (operation "notIn" (needle :: texts.map term)).HasTerm scope progress ambient s
      (Builtin.truthTerm false) := by
  intro scope progress ambient s needle texts
  have hneedle : needle.HasTerm scope progress.below ambient s (.literal (.integer 2)) :=
    ⟨.apply (.arithmetic .add) 1 [.lookup ⟨"x"⟩, .constant (.literal (.integer 1))], by rfl,
      by decide +kernel⟩
  have htexts : List.Forall₂ (fun text t => Term.parse scope.prefixes text = .ok t) texts
      [.var ⟨"z"⟩, .literal (.plain "2"), .var ⟨"y"⟩] :=
    .cons (by rfl) (.cons (by rfl) (.cons (by rfl) .nil))
  obtain ⟨value, hequations, hspellings⟩ := membership_agrees hneedle htexts
  -- the equations tell the answer
  have hvalue : value = true := by
    have htrue := hequations ⟨0, 0, 0⟩ fun _ => 0
    cases value with
    | true => rfl
    | false => exact absurd htrue (by decide +kernel)
  subst hvalue
  have hlist := hspellings [list texts] List.mem_cons_self
  have hleaves := hspellings (texts.map term) (List.mem_cons_of_mem _ List.mem_cons_self)
  exact ⟨hneedle, htexts, (hlist "IN").1 (by decide +kernel), (hleaves "in").1 (by decide +kernel),
    (hleaves "notIn").2 (by decide +kernel)⟩

end Expression

end SolutionAlgebra
