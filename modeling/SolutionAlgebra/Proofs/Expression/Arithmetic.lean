import SolutionAlgebra.Proofs.Compiled.Faults
import SolutionAlgebra.Proofs.Expression.Resolution
import SolutionAlgebra.Proofs.Literal.Promotion

/-! # Arithmetic expressions

Expressions that are made of numbers, of variables that stand for numbers, and of arithmetic
operators have a class of numbers before they are evaluated: that of the number at a leaf, and the
promoted one at an operator. The value is of this class. There is none only where a quotient of
decimal fractions has a divisor that comes to zero; the fault of the first of them is that of the
whole expression.

* **`Expression.HasType`** — the class of an arithmetic expression.
* **`Expression.DividesByZero`** — that a quotient of decimal fractions has a divisor that comes to
  zero.
* **`Expression.evaluate_of_compilesTo`** — values are of the class, faults are those of quotients.
* **`Expression.evaluate_of_hasType`** — the same of the expression as it is compiled. -/

namespace SolutionAlgebra

namespace Compiled

variable {ambient : Ambient} {s : Solution} {op : ArithmeticOperator} {place : Nat}
  {left right : Compiled} {l m : Literal} {value : Option Value} {x : EvaluationFault}

/-- The value of an arithmetic operation on literals is what the operator gives for them. -/
theorem evaluate_arithmetic (hleft : evaluate ambient s left = .ok (some (.term (.literal l))))
    (hright : evaluate ambient s right = .ok (some (.term (.literal m)))) :
    evaluate ambient s (.apply (.arithmetic op) place [left, right]) =
      ((Literal.apply op l m).mapError EvaluationFault.arithmetic).map
        fun l => some (.term (.literal l)) := by
  have hall : evaluateAll ambient s [left, right] =
      .ok [some (.term (.literal l)), some (.term (.literal m))] :=
    evaluateAll_eq_ok_iff.2 (.cons hleft (.cons hright .nil))
  rw [evaluate, hall]
  show (((Literal.apply op l m).mapError _).map Term.literal >>= fun t => _) = _
  cases Literal.apply op l m <;> rfl

/-- The fault of the left operand is that of the operation. -/
theorem evaluate_apply_of_left (h : evaluate ambient s left = .error x) :
    evaluate ambient s (.apply (.arithmetic op) place [left, right]) = .error x :=
  evaluate_apply_eq_error_iff.2 (.inl (evaluateAll_eq_error_iff.2 ⟨[], _, _, rfl, nofun, h⟩))

/-- The fault of the right operand is that of the operation, if the left one has a value. -/
theorem evaluate_apply_of_right (hleft : evaluate ambient s left = .ok value)
    (h : evaluate ambient s right = .error x) :
    evaluate ambient s (.apply (.arithmetic op) place [left, right]) = .error x :=
  evaluate_apply_eq_error_iff.2 (.inl (evaluateAll_eq_error_iff.2
    ⟨[left], _, _, rfl, List.forall_mem_singleton.2 ⟨value, hleft⟩, h⟩))

end Compiled

namespace Expression

variable {scope : Scope} {ambient : Ambient} {s : Solution} {e left right : Expression}
  {compiled : Compiled} {operator : String} {op : ArithmeticOperator} {a b type : NumericType}
  {fault : ArithmeticFault}

/-! ## Classes of expressions -/

/-- The class of an expression that is made of numbers and arithmetic operators, where variables
stand for the terms of a solution. -/
inductive HasType (scope : Scope) (s : Solution) : Expression → NumericType → Prop where
  /-- A number. -/
  | literal {text : String} {l : Literal} {type : NumericType}
      (hread : Term.parse scope.prefixes text = .ok (.literal l)) (hl : l.OfType type) :
      HasType scope s (.term text) type
  /-- A variable that stands for a number. -/
  | variable {text : String} {v : Variable} {l : Literal} {type : NumericType}
      (hread : Term.parse scope.prefixes text = .ok (.var v))
      (hbound : s.get? v = some (.literal l)) (hl : l.OfType type) :
      HasType scope s (.term text) type
  /-- An operator on two expressions. -/
  | operation {operator : String} {op : ArithmeticOperator} {left right : Expression}
      {a b : NumericType} (hname : Builtin.named? (lowerName operator) = some (.arithmetic op))
      (hleft : HasType scope s left a) (hright : HasType scope s right b) :
      HasType scope s (.operation operator [left, right]) (op.promoted a b)

/-- An expression has one class only. -/
theorem HasType.unique (ha : HasType scope s e a) (hb : HasType scope s e b) : a = b := by
  -- a leaf is read as one term, and a name stands for one operator
  induction ha generalizing b with
  | literal hread hl =>
      cases hb with
      | literal hread' hl' =>
          rw [hread] at hread'
          cases hread'
          exact hl.unique hl'
      | «variable» hread' _ _ =>
          rw [hread] at hread'
          cases hread'
  | «variable» hread hbound hl =>
      cases hb with
      | literal hread' _ =>
          rw [hread] at hread'
          cases hread'
      | «variable» hread' hbound' hl' =>
          rw [hread] at hread'
          cases hread'
          rw [hbound] at hbound'
          cases hbound'
          exact hl.unique hl'
  | operation hname _ _ ihleft ihright =>
      cases hb with
      | operation hname' hleft hright =>
          rw [hname] at hname'
          cases hname'
          rw [ihleft hleft, ihright hright]

/-- The operands of an arithmetic expression have classes, from which that of the result comes. -/
theorem HasType.operands (h : HasType scope s (.operation operator [left, right]) type)
    (hname : Builtin.named? (lowerName operator) = some (.arithmetic op)) :
    ∃ a b, HasType scope s left a ∧ HasType scope s right b ∧ type = op.promoted a b := by
  cases h with
  | operation hname' hleft hright =>
      rw [hname] at hname'
      cases hname'
      exact ⟨_, _, hleft, hright, rfl⟩

/-- That a quotient of decimal fractions has a divisor that comes to zero, with the fault of it. -/
inductive DividesByZero (scope : Scope) (ambient : Ambient) (s : Solution) :
    Expression → ArithmeticFault → Prop where
  /-- The operands have been evaluated. -/
  | mk {operator : String} {left right : Expression} {left' right' : Compiled} {l m : Literal}
      (hname : Builtin.named? (lowerName operator) = some (.arithmetic .divide))
      (htype : HasType scope s (.operation operator [left, right]) .decimal)
      (hleft : left.CompilesTo scope left') (hright : right.CompilesTo scope right')
      (hl : left'.evaluate ambient s = .ok (some (.term (.literal l))))
      (hm : right'.evaluate ambient s = .ok (some (.term (.literal m)))) (hzero : m.IsZero) :
      DividesByZero scope ambient s (.operation operator [left, right]) ⟨l.rdf, .divide, m.rdf⟩

/-- That an expression, if it is a quotient, has an operand of single or double precision. -/
def WideQuotient (scope : Scope) (s : Solution) (e : Expression) : Prop :=
  ∀ operator args, e = .operation operator args →
    Builtin.named? (lowerName operator) = some (.arithmetic .divide) →
    ∃ arg ∈ args, ∃ type, HasType scope s arg type ∧ .float ≤ type

/-- A quotient with an operand of single or double precision has no fault. -/
theorem not_dividesByZero_of_wideQuotient (h : WideQuotient scope s e) :
    ¬ DividesByZero scope ambient s e fault := by
  rintro ⟨hname, htype, -⟩
  obtain ⟨arg, harg, type, hwide, hle⟩ := h _ _ rfl hname
  obtain ⟨a, b, hleft, hright, hpromoted⟩ := htype.operands hname
  -- the operand would be of no wider class than the quotient
  have hdecimal : type ≤ .decimal := by
    rw [hpromoted]
    rcases List.mem_pair.1 harg with rfl | rfl
    · rw [hwide.unique hleft]
      exact ArithmeticOperator.left_le_promoted
    · rw [hwide.unique hright]
      exact ArithmeticOperator.right_le_promoted
  exact absurd (hle.trans hdecimal) (by decide)

/-! ## Compiled forms -/

/-- An arithmetic expression has a compiled form. -/
theorem HasType.exists_compilesTo (h : HasType scope s e type) :
    ∃ compiled, e.CompilesTo scope compiled := by
  induction h with
  | literal hread _ => exact ⟨_, .constant hread nofun⟩
  | «variable» hread _ _ => exact ⟨_, .variable hread⟩
  | operation hname _ _ ihleft ihright =>
      obtain ⟨left', hleft⟩ := ihleft
      obtain ⟨right', hright⟩ := ihright
      exact ⟨.apply _ 0 [left', right'],
        .operation hname nofun nofun (.cons hleft (.cons hright .nil))⟩

/-- The compiled form of an arithmetic operation is made of those of the operands. -/
theorem compilesTo_arithmetic (hname : Builtin.named? (lowerName operator) = some (.arithmetic op))
    (h : (operation operator [left, right]).CompilesTo scope compiled) :
    ∃ place left' right', compiled = .apply (.arithmetic op) place [left', right'] ∧
      left.CompilesTo scope left' ∧ right.CompilesTo scope right' := by
  cases h with
  | coalesce hname' _ =>
      rw [hname] at hname'
      cases hname'
  | operation hname' _ _ hargs =>
      rw [hname] at hname'
      cases hname'
      obtain _ | ⟨hleft, _ | ⟨hright, _ | _⟩⟩ := hargs
      exact ⟨_, _, _, rfl, hleft, hright⟩

/-! ## Values and faults -/

/-- That a compiled expression comes to a number of a class, which has the datatype of the class if
it was computed. -/
def ComesTo (ambient : Ambient) (s : Solution) (e : Expression) (compiled : Compiled)
    (type : NumericType) : Prop :=
  ∃ l : Literal, compiled.evaluate ambient s = .ok (some (.term (.literal l))) ∧ l.OfType type ∧
    (e.arguments ≠ [] → l.datatype = some type.datatype)

/-- That a compiled expression has the fault of one of the quotients in it. -/
def FailsBy (scope : Scope) (ambient : Ambient) (s : Solution) (e : Expression)
    (compiled : Compiled) : Prop :=
  ∃ division fault, Within division e ∧ DividesByZero scope ambient s division fault ∧
    compiled.evaluate ambient s = .error (.arithmetic fault)

/-- An operator on operands with values of their classes has such a value, or is a quotient by
zero. -/
theorem evaluate_operation {left' right' : Compiled} {place : Nat}
    (hname : Builtin.named? (lowerName operator) = some (.arithmetic op))
    (hleft : HasType scope s left a) (hright : HasType scope s right b)
    (hleft' : left.CompilesTo scope left') (hright' : right.CompilesTo scope right')
    (hl : ComesTo ambient s left left' a) (hm : ComesTo ambient s right right' b) :
    ComesTo ambient s (operation operator [left, right])
        (.apply (.arithmetic op) place [left', right']) (op.promoted a b) ∨
      FailsBy scope ambient s (operation operator [left, right])
        (.apply (.arithmetic op) place [left', right']) := by
  obtain ⟨l, hl, hlType, -⟩ := hl
  obtain ⟨m, hm, hmType, -⟩ := hm
  have hvalue : Compiled.evaluate ambient s (.apply (.arithmetic op) place [left', right']) = _ :=
    Compiled.evaluate_arithmetic hl hm
  rcases Literal.apply_cases op hlType hmType with
    ⟨n, hn, hnType, hdatatype⟩ | ⟨rfl, hdecimal, hzero, hfault⟩
  · rw [hn] at hvalue
    exact .inl ⟨n, hvalue, hnType, fun _ => hdatatype⟩
  · rw [hfault] at hvalue
    have htype := HasType.operation hname hleft hright
    rw [hdecimal] at htype
    exact .inr ⟨_, _, .here _, .mk hname htype hleft' hright' hl hm hzero, hvalue⟩

/-- **The value of an arithmetic expression is of its class, and its fault is that of a quotient**
of decimal fractions, somewhere in it, by zero. -/
theorem evaluate_of_compilesTo (h : HasType scope s e type)
    (hcompiled : e.CompilesTo scope compiled) :
    ComesTo ambient s e compiled type ∨ FailsBy scope ambient s e compiled := by
  induction h generalizing compiled with
  | literal hread hl =>
      cases hcompiled with
      | «variable» hread' =>
          rw [hread] at hread'
          cases hread'
      | constant hread' _ =>
          rw [hread] at hread'
          cases hread'
          exact .inl ⟨_, by rw [Compiled.evaluate], hl, fun h => absurd rfl h⟩
  | «variable» hread hbound hl =>
      cases hcompiled with
      | «variable» hread' =>
          rw [hread] at hread'
          cases hread'
          exact .inl ⟨_, by rw [Compiled.evaluate, hbound]; rfl, hl, fun h => absurd rfl h⟩
      | constant hread' hvar =>
          rw [hread] at hread'
          cases hread'
          exact absurd rfl (hvar _)
  | operation hname hleft hright ihleft ihright =>
      obtain ⟨place, left', right', rfl, hleft', hright'⟩ := compilesTo_arithmetic hname hcompiled
      -- the fault of the left operand comes before that of the right one
      rcases ihleft hleft' with hl | ⟨division, fault, hwithin, hzero, hfault⟩
      · rcases ihright hright' with hm | ⟨division, fault, hwithin, hzero, hfault⟩
        · exact evaluate_operation hname hleft hright hleft' hright' hl hm
        · obtain ⟨l, hl, -⟩ := hl
          exact .inr ⟨division, fault, .argument (List.mem_pair.2 (.inr rfl)) hwithin, hzero,
            Compiled.evaluate_apply_of_right hl hfault⟩
      · exact .inr ⟨division, fault, .argument (List.mem_pair.2 (.inl rfl)) hwithin, hzero,
          Compiled.evaluate_apply_of_left hfault⟩

/-- **Promotion is sound.** An arithmetic expression is compiled, whatever was compiled before it.
Its value is a number of its class, and has the datatype of the class if there is an operator; or
its fault is that of a quotient in it, of decimal fractions, whose divisor comes to zero. Where all
quotients have an operand of single or double precision, it has a value. -/
theorem evaluate_of_hasType (h : HasType scope s e type) (ambient : Ambient) (progress : Progress) :
    ∃ compiled next, ((e.compile scope).run).run progress = (.ok compiled, next) ∧
      (ComesTo ambient s e compiled type ∨ FailsBy scope ambient s e compiled) ∧
      ((∀ n, Within n e → WideQuotient scope s n) → ComesTo ambient s e compiled type) := by
  obtain ⟨form, hform⟩ := h.exists_compilesTo
  obtain ⟨compiled, next, hcompile⟩ := exists_compile e hform progress
  have hcompiled := compilesTo_of_compile e (congrArg Prod.fst hcompile)
  have hvalue : ComesTo ambient s e compiled type ∨ FailsBy scope ambient s e compiled :=
    evaluate_of_compilesTo h hcompiled
  refine ⟨compiled, next, hcompile, hvalue, fun hwide => hvalue.resolve_right ?_⟩
  rintro ⟨division, fault, hwithin, hzero, -⟩
  exact not_dividesByZero_of_wideQuotient (hwide division hwithin) hzero

/-- A sum with a variable, divided by a zero of double precision, has a value. -/
theorem evaluate_of_hasType_quotient :
    let scope := (Engine.ofSettings {}).scope
    let s := Solution.empty.bind ⟨"x"⟩ (.literal (.numeric 2 .decimal))
    let e := operation "/" [operation "+" [term "1", term "?x"], term "0e0"]
    HasType scope s e .double ∧
      ∃ compiled next, ((e.compile scope).run).run ⟨.empty, 0⟩ = (.ok compiled, next) ∧
        ComesTo ⟨⟨0, 0, 0⟩, fun _ _ => 0⟩ s e compiled .double := by
  intro scope s e
  have hone : HasType scope s (term "1") .integer := .literal (l := .integer 1) rfl ⟨_, rfl⟩
  have hx : HasType scope s (term "?x") .decimal := .variable (v := ⟨"x"⟩) rfl rfl ⟨_, rfl⟩
  have hzero : HasType scope s (term "0e0") .double := .literal rfl ⟨_, rfl⟩
  have hplus : Builtin.named? (lowerName "+") = some (.arithmetic .add) := rfl
  have hslash : Builtin.named? (lowerName "/") = some (.arithmetic .divide) := rfl
  have hsum : HasType scope s (operation "+" [term "1", term "?x"]) .decimal :=
    .operation hplus hone hx
  have he : HasType scope s e .double := .operation hslash hsum hzero
  refine ⟨he, ?_⟩
  obtain ⟨compiled, next, hcompile, -, hvalue⟩ :=
    evaluate_of_hasType he ⟨⟨0, 0, 0⟩, fun _ _ => 0⟩ ⟨.empty, 0⟩
  have hleaf : ∀ text n, Within n (term text) → WideQuotient scope s n :=
    fun text => forall_within_iff.2 ⟨nofun, nofun⟩
  have hnone : WideQuotient scope s (operation "+" [term "1", term "?x"]) := by
    rintro operator args heq hname
    cases heq
    cases hname
  have hquotient : WideQuotient scope s e := by
    rintro operator args heq -
    obtain ⟨rfl, rfl⟩ := operation.inj heq
    exact ⟨term "0e0", List.mem_pair.2 (.inr rfl), .double, hzero, by decide⟩
  refine ⟨compiled, next, hcompile, hvalue (forall_within_iff.2 ⟨hquotient, ?_⟩)⟩
  refine List.forall_mem_cons.2 ⟨forall_within_iff.2 ⟨hnone, ?_⟩, ?_⟩
  · exact List.forall_mem_cons.2 ⟨hleaf "1", List.forall_mem_singleton.2 (hleaf "?x")⟩
  · exact List.forall_mem_singleton.2 (hleaf "0e0")

end Expression

end SolutionAlgebra
