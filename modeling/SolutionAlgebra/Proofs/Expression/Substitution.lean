import SolutionAlgebra.Proofs.Expression.Reads
import SolutionAlgebra.Proofs.Term.ReadBack

/-! # Terms put in the place of variables

Where a solution binds a variable to a term, the RDF text of the term may stand in an expression for
the variable. The text reads back as the term, a constant has the value that the variable has, and a
list comes to the same members; so the expression has the same value. The variable of an aggregate
stands for the terms of a group and is not replaced.

* **`Expression.substitute`** — an expression with a text for every leaf and every member of a list
  that is a given variable.
* **`Expression.exists_substitute`** — its compiled form, which corresponds to that of the
  expression.
* **`Expression.evaluate_substitute`** — it is compiled and has the same value. -/

namespace SolutionAlgebra

/-- A term that is read or made from texts, but no variable. -/
inductive Term.Made : Term → Prop where
  /-- An IRI. -/
  | iri {text : String} {i : Iri} (h : Iri.ofText text = .ok i) : Made (.iri i)
  /-- A literal. -/
  | literal {l : Literal} (h : l.Built) : Made (.literal l)

/-- The RDF text of a term made from texts reads back. -/
theorem Term.Made.parse_rdf {prefixes : Prefixes} {t : Term} (h : t.Made) :
    Term.parse prefixes t.rdf = .ok t := by
  cases h with
  | iri h => exact Term.parse_rdf_iri (Iri.accepted_of_ofText h)
  | literal h => exact Term.parse_rdf h.formed

/-- A term made from texts is no variable. -/
theorem Term.Made.ne_var {t : Term} (h : t.Made) (v : Variable) : t ≠ .var v := by
  rintro rfl
  cases h

/-- An IRI that is read as a term is accepted. -/
theorem Term.accepted_of_parse {prefixes : Prefixes} {text : String} {i : Iri}
    (h : Term.parse prefixes text = .ok (.iri i)) : i.Accepted := by
  unfold parse parseTrimmed at h
  -- of the forms that a term may have, only those in brackets and the bare ones are IRIs
  split at h
  · cases h
  · split at h <;> cases h
  · split at h <;> cases h
  · cases h
  · obtain ⟨_, -, hi⟩ := map_eq_ok_iff.1 h
    cases hi
  · split at h
    · obtain ⟨_, hparse, hi⟩ := map_eq_ok_iff.1 h
      cases hi
      exact accepted_of_parseIri hparse
    · unfold parseBare at h
      split at h
      · cases h
      · split at h
        · cases h
        · split at h
          · obtain ⟨_, -, hi⟩ := map_eq_ok_iff.1 h
            cases hi
          · obtain ⟨_, hparse, hi⟩ := map_eq_ok_iff.1 h
            cases hi
            exact accepted_of_parseName hparse

/-- Whatever is read as a term is a variable or made from texts. -/
theorem Term.made_of_parse {prefixes : Prefixes} {text : String} {t : Term}
    (h : Term.parse prefixes text = .ok t) (hvar : ∀ v, t ≠ .var v) : t.Made := by
  cases t with
  | var v => exact absurd rfl (hvar v)
  | iri i =>
      have haccepted : Iri.parse i.text = .ok i := accepted_of_parse h
      exact .iri (by rw [Iri.ofText, haccepted]; rfl)
  | literal l => exact .literal (.parsed h)

namespace Expression

/-! ## Substitution -/

/-- A text, or what stands in its place if it is a given variable. -/
def substituteText (prefixes : Prefixes) (v : Variable) (replacement text : String) : String :=
  if variableOf? prefixes text = some v then replacement else text

mutual

/-- An expression with a text in the place of every leaf and of every member of a list that is a
given variable. -/
def substitute (prefixes : Prefixes) (v : Variable) (replacement : String) : Expression → Expression
  | term text => term (substituteText prefixes v replacement text)
  | list texts => list (texts.map (substituteText prefixes v replacement))
  | operation operator args => operation operator (substituteAll prefixes v replacement args)
  | aggregate aggregation target distinct separator =>
    aggregate aggregation target distinct separator
  | call function args => call function (substituteAll prefixes v replacement args)

/-- Several expressions with a text in the place of a variable. -/
def substituteAll (prefixes : Prefixes) (v : Variable) (replacement : String) :
    List Expression → List Expression
  | [] => []
  | e :: es => substitute prefixes v replacement e :: substituteAll prefixes v replacement es

end

mutual

/-- Volatile operations stay where they are. -/
theorem isVolatile_substitute (prefixes : Prefixes) (v : Variable) (replacement : String)
    (e : Expression) : (e.substitute prefixes v replacement).isVolatile = e.isVolatile := by
  cases e with
  | term text => rw [substitute, isVolatile, isVolatile]
  | list texts => rw [substitute, isVolatile, isVolatile]
  | operation operator args =>
      rw [substitute, isVolatile, isVolatile, anyVolatile_substituteAll prefixes v replacement args]
  | aggregate aggregation target distinct separator => rw [substitute]
  | call function args =>
      rw [substitute, isVolatile, isVolatile, anyVolatile_substituteAll prefixes v replacement args]

/-- Volatile operations stay where they are in several expressions. -/
theorem anyVolatile_substituteAll (prefixes : Prefixes) (v : Variable) (replacement : String)
    (es : List Expression) :
    anyVolatile (substituteAll prefixes v replacement es) = anyVolatile es := by
  cases es with
  | nil => rw [substituteAll]
  | cons e es =>
      rw [substituteAll, anyVolatile, anyVolatile, isVolatile_substitute prefixes v replacement e,
        anyVolatile_substituteAll prefixes v replacement es]

end

/-! ## Compiled forms -/

variable {scope : Scope} {s : Solution} {v : Variable} {t : Term}

/-- What is read where a text may have been replaced: the text's own term, or the term that the
solution binds the variable to. -/
theorem parse_substituteText {text : String} {u : Term} (ht : t.Made)
    (h : Term.parse scope.prefixes text = .ok u) :
    Term.parse scope.prefixes (substituteText scope.prefixes v t.rdf text) =
      .ok (if u = .var v then t else u) := by
  by_cases hu : u = .var v
  · subst hu
    rw [substituteText, if_pos (variableOf?_of_parse h), if_pos rfl, ht.parse_rdf]
  · have hvariable : variableOf? scope.prefixes text ≠ some v := by
      intro hvariable
      rw [variableOf?, h] at hvariable
      cases u with
      | var w =>
          cases hvariable
          exact hu rfl
      | iri i => cases hvariable
      | literal l => cases hvariable
    rw [substituteText, if_neg hvariable, if_neg hu, h]

/-- The compiled form of a leaf that is a variable or has a term in its place. -/
theorem exists_substitute_term {text : String} {c : Compiled} (hbound : s.get? v = some t)
    (ht : t.Made) (h : (term text).CompilesTo scope c) :
    ∃ c', ((term text).substitute scope.prefixes v t.rdf).CompilesTo scope c' ∧
      Compiled.Corresponds s s c c' := by
  rw [substitute]
  cases h with
  | @«variable» _ w h =>
      have hparse := parse_substituteText (v := v) ht h
      by_cases hw : w = v
      · subst hw
        rw [if_pos rfl] at hparse
        exact ⟨_, .constant hparse ht.ne_var, .bound hbound⟩
      · rw [if_neg fun heq => hw (Term.var.inj heq)] at hparse
        exact ⟨_, .«variable» hparse, .lookup rfl⟩
  | constant h hvar =>
      have hparse := parse_substituteText (v := v) ht h
      rw [if_neg (hvar v)] at hparse
      exact ⟨_, .constant hparse hvar, .constant _⟩

/-- A member of a list is the same term as what stands in its place. -/
theorem member_substitute (hbound : s.get? v = some t) (ht : t.Made) (u : Term) :
    Compiled.member s u = Compiled.member s (if u = .var v then t else u) := by
  by_cases hu : u = .var v
  · have hmember : Compiled.member s t = some t := by
      cases ht <;> rfl
    rw [if_pos hu, hmember, hu]
    exact hbound
  · rw [if_neg hu]

/-- The compiled form of a list with a term in the place of a variable. -/
theorem exists_substitute_list {texts : List String} {c : Compiled} (hbound : s.get? v = some t)
    (ht : t.Made) (h : (list texts).CompilesTo scope c) :
    ∃ c', ((list texts).substitute scope.prefixes v t.rdf).CompilesTo scope c' ∧
      Compiled.Corresponds s s c c' := by
  rw [substitute]
  cases h with
  | @list _ ts h =>
      refine ⟨.list (ts.map fun u => if u = .var v then t else u), .list ?_, .list ?_⟩
      · rw [List.forall₂_map_left_iff, List.forall₂_map_right_iff]
        exact h.imp fun _ _ hparse => parse_substituteText ht hparse
      · rw [List.filterMap_map]
        exact List.filterMap_congr fun u _ => member_substitute hbound ht u

mutual

/-- **The compiled form of an expression with a term in the place of a variable** corresponds to
that of the expression, where the variable is bound to the term. -/
theorem exists_substitute {scope : Scope} {s : Solution} {v : Variable} {t : Term} {c : Compiled}
    (hbound : s.get? v = some t) (ht : t.Made) (e : Expression) (h : e.CompilesTo scope c)
    (hvolatile : e.isVolatile = false) :
    ∃ c', (e.substitute scope.prefixes v t.rdf).CompilesTo scope c' ∧
      Compiled.Corresponds s s c c' := by
  cases e with
  | term text => exact exists_substitute_term hbound ht h
  | list texts => exact exists_substitute_list hbound ht h
  | operation operator args =>
      rw [isVolatile, Bool.or_eq_false_iff] at hvolatile
      rw [substitute]
      cases h with
      | choice hname hcondition hyes hno =>
          obtain ⟨_, hargs, hcorresponds⟩ := exists_substituteAll hbound ht _
            (.cons hcondition (.cons hyes (.cons hno .nil))) hvolatile.2
          obtain _ | ⟨hcondition', _ | ⟨hyes', _ | ⟨hno', _⟩⟩⟩ := hcorresponds
          rw [substituteAll, substituteAll, substituteAll, substituteAll] at hargs ⊢
          obtain _ | ⟨hcondition, _ | ⟨hyes, _ | ⟨hno, _⟩⟩⟩ := hargs
          exact ⟨_, .choice hname hcondition hyes hno, .choose hcondition' hyes' hno'⟩
      | coalesce hname hargs =>
          obtain ⟨_, hargs, hcorresponds⟩ := exists_substituteAll hbound ht _ hargs hvolatile.2
          exact ⟨_, .coalesce hname hargs, .coalesce hcorresponds⟩
      | @operation _ _ place _ _ hname hchoice hcoalesce hargs =>
          obtain ⟨_, hargs, hcorresponds⟩ := exists_substituteAll hbound ht _ hargs hvolatile.2
          rw [hname, Option.any_some] at hvolatile
          exact ⟨.apply _ place _, .operation hname hchoice hcoalesce hargs,
            .apply hvolatile.1 hcorresponds⟩
  | aggregate aggregation target distinct separator =>
      -- the target of an aggregate is not replaced
      rw [substitute]
      exact ⟨c, h, corresponds_of_agreeOn _ h h hvolatile (.refl _ _ s)⟩
  | call function args =>
      rw [isVolatile] at hvolatile
      rw [substitute]
      cases h with
      | call hname hargs =>
          obtain ⟨_, hargs, hcorresponds⟩ := exists_substituteAll hbound ht _ hargs hvolatile
          exact ⟨_, .call hname hargs, .call hcorresponds⟩

/-- The compiled forms of several expressions with a term in the place of a variable. -/
theorem exists_substituteAll {scope : Scope} {s : Solution} {v : Variable} {t : Term}
    {cs : List Compiled} (hbound : s.get? v = some t) (ht : t.Made) (es : List Expression)
    (h : List.Forall₂ (CompilesTo scope) es cs) (hvolatile : anyVolatile es = false) :
    ∃ cs', List.Forall₂ (CompilesTo scope) (substituteAll scope.prefixes v t.rdf es) cs' ∧
      List.Forall₂ (Compiled.Corresponds s s) cs cs' := by
  cases h with
  | nil => exact ⟨[], by rw [substituteAll]; exact .nil, .nil⟩
  | @cons e c es cs hfirst hrest =>
      rw [anyVolatile, Bool.or_eq_false_iff] at hvolatile
      obtain ⟨c', hcompiles, hcorresponds⟩ := exists_substitute hbound ht e hfirst hvolatile.1
      obtain ⟨cs', hcompilesAll, hcorrespondsAll⟩ :=
        exists_substituteAll hbound ht es hrest hvolatile.2
      refine ⟨c' :: cs', ?_, .cons hcorresponds hcorrespondsAll⟩
      rw [substituteAll]
      exact .cons hcompiles hcompilesAll

end

/-! ## Evaluation -/

/-- **A term may stand for the variable that is bound to it**: where a solution binds a variable to
an IRI or a literal made from texts, a compiled expression without volatile operations is compiled
also with the RDF text of the term in the place of the variable, and has the same value for the
solution, or none for both, or the same fault. -/
theorem evaluate_substitute (ambient ambient' : Ambient) {scope : Scope} {progress : Progress}
    {e : Expression} {compiled : Compiled} {s : Solution} {v : Variable} {t : Term}
    (h : (((e.compile scope).run).run progress).1 = .ok compiled) (hvolatile : e.isVolatile = false)
    (hbound : s.get? v = some t) (ht : t.Made) (progress' : Progress) :
    ∃ compiled', ((((e.substitute scope.prefixes v t.rdf).compile scope).run).run progress').1 =
        .ok compiled' ∧
      compiled.evaluate ambient s = compiled'.evaluate ambient' s := by
  obtain ⟨c, hcompiles, hcorresponds⟩ :=
    exists_substitute hbound ht e (compilesTo_of_compile e h) hvolatile
  obtain ⟨compiled', next, hrun⟩ := exists_compile _ hcompiles progress'
  have hcompile := congrArg Prod.fst hrun
  -- the compiled form may number its operations otherwise
  have hsame : Compiled.Corresponds s s c compiled' :=
    corresponds_of_agreeOn _ hcompiles (compilesTo_of_compile _ hcompile)
      ((isVolatile_substitute _ _ _ e).trans hvolatile) (.refl _ _ s)
  refine ⟨compiled', hcompile, ?_⟩
  rw [Compiled.evaluate_eq ambient ambient hcorresponds,
    Compiled.evaluate_eq ambient ambient' hsame]

/-- A leaf and a member of a list beside an aggregate, for a text with a quotation mark. -/
theorem evaluate_substitute_list :
    let e := operation "coalesce" [aggregate "sum" (term "?x") false none,
      operation "in" [term "?x", list ["\"b\"", "$x"]]]
    let compiled := Compiled.coalesce [.aggregate .sum (.values ⟨"x"⟩) false " ",
      .apply .among 1 [.lookup ⟨"x"⟩, .list [.literal (.plain "b"), .var ⟨"x"⟩]]]
    let t := Term.literal ⟨"a\"", none, some "en", .string⟩
    let s := (Solution.ofList [(⟨"x"⟩, t)]).withGroup ⟨[(⟨"x"⟩, [t])], 1⟩
    (((e.compile (Engine.ofSettings {}).scope).run).run ⟨.empty, 0⟩).1 = .ok compiled ∧
      e.isVolatile = false ∧ s.get? ⟨"x"⟩ = some t ∧ t.Made ∧
      e.substitute Prefixes.common ⟨"x"⟩ t.rdf =
        operation "coalesce" [aggregate "sum" (term "?x") false none,
          operation "in" [term "\"a\\\"\"@en", list ["\"b\"", "\"a\\\"\"@en"]]] ∧
      ∃ compiled', ((((e.substitute Prefixes.common ⟨"x"⟩ t.rdf).compile
          (Engine.ofSettings {}).scope).run).run ⟨.empty, 0⟩).1 = .ok compiled' ∧
        compiled.evaluate ⟨⟨0, 0, 0⟩, fun _ _ => 0⟩ s =
          compiled'.evaluate ⟨⟨1, 0, 0⟩, fun _ _ => 1⟩ s := by
  intro e compiled t s
  have hcompile : (((e.compile (Engine.ofSettings {}).scope).run).run ⟨.empty, 0⟩).1 =
      .ok compiled := by rfl
  have hvolatile : e.isVolatile = false := by rfl
  have hbound : s.get? ⟨"x"⟩ = some t := by rfl
  have hmade : t.Made := .literal (@Literal.Built.tagged "a\"" "en" _ rfl)
  exact ⟨hcompile, hvolatile, hbound, hmade, by rfl,
    evaluate_substitute _ _ hcompile hvolatile hbound hmade _⟩

end Expression

end SolutionAlgebra
