import SolutionAlgebra.Proofs.Engine.Runs

/-! # Compiled aggregates

An aggregate node has a compiled form only if its name is that of an aggregation and its target is a
variable, or the star under a plain count. The compiled form then names the aggregation, what it
collects, and the separator of the node or, if it has none, of the engine.

* **`Engine.Compiles`** — that a node of an expression has a compiled form for an engine.
* **`Engine.Compiles.aggregate`** — all that there is to the compiled form of an aggregate. -/

namespace SolutionAlgebra

namespace Expression

variable {scope : Scope} {a : Aggregation} {name text : String} {distinct : Bool}
  {collected : Collected} {progress : Progress}

/-- A term is read as it is parsed. -/
theorem parse_of_readTerm {t : Term}
    (h : (((Compilation.readTerm scope text).run).run progress).1 = .ok t) :
    Term.parse scope.prefixes text = .ok t := by
  unfold Compilation.readTerm at h
  split at h
  · cases h
  · next v hparse =>
    cases h
    exact hparse
  · next t' _ hparse =>
    cases h
    exact hparse

/-- The star is no term. -/
theorem not_parse_of_star {prefixes : Prefixes} {t : Term} (h : Text.trim text.toList = ['*']) :
    Term.parse prefixes text ≠ .ok t := by
  intro hparse
  rw [Term.parse, h] at hparse
  cases hparse

/-- What an aggregation collects of a leaf: the rows for the star of a plain count, else the terms
of the variable that the leaf is. -/
theorem collectedOf_cases
    (h : (((collectedOf scope a name distinct text).run).run progress).1 = .ok collected) :
    (Text.trim text.toList = ['*'] ∧ a = .count ∧ distinct = false ∧ collected = .rows) ∨
      ∃ v, Term.parse scope.prefixes text = .ok (.var v) ∧ collected = .values v := by
  unfold collectedOf at h
  by_cases hstar : Text.trim text.toList = ['*']
  · rw [if_pos hstar] at h
    split at h
    · cases h
    · next hplain =>
      cases h
      simp only [Bool.or_eq_true, decide_eq_true_eq, not_or, Bool.not_eq_true, ne_eq,
        Decidable.not_not] at hplain
      exact .inl ⟨hstar, hplain.1, hplain.2, rfl⟩
  · rw [if_neg hstar] at h
    obtain ⟨t, _, hread, h⟩ := run_bind_ok_iff.1 h
    have hparse := parse_of_readTerm (congrArg Prod.fst hread)
    split at h
    · next v =>
      cases h
      exact .inr ⟨v, hparse, rfl⟩
    · cases h

/-- All that there is to the compiled form of an aggregate over a leaf: the aggregation of its name,
what it collects, and the separator of the node or, if it has none, of the scope. -/
theorem aggregate_cases {separator : Option String} {compiled : Compiled}
    (h : ((((aggregate name (.term text) distinct separator).compile scope).run).run progress).1 =
      .ok compiled) :
    ∃ a collected, Aggregation.named? (lowerName name) = some a ∧
      compiled = .aggregate a collected distinct (separator.getD scope.separator) ∧
      ((Text.trim text.toList = ['*'] ∧ a = .count ∧ distinct = false ∧ collected = .rows) ∨
        ∃ v, Term.parse scope.prefixes text = .ok (.var v) ∧ collected = .values v) := by
  rw [compile] at h
  split at h
  · cases h
  · next a hname =>
    obtain ⟨collected, _, hcollected, h⟩ := run_bind_ok_iff.1 h
    cases h
    exact ⟨a, collected, hname, rfl, collectedOf_cases (congrArg Prod.fst hcollected)⟩

end Expression

/-- **The compiled form of an aggregate** over a leaf: the aggregation of its name, over the rows
for the star and over the variable that the leaf is otherwise, with the separator of the node or, if
it has none, of the engine. -/
theorem Engine.Compiles.aggregate {engine : Engine} {name text : String} {distinct : Bool}
    {separator : Option String} {compiled : Compiled}
    (h : engine.Compiles (.aggregate name (.term text) distinct separator) compiled) :
    ∃ a collected, Aggregation.named? (Expression.lowerName name) = some a ∧
      compiled = .aggregate a collected distinct
        (separator.getD engine.settings.separator) ∧
      ((Text.trim text.toList = ['*'] ∧ a = .count ∧ distinct = false ∧ collected = .rows) ∨
        ∃ v, Term.parse engine.prefixes text = .ok (.var v) ∧ collected = .values v) := by
  obtain ⟨progress, h⟩ := h
  exact Expression.aggregate_cases h

end SolutionAlgebra
