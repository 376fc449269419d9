import SolutionAlgebra.Proofs.Builtin.Identity
import SolutionAlgebra.Proofs.Compiled.Faults
import SolutionAlgebra.Proofs.Solution.Algebra

/-! # The terms that expressions make

Where the terms of an expression, of a solution and of the group that it stands for come about by
reading, making, operations and aggregations, so does the value of the expression, unless one of its
extension functions brings in another term.

* **`Compiled.Supplied`**, **`Solution.Supplied`** — that all terms in there come about.
* **`Compiled.withoutRepeats`** — terms without those whose RDF text an earlier one has.
* **`Compiled.Supplied.gives_arises`** — the values of such expressions for such solutions.
* **`Compiled.sameTerm_tells_identity`** — what the comparison of RDF texts tells of such terms. -/

namespace SolutionAlgebra

/-- That the terms of a compiled expression come about, and that its extension functions make such
terms out of such terms. -/
inductive Compiled.Supplied : Compiled → Prop where
  /-- A term that comes about. -/
  | constant {t : Term} (h : t.Arises) : Supplied (.constant t)
  /-- The term of a variable. -/
  | lookup (v : Variable) : Supplied (.lookup v)
  /-- A list of terms. -/
  | list (ts : List Term) : Supplied (.list ts)
  /-- An operation. -/
  | apply {b : Builtin} {place : Nat} {args : List Compiled} (hargs : ∀ e ∈ args, Supplied e) :
      Supplied (.apply b place args)
  /-- A choice, whose sides may be taken for its value. -/
  | choose {condition yes no : Compiled} (hyes : Supplied yes) (hno : Supplied no) :
      Supplied (.choose condition yes no)
  /-- The first of some expressions that has a term. -/
  | coalesce {args : List Compiled} (hargs : ∀ e ∈ args, Supplied e) : Supplied (.coalesce args)
  /-- An aggregation. -/
  | aggregate (a : Aggregation) (collected : Collected) (distinct : Bool) (separator : String) :
      Supplied (.aggregate a collected distinct separator)
  /-- A call of an extension function. -/
  | call {f : Extension} {args : List Compiled} (hargs : ∀ e ∈ args, Supplied e)
      (hf : ∀ ts t, (∀ u, some u ∈ ts → u.Arises) → f ts = .ok t → t.Arises) :
      Supplied (.call f args)

/-- That the terms of a solution, and those that its group collected, come about. -/
structure Solution.Supplied (s : Solution) : Prop where
  /-- The terms of the variables. -/
  bound : ∀ v t, s.get? v = some t → t.Arises
  /-- The terms that the group collected. -/
  collected : ∀ group ∈ s.group, ∀ v ts, group.get? v = some ts → ∀ t ∈ ts, t.Arises

/-- That a value, if it is a single term, comes about. -/
def Value.Arises (value : Option Value) : Prop := ∀ t, value = some (.term t) → t.Arises

/-- A single term comes about as a value if it does as a term. -/
theorem Value.arises_term {t : Term} (h : t.Arises) : Value.Arises (some (.term t)) := by
  rintro _ ⟨⟩
  exact h

/-- A value that is no single term comes about. -/
theorem Value.arises_of_noTerm {value : Option Value} (h : value.bind term? = none) :
    Value.Arises value := by
  rintro t rfl
  cases h

namespace Compiled

variable {ambient : Ambient} {s : Solution} {e : Compiled} {args : List Compiled}

/-- The values of several expressions have a property that the value of each one has. -/
theorem gives_evaluateAll {p : Option Value → Prop}
    (h : ∀ e ∈ args, Gives p (evaluate ambient s e)) :
    Gives (fun values => ∀ value ∈ values, p value) (evaluateAll ambient s args) := by
  intro values hvalues value hvalue
  have hall := evaluateAll_eq_ok_iff.1 hvalues
  clear hvalues
  -- the value belongs to one of the expressions
  induction hall with
  | nil => exact absurd hvalue List.not_mem_nil
  | cons hfirst _ ih =>
      rw [List.forall_mem_cons] at h
      rcases List.mem_cons.1 hvalue with rfl | hvalue
      · exact h.1 _ hfirst
      · exact ih h.2 hvalue

/-- A first term is the value of one of the expressions. -/
theorem exists_of_firstTerm {t : Term} (h : firstTerm ambient s args = some t) :
    ∃ e ∈ args, evaluate ambient s e = .ok (some (.term t)) := by
  induction args with
  | nil => cases h
  | cons arg args ih =>
      rw [firstTerm] at h
      split at h
      · next u harg =>
        cases h
        exact ⟨arg, List.mem_cons_self, harg⟩
      · obtain ⟨e, he, hvalue⟩ := ih h
        exact ⟨e, List.mem_cons_of_mem arg he, hvalue⟩

/-- Terms without those whose RDF text an earlier one has. -/
def withoutRepeats : List Term → List Term
  | [] => []
  | t :: ts => t :: (withoutRepeats ts).filter fun u => u.rdf != t.rdf

/-- Going over the terms once, with the terms kept so far at hand, removes the repeats. -/
theorem distinctTerms_eq (ts : List Term) : distinctTerms ts = withoutRepeats ts := by
  suffices h : ∀ seen : List Term,
      ts.foldl (fun seen t => if seen.any fun u => u.rdf == t.rdf then seen else seen ++ [t]) seen =
        seen ++ (withoutRepeats ts).filter fun t => !seen.any fun u => u.rdf == t.rdf by
    rw [distinctTerms, h, List.nil_append]
    exact List.filter_eq_self.2 fun _ _ => rfl
  induction ts with
  | nil => exact fun seen => (List.append_nil seen).symm
  | cons t ts ih =>
      intro seen
      rw [List.foldl_cons, withoutRepeats, List.filter_cons]
      by_cases ht : (seen.any fun u => u.rdf == t.rdf) = true
      · -- a repeat: what has its text was seen as well
        rw [if_pos ht, if_neg (by simpa using ht), ih, List.filter_filter]
        congr 1
        refine List.filter_congr fun u _ => ?_
        by_cases hu : u.rdf = t.rdf
        · rw [hu, ht]
          rfl
        · rw [bne_iff_ne.2 hu, Bool.and_true]
      · rw [if_neg ht, if_pos (by simpa using ht), ih, List.filter_filter, List.append_assoc,
          List.singleton_append]
        congr 2
        refine List.filter_congr fun u _ => ?_
        rw [List.any_append, List.any_cons, List.any_nil, Bool.or_false, Bool.not_or, bne, BEq.comm]

/-- No terms are added. -/
theorem mem_of_mem_withoutRepeats {ts : List Term} {t : Term} (h : t ∈ withoutRepeats ts) :
    t ∈ ts := by
  induction ts with
  | nil => exact h
  | cons u ts ih =>
      rw [withoutRepeats, List.mem_cons] at h
      rcases h with rfl | h
      · exact List.mem_cons_self
      · exact List.mem_cons_of_mem u (ih (List.mem_of_mem_filter h))

/-- The value of an aggregate for a solution whose terms come about. -/
theorem gives_aggregateValue (a : Aggregation) (collected : Collected) (distinct : Bool)
    (separator : String) (hs : s.Supplied) :
    Gives (fun value => Value.Arises (some value))
      (aggregateValue a collected distinct separator s) := by
  unfold aggregateValue
  split
  · exact .ok (Value.arises_of_noTerm rfl)
  · next group hgroup =>
    split
    · exact .ok (Value.arises_term (.constructed (.literal (.integer _))))
    · next v =>
      intro value hvalue
      obtain ⟨t, ht, rfl⟩ := map_eq_ok_iff.1 hvalue
      refine Value.arises_term (.aggregation (fun u hu => ?_) ht)
      -- all these terms were collected for the variable
      have hcollected : u ∈ (group.get? v).getD [] := by
        cases distinct with
        | false => exact hu
        | true => exact mem_of_mem_withoutRepeats (distinctTerms_eq _ ▸ hu)
      cases hget : group.get? v with
      | none =>
          rw [hget] at hcollected
          exact absurd hcollected List.not_mem_nil
      | some ts =>
          rw [hget] at hcollected
          exact hs.collected group hgroup v ts hget u hcollected

/-- **Expressions make only terms that come about**, out of terms that do. -/
theorem Supplied.gives_arises (h : e.Supplied) (hs : s.Supplied) :
    Gives Value.Arises (evaluate ambient s e) := by
  induction h with
  | constant h =>
      rw [evaluate]
      exact .ok (Value.arises_term h)
  | lookup v =>
      rw [evaluate]
      refine .ok fun t ht => ?_
      obtain ⟨u, hget, hu⟩ := Option.map_eq_some_iff.1 ht
      cases hu
      exact hs.bound v t hget
  | list ts =>
      rw [evaluate]
      exact .ok (Value.arises_of_noTerm rfl)
  | apply _ ih =>
      -- an operation makes its answer of arguments that come about
      rw [evaluate]
      refine (gives_evaluateAll ih).bind fun values hvalues => ?_
      intro value hvalue
      obtain ⟨t, ht, hvalue⟩ := bind_eq_ok_iff.1 hvalue
      cases hvalue
      exact Value.arises_term (.operation (fun u hu => hvalues _ hu u rfl) ht)
  | @choose condition yes no _ _ ihyes ihno =>
      rw [evaluate_choose]
      -- whichever side is decided for, its value comes about
      refine .after fun value => .after fun decided => ?_
      have hside : Gives Value.Arises (evaluate ambient s (if decided then yes else no)) := by
        cases decided with
        | true => exact ihyes
        | false => exact ihno
      refine hside.bind fun found hfound => ?_
      intro value hvalue
      obtain ⟨t, ht, hvalue⟩ := bind_eq_ok_iff.1 hvalue
      cases hvalue
      exact Value.arises_term (hfound t (expectTerm_eq_ok_iff.1 ht))
  | @coalesce args _ ih =>
      rw [evaluate]
      split
      · next t ht =>
        obtain ⟨e, he, hvalue⟩ := exists_of_firstTerm ht
        exact .ok (ih e he _ hvalue)
      · exact .error _
  | aggregate a collected distinct separator =>
      rw [evaluate]
      exact (gives_aggregateValue a collected distinct separator hs).map fun _ h => h
  | @call f args _ hf ih =>
      rw [evaluate]
      split
      · exact .ok (Value.arises_of_noTerm rfl)
      · next values hvalues =>
        -- the function may be any, but makes such terms out of such terms
        have harises := gives_evaluateAll ih values hvalues
        split
        · next t ht =>
          refine .ok (Value.arises_term (hf _ t (fun u hu => ?_) ht))
          obtain ⟨value, hmem, hvalue⟩ := List.mem_map.1 hu
          exact harises value hmem u (Value.bind_term?_eq_some_iff.1 hvalue)
        · exact .ok (Value.arises_of_noTerm rfl)

/-! ## Terms with one RDF text -/

/-- **Terms have the same RDF text if and only if they are identical**: the operation that compares
the RDF texts of two terms tells whether they are the same IRI, the same variable, or literals with
the same text, datatype and language. This holds of all terms that come about, and so of the values
of expressions. -/
theorem sameTerm_tells_identity :
    (∀ (present : Calendar.Moment) (draw : Unit → Nat) (a b : Term), a.Arises → b.Arises →
      Builtin.sameTerm.apply present draw [some (.term a), some (.term b)] =
        .ok (Builtin.truthTerm (decide (a.Identical b)))) ∧
    ∀ (ambient : Ambient) (s : Solution) (place : Nat) (left right : Compiled) (a b : Term),
      s.Supplied → left.Supplied → right.Supplied →
      evaluate ambient s left = .ok (some (.term a)) →
      evaluate ambient s right = .ok (some (.term b)) →
      evaluate ambient s (.apply .sameTerm place [left, right]) =
        .ok (some (.term (Builtin.truthTerm (decide (a.Identical b))))) := by
  refine ⟨fun present draw a b ha hb => Builtin.apply_sameTerm present draw ha hb, ?_⟩
  intro ambient s place left right a b hs hleft hright ha hb
  have harises : a.Arises := hleft.gives_arises hs _ ha a rfl
  have harises' : b.Arises := hright.gives_arises hs _ hb b rfl
  exact evaluate_apply_of_values (evaluateAll_eq_ok_iff.2 (.cons ha (.cons hb .nil)))
    (Builtin.apply_sameTerm _ _ harises harises')

/-- A string that is given a language is identical to the one that is read from its RDF text, and
not to the plain string whose text is what stands in there after the first quotation mark. -/
theorem sameTerm_tells_identity_tagged :
    let ambient : Ambient := ⟨⟨0, 0, 0⟩, fun _ _ => 0⟩
    let tagged := Term.literal ⟨"a", none, some "en", .string⟩
    let plain := Term.literal (.plain "a\"@en")
    let s := Solution.ofList [(⟨"x"⟩, tagged)]
    let given := Compiled.apply .strlang 1
      [.constant (.literal (.plain "a")), .constant (.literal (.plain "EN"))]
    Term.parse Prefixes.common "\"a\"@en" = .ok tagged ∧ tagged.Arises ∧ plain.Arises ∧
      Builtin.sameTerm.apply ambient.present (fun _ => 0)
        [some (.term tagged), some (.term plain)] = .ok (Builtin.truthTerm false) ∧
      s.Supplied ∧ given.Supplied ∧ evaluate ambient s given = .ok (some (.term tagged)) ∧
      evaluate ambient s (.apply .sameTerm 0 [given, .lookup ⟨"x"⟩]) =
        .ok (some (.term (Builtin.truthTerm true))) := by
  intro ambient tagged plain s given
  have hparse : Term.parse Prefixes.common "\"a\"@en" = .ok tagged := by decide +kernel
  have htagged : tagged.Arises := .constructed (.literal (.built (.parsed hparse)))
  have hplain : ∀ text, (Term.literal (.plain text)).Arises := fun text =>
    .constructed (.literal (.built (.plain text)))
  have hs : s.Supplied := by
    refine ⟨fun v t ht => ?_, fun group hgroup => nomatch hgroup⟩
    -- there is one variable only
    have hmem := Solution.get?_eq_some_iff.1 ht
    cases List.mem_singleton.1 hmem
    exact htagged
  have hgiven : given.Supplied := by
    refine .apply fun e he => ?_
    rcases List.mem_cons.1 he with rfl | he
    · exact .constant (hplain "a")
    · cases List.mem_singleton.1 he
      exact .constant (hplain "EN")
  have hvalue : evaluate ambient s given = .ok (some (.term tagged)) := by rfl
  exact ⟨hparse, htagged, hplain _,
    sameTerm_tells_identity.1 ambient.present (fun _ => 0) tagged plain htagged (hplain _), hs,
    hgiven, hvalue,
    sameTerm_tells_identity.2 ambient s 0 given (.lookup ⟨"x"⟩) tagged tagged hs hgiven (.lookup _)
      hvalue rfl⟩

end Compiled

end SolutionAlgebra
