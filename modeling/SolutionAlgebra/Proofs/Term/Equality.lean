import SolutionAlgebra.Proofs.Decimal.Order
import SolutionAlgebra.Proofs.Term.Genus

/-! # Equality of terms

What a term means is an IRI, a variable, or the value of a literal: the place of a number, a string
with its language and datatype, a truth value, a point in time, octets. Two terms are equal if they
mean the same; only the undefined number means nothing, and so is not equal to itself. The RDF
texts, by which terms of different genera are compared, never make two of them equal.

* **`Meaning`**, **`Term.meaning?`** — what terms mean.
* **`Term.equal_iff`** — equal terms are those that mean the same.
* **`Term.equal_equivalence`** — equality is symmetric, transitive and, but for the undefined
  number, reflexive, and it keeps to one genus. -/

namespace SolutionAlgebra

/-- What a term means. -/
inductive Meaning where
  /-- An IRI. -/
  | iri (i : Iri)
  /-- A variable. -/
  | var (v : Variable)
  /-- A number, without regard to its class and to the sign of zero. -/
  | numeric (place : Decimal.Place)
  /-- A string. -/
  | string (lexical : String) (language : Option String) (datatype : Iri)
  /-- A truth value. -/
  | boolean (value : Bool)
  /-- A point in time, without regard to the offset of a clock. -/
  | date (seconds : Int) (nanos : Nat)
  /-- Octets, without regard to their notation. -/
  | octets (octets : List UInt8)
deriving DecidableEq

/-- The genus of the terms with a meaning. -/
def Meaning.genus : Meaning → Genus
  | iri _ => .iri
  | var _ => .var
  | numeric _ => .numeric
  | string _ _ _ => .string
  | boolean _ => .boolean
  | date _ _ => .date
  | octets _ => .octets

/-- What a literal means; the undefined number means nothing. -/
def Literal.meaning? (l : Literal) : Option Meaning :=
  match l.kind with
  | .numeric value _ => if value.isNaN then none else some (.numeric (Decimal.place value))
  | .string => some (.string l.lexical l.language l.effectiveDatatype)
  | .boolean value => some (.boolean value)
  | .date moment => some (.date moment.seconds moment.nanos)
  | .octets octets _ => some (.octets octets)

/-- That a literal is the undefined number. -/
def Literal.Undefined (l : Literal) : Prop :=
  ∃ value type, l.kind = .numeric value type ∧ value.isNaN = true

namespace Literal

variable {a b : Literal}

/-- What a literal means is of the genus of its kind. -/
theorem genus_of_meaning? {meaning : Meaning} (h : a.meaning? = some meaning) :
    meaning.genus = a.kind.genus := by
  unfold meaning? at h
  cases hkind : a.kind with
  | numeric value type =>
    rw [hkind] at h
    dsimp only at h
    split at h
    · cases h
    · cases h
      rfl
  | string => rw [hkind] at h; cases h; rfl
  | boolean value => rw [hkind] at h; cases h; rfl
  | date moment => rw [hkind] at h; cases h; rfl
  | octets octets notatedIn => rw [hkind] at h; cases h; rfl

/-- Only the undefined number means nothing. -/
theorem meaning?_eq_none_iff : a.meaning? = none ↔ a.Undefined := by
  unfold meaning? Undefined
  cases hkind : a.kind with
  | numeric value type =>
    dsimp only
    cases hnan : value.isNaN with
    | true => exact iff_of_true rfl ⟨value, type, rfl, hnan⟩
    | false =>
      refine iff_of_false (fun h => nomatch h) ?_
      rintro ⟨value', type', h, hnan'⟩
      cases h
      exact absurd (hnan.symm.trans hnan') (by decide)
  | string => exact iff_of_false (fun h => nomatch h) fun ⟨_, _, h, _⟩ => nomatch h
  | boolean value => exact iff_of_false (fun h => nomatch h) fun ⟨_, _, h, _⟩ => nomatch h
  | date moment => exact iff_of_false (fun h => nomatch h) fun ⟨_, _, h, _⟩ => nomatch h
  | octets octets notatedIn =>
    exact iff_of_false (fun h => nomatch h) fun ⟨_, _, h, _⟩ => nomatch h

/-- A computed number is undefined if its value is. -/
theorem undefined_numeric_iff {value : Float} {type : NumericType} :
    (numeric value type).Undefined ↔ value.isNaN = true := by
  constructor
  · rintro ⟨_, _, hkind, hnan⟩
    cases hkind
    exact hnan
  · exact fun hnan => ⟨value, type, rfl, hnan⟩

/-- Two things that mean something mean the same if their meanings are equal. -/
theorem exists_some_iff {u v : Meaning} :
    (∃ meaning, some u = some meaning ∧ some v = some meaning) ↔ u = v := by
  constructor
  · rintro ⟨meaning, hu, hv⟩
    exact Option.some.inj (hu.trans hv.symm)
  · rintro rfl
    exact ⟨u, rfl, rfl⟩

/-- Numbers are equal if they mean the same. -/
theorem beq_iff_meaning {x y : Float} : (x == y) = true ↔ ∃ meaning,
    (if x.isNaN then none else some (Meaning.numeric (Decimal.place x))) = some meaning ∧
      (if y.isNaN then none else some (Meaning.numeric (Decimal.place y))) = some meaning := by
  rw [Decimal.beq_iff]
  by_cases h : Decimal.BothDefined x y
  · rw [h.1, h.2, if_neg Bool.false_ne_true, if_neg Bool.false_ne_true, exists_some_iff,
      Meaning.numeric.injEq]
    exact and_iff_right h
  · refine iff_of_false (fun hboth => h hboth.1) ?_
    rintro ⟨meaning, hx, hy⟩
    rcases Decimal.isNaN_of_not_bothDefined h with hnan | hnan
    · rw [hnan] at hx
      cases hx
    · rw [hnan] at hy
      cases hy

/-- Literals of one genus are equal if they mean the same. -/
theorem equal_iff_of_genus_eq (h : a.kind.genus = b.kind.genus) :
    a.equal b = true ↔ ∃ meaning, a.meaning? = some meaning ∧ b.meaning? = some meaning := by
  have hkinds := LiteralKind.sameGenus_of_genus_eq h
  unfold equal meaning?
  generalize a.kind = kind at hkinds ⊢
  generalize b.kind = kind' at hkinds ⊢
  cases hkinds with
  | numeric x s y t => exact beq_iff_meaning
  | string =>
    refine Iff.trans ?_ exists_some_iff.symm
    simp [and_assoc]
  | boolean x y =>
    refine Iff.trans ?_ exists_some_iff.symm
    simp
  | date x y =>
    refine Iff.trans ?_ exists_some_iff.symm
    simp [Calendar.Moment.sameTime]
  | octets x s y t =>
    refine Iff.trans ?_ exists_some_iff.symm
    simp

/-- Literals of different genera are equal if their RDF texts are. -/
theorem equal_of_genus_ne (h : a.kind.genus ≠ b.kind.genus) : a.equal b = (a.rdf == b.rdf) := by
  unfold equal
  split
  · next ha hb => exact absurd (by rw [ha, hb]; rfl) h
  · next ha hb => exact absurd (by rw [ha, hb]) h
  · next ha hb => exact absurd (by rw [ha, hb]; rfl) h
  · next ha hb => exact absurd (by rw [ha, hb]; rfl) h
  · next ha hb => exact absurd (by rw [ha, hb]; rfl) h
  · rfl

end Literal

namespace Term

/-- What a term means. -/
def meaning? : Term → Option Meaning
  | iri i => some (.iri i)
  | var v => some (.var v)
  | literal l => l.meaning?

/-- That a term is the undefined number. -/
def Undefined : Term → Prop
  | literal l => l.Undefined
  | _ => False

/-- What a term means is of the genus of the term. -/
theorem genus_of_meaning? {t : Term} {meaning : Meaning} (h : t.meaning? = some meaning) :
    meaning.genus = t.genus := by
  cases t with
  | iri i => cases h; rfl
  | var v => cases h; rfl
  | literal l => exact Literal.genus_of_meaning? h

/-- Only the undefined number has no meaning. -/
theorem meaning?_eq_none_iff {t : Term} : t.meaning? = none ↔ t.Undefined := by
  cases t with
  | iri i => exact iff_of_false (fun h => nomatch h) fun h => h
  | var v => exact iff_of_false (fun h => nomatch h) fun h => h
  | literal l => exact Literal.meaning?_eq_none_iff

variable {a b : Term}

/-- Terms of one genus are equal if they mean the same. -/
theorem equal_iff_of_genus_eq (h : a.genus = b.genus) :
    a.equal b = true ↔ ∃ meaning, a.meaning? = some meaning ∧ b.meaning? = some meaning := by
  cases sameForm_of_genus_eq h with
  | iri i j =>
    refine Iff.trans ?_ Literal.exists_some_iff.symm
    simp [equal]
  | var v w =>
    refine Iff.trans ?_ Literal.exists_some_iff.symm
    simp [equal]
  | literal l m => exact Literal.equal_iff_of_genus_eq h

/-- Terms of different genera are equal if their RDF texts are. -/
theorem equal_of_genus_ne (h : a.genus ≠ b.genus) : a.equal b = (a.rdf == b.rdf) := by
  unfold equal
  split
  · exact absurd rfl h
  · exact absurd rfl h
  · exact Literal.equal_of_genus_ne h
  · rfl

/-- Equality of two terms does not depend on their order. -/
theorem equal_comm (a b : Term) : a.equal b = b.equal a := by
  by_cases h : a.genus = b.genus
  · rw [Bool.eq_iff_iff, equal_iff_of_genus_eq h, equal_iff_of_genus_eq h.symm]
    simp only [and_comm]
  · have h' : b.genus ≠ a.genus := fun e => h e.symm
    rw [equal_of_genus_ne h, equal_of_genus_ne h', BEq.comm]

/-- A term is equal to itself unless it is the undefined number. -/
theorem equal_self_iff : a.equal a = true ↔ ¬ a.Undefined := by
  rw [equal_iff_of_genus_eq rfl, ← meaning?_eq_none_iff, ← ne_eq, Option.ne_none_iff_exists']
  simp only [and_self]

/-- **Equal terms are those that mean the same.** -/
theorem equal_iff (ha : a.Constructed) (hb : b.Constructed) :
    a.equal b = true ↔ ∃ meaning, a.meaning? = some meaning ∧ b.meaning? = some meaning := by
  by_cases h : a.genus = b.genus
  · exact equal_iff_of_genus_eq h
  · rw [equal_of_genus_ne h, beq_iff_eq]
    refine iff_of_false (rdf_ne_of_genus_ne ha hb h) ?_
    rintro ⟨meaning, ha, hb⟩
    exact h ((genus_of_meaning? ha).symm.trans (genus_of_meaning? hb))

/-- **Equality of terms is an equivalence that keeps to one genus**: it is symmetric and transitive,
all terms but the undefined number are equal to themselves, and IRIs, variables and the five kinds
of literals are never equal to each other, whatever their texts. -/
theorem equal_equivalence :
    (∀ a b : Term, a.Constructed → b.Constructed → a.equal b = b.equal a) ∧
    (∀ a b c : Term, a.Constructed → b.Constructed → c.Constructed →
      a.equal b = true → b.equal c = true → a.equal c = true) ∧
    (∀ a : Term, a.Constructed → (a.equal a = true ↔ ¬ a.Undefined)) ∧
    ∀ a b : Term, a.Constructed → b.Constructed → a.genus ≠ b.genus → a.equal b = false := by
  refine ⟨fun a b ha hb => ?_, fun a b c ha hb hc hab hbc => ?_, fun a ha => ?_,
    fun a b ha hb hgenus => ?_⟩
  · rw [Bool.eq_iff_iff, equal_iff ha hb, equal_iff hb ha]
    simp only [and_comm]
  · obtain ⟨meaning, ha', hb'⟩ := (equal_iff ha hb).1 hab
    obtain ⟨meaning', hb'', hc'⟩ := (equal_iff hb hc).1 hbc
    cases hb'.symm.trans hb''
    exact (equal_iff ha hc).2 ⟨meaning, ha', hc'⟩
  · rw [equal_iff ha ha, ← meaning?_eq_none_iff, ← ne_eq, Option.ne_none_iff_exists']
    simp only [and_self]
  · rw [equal_of_genus_ne hgenus, beq_eq_false_iff_ne]
    exact rdf_ne_of_genus_ne ha hb hgenus

/-- Zero equals the negative zero of another class and not the string zero, and the undefined number
does not equal itself. -/
theorem equal_equivalence_zero :
    (literal (.numeric 0 .integer)).equal (literal (.numeric (-0) .double)) = true ∧
      (literal (.numeric (-0) .double)).equal (literal (.numeric 0 .integer)) = true ∧
      (literal (.plain "0")).equal (literal (.numeric 0 .integer)) = false ∧
      ¬ (literal (.numeric Decimal.undefined .double)).equal
        (literal (.numeric Decimal.undefined .double)) = true := by
  obtain ⟨hsymm, -, hrefl, hgenus⟩ := equal_equivalence
  have hzero : (literal (.numeric 0 .integer)).Constructed := .literal (.numeric _ _)
  have hnegative : (literal (.numeric (-0) .double)).Constructed := .literal (.numeric _ _)
  have hequal : (literal (.numeric 0 .integer)).equal (literal (.numeric (-0) .double)) = true := by
    decide +kernel
  refine ⟨hequal, (hsymm _ _ hzero hnegative) ▸ hequal, ?_, fun hself => ?_⟩
  · refine hgenus _ _ (.literal (.built (.plain "0"))) hzero ?_
    show Genus.string ≠ Genus.numeric
    decide
  · exact (hrefl _ (.literal (.numeric _ _))).1 hself ⟨_, _, rfl, by decide +kernel⟩

end Term

end SolutionAlgebra
