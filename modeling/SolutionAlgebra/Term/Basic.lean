import SolutionAlgebra.Literal.Operations
import SolutionAlgebra.Term.Variable

/-! # Terms

A term is an IRI, a variable or a literal. Literals are compared among themselves by value; all
other terms are compared by their RDF texts. -/

namespace SolutionAlgebra

/-- An RDF term or a variable. -/
inductive Term where
  /-- An IRI. -/
  | iri (iri : Iri)
  /-- A variable or the label of a blank node. -/
  | var (v : Variable)
  /-- A literal. -/
  | literal (l : Literal)
deriving DecidableEq

namespace Term

/-- The RDF text of a term. -/
def rdf : Term → String
  | iri i => "<" ++ i.text ++ ">"
  | var v => v.text
  | literal l => l.rdf

/-- The bare text of a term: of an IRI, the name of a variable, the lexical form of a literal. -/
def bareText : Term → String
  | iri i => i.text
  | var v => v.name
  | literal l => l.lexical

/-- The literal that a term is. -/
def literal? : Term → Option Literal
  | literal l => some l
  | _ => none

/-- Whether a term is a number. -/
def isNumeric (t : Term) : Bool := t.literal?.any Literal.isNumeric

/-- The effective boolean value, which only literals may have. -/
def effectiveTruth? (t : Term) : Option Bool := t.literal?.bind Literal.effectiveTruth?

/-- Whether two terms are equal in value. -/
def equal : Term → Term → Bool
  | iri a, iri b => a = b
  | var a, var b => a = b
  | literal a, literal b => a.equal b
  | a, b => a.rdf == b.rdf

/-- The order of two terms. -/
def order : Term → Term → Ordering
  | literal a, literal b => a.order b
  | a, b => compare a.rdf b.rdf

end Term

end SolutionAlgebra
