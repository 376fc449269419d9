import SolutionAlgebra.Iri

/-! # Vocabulary

The IRIs of the datatypes that literals know: those of XML Schema, and the type of strings with a
language. -/

namespace SolutionAlgebra.Vocabulary

/-- The namespace of XML Schema datatypes. -/
def schema : String := "http://www.w3.org/2001/XMLSchema#"

/-- The namespace of the RDF vocabulary. -/
def syntaxTerms : String := "http://www.w3.org/1999/02/22-rdf-syntax-ns#"

/-- The datatype of plain strings. -/
def string : Iri := ⟨"http://www.w3.org/2001/XMLSchema#string"⟩

/-- The datatype of strings with a language. -/
def langString : Iri := ⟨"http://www.w3.org/1999/02/22-rdf-syntax-ns#langString"⟩

/-- The datatype of truth values. -/
def boolean : Iri := ⟨"http://www.w3.org/2001/XMLSchema#boolean"⟩

/-- The datatype of whole numbers. -/
def integer : Iri := ⟨"http://www.w3.org/2001/XMLSchema#integer"⟩

/-- The datatype of decimal fractions. -/
def decimal : Iri := ⟨"http://www.w3.org/2001/XMLSchema#decimal"⟩

/-- The datatype of single-precision numbers. -/
def float : Iri := ⟨"http://www.w3.org/2001/XMLSchema#float"⟩

/-- The datatype of double-precision numbers. -/
def double : Iri := ⟨"http://www.w3.org/2001/XMLSchema#double"⟩

/-- The datatypes derived from whole numbers. -/
def derivedIntegers : List Iri :=
  ["byte", "short", "int", "long", "unsignedByte", "unsignedShort", "unsignedInt", "unsignedLong",
    "positiveInteger", "negativeInteger", "nonPositiveInteger", "nonNegativeInteger"].map
    fun name => ⟨"http://www.w3.org/2001/XMLSchema#" ++ name⟩

/-- The datatype of points in time. -/
def dateTime : Iri := ⟨"http://www.w3.org/2001/XMLSchema#dateTime"⟩

/-- The datatype of points in time with an offset. -/
def dateTimeStamp : Iri := ⟨"http://www.w3.org/2001/XMLSchema#dateTimeStamp"⟩

/-- The datatype of dates. -/
def date : Iri := ⟨"http://www.w3.org/2001/XMLSchema#date"⟩

/-- The datatype of times of day. -/
def time : Iri := ⟨"http://www.w3.org/2001/XMLSchema#time"⟩

/-- The datatype of durations. -/
def duration : Iri := ⟨"http://www.w3.org/2001/XMLSchema#duration"⟩

/-- The datatype of octets in hexadecimal. -/
def hexBinary : Iri := ⟨"http://www.w3.org/2001/XMLSchema#hexBinary"⟩

/-- The datatype of octets in base 64. -/
def base64Binary : Iri := ⟨"http://www.w3.org/2001/XMLSchema#base64Binary"⟩

end SolutionAlgebra.Vocabulary
