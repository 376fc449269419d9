import SolutionAlgebra.Entries
import SolutionAlgebra.Text.Basic
import SolutionAlgebra.Text.CodePoints
import SolutionAlgebra.Vocabulary

/-! # Prefixes of IRIs

A table from short names to namespaces. A prefixed name `p:l` expands to the namespace of `p`
followed by `l`; an IRI compacts by the longest namespace it starts with. -/

namespace SolutionAlgebra

/-- Why a prefixed name does not expand. -/
inductive PrefixFault where
  /-- The prefix is not in the table. -/
  | unknown (name : String)
  /-- There is no colon. -/
  | noColon (text : String)
deriving DecidableEq, Repr

/-- The text of a fault. -/
def PrefixFault.message : PrefixFault → String
  | unknown name => "Unknown prefix: " ++ name
  | noColon text => "Invalid IRI: " ++ text

/-- Short names for namespaces. -/
structure Prefixes where
  /-- Each short name with its namespace, in the order they were added. -/
  entries : List (String × String)
deriving DecidableEq, Repr

namespace Prefixes

/-- The table in which a short name stands for a namespace. -/
def add (table : Prefixes) (name space : String) : Prefixes :=
  ⟨Entries.set name space table.entries⟩

/-- The short names that every table starts with. -/
def common : Prefixes := ⟨[
  ("rdf", Vocabulary.syntaxTerms),
  ("rdfs", "http://www.w3.org/2000/01/rdf-schema#"),
  ("xsd", Vocabulary.schema),
  ("owl", "http://www.w3.org/2002/07/owl#"),
  ("foaf", "http://xmlns.com/foaf/0.1/"),
  ("dc", "http://purl.org/dc/elements/1.1/"),
  ("dcterms", "http://purl.org/dc/terms/")]⟩

/-- The namespace of a short name. -/
def find? (table : Prefixes) (name : String) : Option String := table.entries.lookup name

/-- The number of short names. -/
def size (table : Prefixes) : Nat := table.entries.length

/-- The text that a prefixed name stands for. -/
def expand (table : Prefixes) (text : String) : Except PrefixFault String :=
  match Text.cutAt? ':' text.toList with
  | none => .error (.noColon text)
  | some (name, rest) =>
    match table.find? (String.ofList name) with
    | none => .error (.unknown (String.ofList name))
    | some space => .ok (space ++ String.ofList rest)

/-- The entry whose namespace is the longest that a text starts with, and the rest of the text. -/
def longest? (cs : List Char) : List (String × String) → Option (String × String × List Char)
  | [] => none
  | (name, space) :: entries =>
    match Text.dropStart? space.toList cs, longest? cs entries with
    | none, best => best
    | some rest, none => some (name, space, rest)
    | some rest, some best =>
      if best.2.1.utf8ByteSize < space.utf8ByteSize then some (name, space, rest) else some best

/-- The prefixed name of an IRI, if it starts with a namespace of the table. -/
def compact? (table : Prefixes) (iri : String) : Option String :=
  (longest? iri.toList table.entries).map fun (name, _, rest) =>
    name ++ ":" ++ String.ofList rest

end Prefixes

end SolutionAlgebra
