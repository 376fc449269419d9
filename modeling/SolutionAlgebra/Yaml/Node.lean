import SolutionAlgebra.Yaml.Layout

/-! # Nodes

The tree that the tokens of a YAML text describe: scalars, and mappings from nodes to nodes. What is
missing is an empty plain scalar. A reference stands for the last node before it with its name. -/

namespace SolutionAlgebra.Yaml

/-- A node of a YAML text. -/
inductive Node where
  /-- A scalar, as it is written, with its tag. -/
  | scalar (text : List Char) (style : Style) (tag : Option (List Char))
  /-- A mapping. -/
  | mapping (entries : List (Node × Node))

namespace Node

/-- The node where nothing is written. -/
def missing : Node := scalar [] .plain none

/-- What reading a part of the tokens gives: the names so far, and the tokens that are left. -/
structure Read (α : Type) where
  /-- What has been read. -/
  value : α
  /-- The nodes that have names, last to first. -/
  names : List (List Char × Node)
  /-- The tokens that are left. -/
  rest : List Token

/-- The name and the tag of a node, if it has them. -/
structure Properties where
  /-- The name. -/
  name : Option (List Char) := none
  /-- The tag in full. -/
  tag : Option (List Char) := none

/-- Reads the name and the tag before a node, in any order. -/
def properties? (handles : List TagHandle) : List Token → Option (Properties × List Token)
  | .anchor name :: .tag tag :: rest
  | .tag tag :: .anchor name :: rest =>
    (tag.resolve? handles).map fun tag => (⟨some name, some tag⟩, rest)
  | .anchor name :: rest => some (⟨some name, none⟩, rest)
  | .tag tag :: rest => (tag.resolve? handles).map fun tag => (⟨none, some tag⟩, rest)
  | rest => some (⟨none, none⟩, rest)

/-- Whether nothing is written before a token that is in place of a key or value. -/
def isMissing : List Token → Bool
  | .key :: _ | .value :: _ | .blockEnd :: _ | .comma :: _ | .flowEnd :: _ => true
  | _ => false

mutual

/-- Reads a node. Between braces no mapping starts by layout. The first argument bounds the
tokens. -/
def read? (handles : List TagHandle) :
    Nat → Bool → List (List Char × Node) → List Token → Option (Read Node)
  | 0, _, _, _ => none
  | _ + 1, _, names, .reference name :: rest =>
    (names.lookup name).map fun node => ⟨node, names, rest⟩
  | steps + 1, inFlow, names, tokens => do
    let (properties, rest) ← properties? handles tokens
    let node : Read Node ← match rest with
      | .scalar text style :: rest => some ⟨scalar text style properties.tag, names, rest⟩
      | .flowStart :: rest =>
        (flowEntries? handles steps true names rest).map fun r =>
          { r with value := mapping r.value }
      | .blockStart :: rest =>
        if inFlow then none
        else (blockEntries? handles steps names rest).map fun r =>
          { r with value := mapping r.value }
      | rest =>
        if properties.name.isSome || properties.tag.isSome then
          some ⟨scalar [] .plain properties.tag, names, rest⟩
        else none
    match properties.name with
    | some name => return { node with names := (name, node.value) :: node.names }
    | none => return node

/-- Reads a node where it may be missing. -/
def readOrMissing? (handles : List TagHandle) :
    Nat → Bool → List (List Char × Node) → List Token → Option (Read Node)
  | 0, _, _, _ => none
  | steps + 1, inFlow, names, tokens =>
    if isMissing tokens then some ⟨missing, names, tokens⟩
    else read? handles steps inFlow names tokens

/-- Reads the entries of a mapping by layout, up to its end. -/
def blockEntries? (handles : List TagHandle) :
    Nat → List (List Char × Node) → List Token → Option (Read (List (Node × Node)))
  | 0, _, _ => none
  | _ + 1, names, .blockEnd :: rest => some ⟨[], names, rest⟩
  | steps + 1, names, tokens => do
    let key : Read Node ← match tokens with
      | .key :: rest => readOrMissing? handles steps false names rest
      | _ => none
    let value : Read Node ← match key.rest with
      | .value :: rest => readOrMissing? handles steps false key.names rest
      | rest => some ⟨missing, key.names, rest⟩
    let more ← blockEntries? handles steps value.names value.rest
    return { more with value := (key.value, value.value) :: more.value }

/-- Reads the entries of a mapping in braces, up to its end. Commas stand between them, and one may
stand after the last. -/
def flowEntries? (handles : List TagHandle) :
    Nat → Bool → List (List Char × Node) → List Token → Option (Read (List (Node × Node)))
  | 0, _, _, _ => none
  | _ + 1, _, names, .flowEnd :: rest => some ⟨[], names, rest⟩
  | steps + 1, isFirst, names, tokens => do
    let tokens ← if isFirst then some tokens
      else match tokens with
        | .comma :: rest => some rest
        | _ => none
    match tokens with
    | .flowEnd :: rest => return ⟨[], names, rest⟩
    | _ =>
      let (key, value) : Node × Read Node ← match tokens with
        | .key :: rest => do
          let key ← readOrMissing? handles steps true names rest
          match key.rest with
          | .value :: rest =>
            let value ← readOrMissing? handles steps true key.names rest
            some (key.value, value)
          | rest => some (key.value, ⟨missing, key.names, rest⟩)
        | _ => (read? handles steps true names tokens).map fun key =>
          (key.value, { key with value := missing })
      let more ← flowEntries? handles steps false value.names value.rest
      return { more with value := (key, value.value) :: more.value }

end

/-! ## Documents -/

/-- Reads the directives at the start of a document: the handles they declare, whether there are
any, and the rest. Nothing may be declared twice. -/
def directives? (hasVersion : Bool) (handles : List TagHandle) :
    List Token → Option (List TagHandle × Bool × List Token)
  | .directive .version :: rest => if hasVersion then none else directives? true handles rest
  | .directive (.handle handle) :: rest =>
    if handles.any (·.handle == handle.handle) then none
    else directives? hasVersion (handles ++ [handle]) rest
  | rest => some (handles ++ standardHandles, hasVersion || !handles.isEmpty, rest)

/-- Whether a document has ended before a token. -/
def isDocumentOver : List Token → Bool
  | [] | .directive _ :: _ | .documentStart :: _ | .documentEnd :: _ => true
  | _ => false

/-- Reads the node of a document that has started. -/
def content? (handles : List TagHandle) (tokens : List Token) : Option (Node × List Token) :=
  (read? handles (3 * tokens.length + 3) false [] tokens).map fun r => (r.value, r.rest)

/-- Reads the document that tokens make up, of which there is one at most. Directives come before a
mark of its start only. -/
def ofTokens? (tokens : List Token) : Option (Option Node) := do
  let (handles, hasDirectives, rest) ← directives? false [] tokens
  match rest, hasDirectives with
  | [], false => return none
  | _, _ =>
    let (node, rest) ← match rest with
      | .documentStart :: rest =>
        if isDocumentOver rest then some (missing, rest) else content? handles rest
      | rest => if hasDirectives then none else content? handles rest
    if rest.all (· == .documentEnd) then return some node else none

/-- Reads the document that a text holds, if it holds one. -/
def ofText? (cs : List Char) : Option (Option Node) := (tokens? cs).bind ofTokens?

end Node

end SolutionAlgebra.Yaml
