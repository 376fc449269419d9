import SolutionAlgebra.Expression.Json
import SolutionAlgebra.Proofs.Json.ReadBack

/-! # Expressions read back

The JSON text of an expression reads back as the expression. A leaf, a list and a node are told
apart by the form of their values, the nodes by their kinds, and a list of arguments is read as such
although it may be taken for a list of leaves. Only a text in which more arrays and objects lie one
in another than may be open at once is not read.

* **`Expression.ofJson?_toJson`** — the JSON value of an expression is the expression.
* **`Expression.read?_text_toJson`** — the JSON text of an expression reads back. -/

namespace SolutionAlgebra.Expression

/-- What holds of all leaves and lists, of an operation or call if it holds of its arguments, and of
an aggregate if it holds of its target, holds of every expression. -/
@[elab_as_elim]
theorem memInduction {P : Expression → Prop} (term : ∀ text, P (.term text))
    (list : ∀ texts, P (.list texts))
    (operation : ∀ operator args, (∀ arg ∈ args, P arg) → P (.operation operator args))
    (aggregate : ∀ aggregation target distinct separator, P target →
      P (.aggregate aggregation target distinct separator))
    (call : ∀ function args, (∀ arg ∈ args, P arg) → P (.call function args)) (e : Expression) :
    P e := by
  refine @Expression.rec P (fun args => ∀ arg ∈ args, P arg) term list operation aggregate call
    ?_ ?_ e
  · exact List.forall_mem_nil _
  · exact fun arg args harg hargs => List.forall_mem_cons.2 ⟨harg, hargs⟩

/-- Several expressions as JSON are each of them as JSON. -/
theorem toJsonAll_eq_map (es : List Expression) : toJsonAll es = es.map toJson := by
  induction es with
  | nil => rw [toJsonAll, List.map_nil]
  | cons e es ih => rw [toJsonAll, ih, List.map_cons]

/-! ## Values -/

/-- The texts of an array of strings. -/
theorem texts?_map_string (texts : List String) : Json.texts? (texts.map .string) = some texts := by
  induction texts with
  | nil => rfl
  | cons text texts ih =>
      rw [Json.texts?] at ih ⊢
      rw [List.map_cons, List.mapM_cons, ih]
      rfl

/-- An array of the values of expressions is the list of the expressions. -/
theorem expressions_array {es : List Expression} (h : ∀ e ∈ es, ofJson? e.toJson = some e) :
    (reading (.array (toJsonAll es))).expressions = some es := by
  rw [reading]
  dsimp only
  induction es with
  | nil => rfl
  | cons e es ih =>
      rw [toJsonAll, readingAll, List.mapM_cons, ih fun e he => h e (List.mem_cons_of_mem _ he)]
      have he : (reading e.toJson).expression = some e := h e List.mem_cons_self
      rw [he]
      rfl

/-- The name of a kind is the kind. -/
theorem kind?_name (kind : NodeKind) (expression : Option Expression)
    (expressions : Option (List Expression)) :
    (Reading.mk (.string kind.name) expression expressions).kind? = some kind := by
  cases kind <;> rfl

/-- The members of an operation are the operation. -/
theorem ofMembers?_operation {operator : String} {args : List Expression} {r : Reading}
    (hargs : r.expressions = some args) :
    ofMembers? [("type", reading (.string NodeKind.operation.name)),
      ("operator", reading (.string operator)), ("args", r)] = some (operation operator args) := by
  simp [ofMembers?, field?, kind?_name, reading, Reading.text?, Json.text?, hargs]

/-- The members of a call are the call. -/
theorem ofMembers?_call {function : String} {args : List Expression} {r : Reading}
    (hargs : r.expressions = some args) :
    ofMembers? [("type", reading (.string NodeKind.call.name)),
      ("function", reading (.string function)), ("args", r)] = some (call function args) := by
  simp [ofMembers?, field?, kind?_name, reading, Reading.text?, Json.text?, hargs]

/-- The members of an aggregate are the aggregate, with and without a separator. -/
theorem ofMembers?_aggregate {aggregation : String} {target : Expression} {r : Reading}
    (htarget : r.expression = some target) (distinct : Bool) (separator : Option String) :
    ofMembers? ([("type", reading (.string NodeKind.aggregate.name)),
      ("aggregation", reading (.string aggregation)), ("expression", r),
      ("distinct", reading (.bool distinct))] ++ readingMembers (separatorField separator)) =
        some (aggregate aggregation target distinct separator) := by
  cases separator <;>
    simp [ofMembers?, field?, optionalField?, kind?_name, separatorField, readingMembers, reading,
      aggregateOf?, Reading.text?, Json.text?, Reading.truth?, Reading.separator?, htarget]

/-- **The JSON value of an expression is the expression.** -/
theorem ofJson?_toJson (e : Expression) : ofJson? e.toJson = some e := by
  induction e using memInduction with
  | term text => rw [toJson, ofJson?, reading]
  | list texts =>
      rw [toJson, ofJson?, reading]
      dsimp only
      rw [ofArray?, texts?_map_string]
  | operation operator args ih =>
      rw [toJson, ofJson?, nodeJson, reading]
      exact ofMembers?_operation (expressions_array ih)
  | aggregate aggregation target distinct separator ih =>
      rw [toJson, ofJson?, nodeJson, reading]
      exact ofMembers?_aggregate ih distinct separator
  | call function args ih =>
      rw [toJson, ofJson?, nodeJson, reading]
      exact ofMembers?_call (expressions_array ih)

/-! ## Texts -/

/-- The numbers of a node are those of its fields, since its kind is a string. -/
theorem wellFormed_nodeJson {kind : NodeKind} {fields : List (String × Json)}
    (h : ∀ field ∈ fields, field.2.WellFormed) : (nodeJson kind fields).WellFormed :=
  Json.wellFormed_object (List.forall_mem_cons.2 ⟨Json.wellFormed_string _, h⟩)

/-- The numbers of an operation or call are those of its arguments. -/
theorem wellFormed_application {kind : NodeKind} {field name : String} {args : List Expression}
    (h : ∀ arg ∈ args, arg.toJson.WellFormed) :
    (nodeJson kind [(field, .string name), ("args", .array (toJsonAll args))]).WellFormed := by
  refine wellFormed_nodeJson ?_
  rw [List.forall_mem_cons, List.forall_mem_singleton, toJsonAll_eq_map]
  exact ⟨Json.wellFormed_string name, Json.wellFormed_array (List.forall_mem_map.2 h)⟩

/-- The JSON value of an expression has no numbers. -/
theorem wellFormed_toJson (e : Expression) : e.toJson.WellFormed := by
  induction e using memInduction with
  | term text =>
      rw [toJson]
      exact Json.wellFormed_string text
  | list texts =>
      rw [toJson]
      exact Json.wellFormed_array (List.forall_mem_map.2 fun text _ => Json.wellFormed_string text)
  | operation operator args ih =>
      rw [toJson]
      exact wellFormed_application ih
  | aggregate aggregation target distinct separator ih =>
      have hseparator : ∀ field ∈ separatorField separator, field.2.WellFormed := by
        cases separator with
        | none => exact List.forall_mem_nil _
        | some text => exact List.forall_mem_singleton.2 (Json.wellFormed_string text)
      rw [toJson]
      refine wellFormed_nodeJson ?_
      simp only [List.cons_append, List.nil_append, List.forall_mem_cons]
      exact ⟨Json.wellFormed_string aggregation, ih, Json.wellFormed_bool distinct, hseparator⟩
  | call function args ih =>
      rw [toJson]
      exact wellFormed_application ih

/-- **The JSON text of an expression reads back** as the expression, unless more arrays and objects
lie one in another than may be open at once. -/
theorem read?_text_toJson (e : Expression) :
    read? e.toJson.text = if e.toJson.depth ≤ Json.depthLimit then some e else none := by
  rw [read?, Json.read?_text (wellFormed_toJson e)]
  split
  · exact ofJson?_toJson e
  · rfl

end SolutionAlgebra.Expression
