import SolutionAlgebra.Json
import SolutionAlgebra.Proofs.Json.Tokens

/-! # Values read back

The text of a value reads back as the value, unless more arrays and objects lie one in another than
may be open at once; then it is not read at all.

* **`Json.depth`** — how many arrays and objects lie one in another.
* **`Json.tokens?_text`** — the text of a value reads back as its tokens.
* **`Json.assembles`** — the tokens of a value make the value.
* **`Json.read?_text`** — the text of a value reads back. -/

namespace SolutionAlgebra.Json

/-! ## Values in values -/

/-- What holds of an array if it holds of its items, of an object if it holds of the values of its
members, and of all other values, holds of every value. -/
@[elab_as_elim]
theorem memInduction {P : Json → Prop} (null : P .null) (bool : ∀ value, P (.bool value))
    (number : ∀ text, P (.number text)) (string : ∀ text, P (.string text))
    (array : ∀ items, (∀ item ∈ items, P item) → P (.array items))
    (object : ∀ members, (∀ member ∈ members, P member.2) → P (.object members)) (v : Json) :
    P v := by
  -- beside the values, the recursion goes through lists of items, lists of members and members
  refine @Json.rec P (fun items => ∀ item ∈ items, P item)
    (fun members => ∀ member ∈ members, P member.2) (fun member => P member.2)
    null bool number string array object ?_ ?_ ?_ ?_ ?_ v
  · exact List.forall_mem_nil _
  · exact fun item items hitem hitems => List.forall_mem_cons.2 ⟨hitem, hitems⟩
  · exact List.forall_mem_nil _
  · exact fun member members hmember hmembers => List.forall_mem_cons.2 ⟨hmember, hmembers⟩
  · exact fun name value hvalue => hvalue

mutual

/-- How many arrays and objects of a value lie one in another at most. -/
def depth : Json → ℕ
  | null => 0
  | bool _ => 0
  | number _ => 0
  | string _ => 0
  | array items => 1 + itemsDepth items
  | object members => 1 + membersDepth members

/-- How many arrays and objects of items lie one in another at most. -/
def itemsDepth : List Json → ℕ
  | [] => 0
  | item :: items => max (depth item) (itemsDepth items)

/-- How many arrays and objects of the values of members lie one in another at most. -/
def membersDepth : List (String × Json) → ℕ
  | [] => 0
  | (_, value) :: members => max (depth value) (membersDepth members)

end

/-! ## Tokens of a value -/

/-- Sequences with commas between them are the first, and the others with a comma before each. -/
theorem separated_cons (ts : List Token) (rest : List (List Token)) :
    separated (ts :: rest) = ts ++ rest.flatMap (.comma :: ·) := by
  induction rest generalizing ts with
  | nil => simp [separated]
  | cons us rest ih => rw [separated, ih, List.flatMap_cons, List.cons_append]; simp

/-- After a token that is no number or word, any token may come. -/
theorem isChain_apart_cons {t : Token} {ts : List Token} (ht : t.isRun = false) :
    (t :: ts).IsChain Token.Apart ↔ ts.IsChain Token.Apart := by
  rw [List.isChain_cons]
  exact and_iff_right fun u _ hrun => absurd (ht.symm.trans hrun) (by decide)

/-- Before a token that is no number or word, any token may come. -/
theorem isChain_apart_append_cons {t : Token} {ts us : List Token} (ht : t.isRun = false) :
    (ts ++ t :: us).IsChain Token.Apart ↔ ts.IsChain Token.Apart ∧ us.IsChain Token.Apart := by
  rw [List.isChain_append, isChain_apart_cons ht]
  refine and_congr_right fun _ => and_iff_left fun u _ v hv _ => ?_
  obtain rfl := Option.mem_some.1 hv
  exact ht

/-- Sequences with commas between them keep numbers and words apart. -/
theorem isChain_separated {tss : List (List Token)}
    (h : ∀ ts ∈ tss, ts.IsChain Token.Apart) : (separated tss).IsChain Token.Apart := by
  induction tss using separated.induct with
  | case1 => exact .nil
  | case2 ts => exact h ts List.mem_cons_self
  | case3 ts rest hrest ih =>
      rw [separated, isChain_apart_append_cons rfl]
      · exact ⟨h ts List.mem_cons_self, ih fun us hus => h us (List.mem_cons_of_mem ts hus)⟩
      · exact hrest

/-- The tokens of items are the tokens of each. -/
theorem itemTokens_eq_map (items : List Json) : itemTokens items = items.map tokens := by
  induction items with
  | nil => rw [itemTokens, List.map_nil]
  | cons item items ih => rw [itemTokens, ih, List.map_cons]

/-- The tokens of members are the name, a colon and the tokens of the value of each. -/
theorem memberTokens_eq_map (members : List (String × Json)) :
    memberTokens members =
      members.map fun member => .string member.1 :: .colon :: tokens member.2 := by
  induction members with
  | nil => rw [memberTokens, List.map_nil]
  | cons member members ih => rw [memberTokens, ih, List.map_cons]

/-- The tokens of a value keep numbers and words apart. -/
theorem isChain_tokens (v : Json) : (tokens v).IsChain Token.Apart := by
  induction v using memInduction with
  | array items ih =>
      rw [tokens, List.cons_append, isChain_apart_cons rfl, isChain_apart_append_cons rfl,
        itemTokens_eq_map]
      exact ⟨isChain_separated (List.forall_mem_map.2 ih), .nil⟩
  | object members ih =>
      rw [tokens, List.cons_append, isChain_apart_cons rfl, isChain_apart_append_cons rfl,
        memberTokens_eq_map]
      refine ⟨isChain_separated (List.forall_mem_map.2 fun member hmember => ?_), .nil⟩
      rw [isChain_apart_cons rfl, isChain_apart_cons rfl]
      exact ih member hmember
  | _ => rw [tokens]; exact .singleton _

/-- That the numbers of a value have the form of numbers. -/
def WellFormed (v : Json) : Prop := ∀ t ∈ tokens v, t.WellFormed

/-- A string has no numbers. -/
theorem wellFormed_string (text : String) : (string text).WellFormed := by
  rw [WellFormed, tokens, List.forall_mem_singleton]
  exact trivial

/-- A truth value has no numbers. -/
theorem wellFormed_bool (value : Bool) : (bool value).WellFormed := by
  rw [WellFormed, tokens, List.forall_mem_singleton]
  cases value
  · exact .inr (.inl rfl)
  · exact .inl rfl

/-- A comma is well-formed, and so are sequences with commas between them if each of them is. -/
theorem wellFormed_separated {tss : List (List Token)}
    (h : ∀ ts ∈ tss, ∀ t ∈ ts, t.WellFormed) : ∀ t ∈ separated tss, t.WellFormed := by
  induction tss using separated.induct with
  | case1 => exact List.forall_mem_nil _
  | case2 ts => exact h ts List.mem_cons_self
  | case3 ts rest hrest ih =>
      rw [separated, List.forall_mem_append, List.forall_mem_cons]
      · exact ⟨h ts List.mem_cons_self, trivial,
          ih fun us hus => h us (List.mem_cons_of_mem ts hus)⟩
      · exact hrest

/-- The numbers of an array are those of its items. -/
theorem wellFormed_array {items : List Json} (h : ∀ item ∈ items, item.WellFormed) :
    (array items).WellFormed := by
  rw [WellFormed, tokens, List.cons_append, List.forall_mem_cons, List.forall_mem_append,
    List.forall_mem_singleton, itemTokens_eq_map]
  exact ⟨trivial, wellFormed_separated (List.forall_mem_map.2 h), trivial⟩

/-- The numbers of an object are those of the values of its members. -/
theorem wellFormed_object {members : List (String × Json)}
    (h : ∀ member ∈ members, member.2.WellFormed) : (object members).WellFormed := by
  rw [WellFormed, tokens, List.cons_append, List.forall_mem_cons, List.forall_mem_append,
    List.forall_mem_singleton, memberTokens_eq_map]
  refine ⟨trivial, wellFormed_separated (List.forall_mem_map.2 fun member hmember => ?_), trivial⟩
  rw [List.forall_mem_cons, List.forall_mem_cons]
  exact ⟨trivial, trivial, h member hmember⟩

/-- **The text of a value reads back as its tokens**, if its numbers have the form of numbers. -/
theorem tokens?_text {v : Json} (hv : v.WellFormed) :
    tokens? v.text.toList = some (tokens v) := by
  rw [text, String.toList_ofList]
  exact tokens?_flatMap_chars hv (isChain_tokens v)

/-! ## Values of tokens -/

/-- The value that tokens make after another value. -/
def resume (v : Json) (open_ : List Frame) (rest : List Token) : Option Json :=
  assemble? (afterValue v open_).1 (afterValue v open_).2 rest

/-- The first item of an array is read like a further one, since no value begins with the end of the
array. -/
theorem assemble?_firstItem (v : Json) (open_ : List Frame) (rest : List Token) :
    assemble? .firstItem open_ (tokens v ++ rest) =
      assemble? (.moreItems []) open_ (.comma :: (tokens v ++ rest)) := by
  cases v <;> rw [tokens] <;> rfl

/-- An array is opened if another one may be open. -/
theorem assemble?_openArray (open_ : List Frame) (ts : List Token) :
    assemble? .value open_ (.openArray :: ts) =
      if open_.length < depthLimit then assemble? .firstItem open_ ts else none := by
  rw [assemble?, accept?, startValue?]
  split <;> rfl

/-- An object is opened if another one may be open. -/
theorem assemble?_openObject (open_ : List Frame) (ts : List Token) :
    assemble? .value open_ (.openObject :: ts) =
      if open_.length < depthLimit then assemble? .firstName open_ ts else none := by
  rw [assemble?, accept?, startValue?]
  split <;> rfl

/-- That the tokens of a value make the value, unless too many arrays and objects would be open. -/
def Assembles (v : Json) : Prop :=
  ∀ (open_ : List Frame) (rest : List Token), open_.length ≤ depthLimit →
    assemble? .value open_ (tokens v ++ rest) =
      if open_.length + v.depth ≤ depthLimit then resume v open_ rest else none

variable {open_ : List Frame} (rest : List Token)

/-- The tokens of further items, with a comma before each, make an array of them. -/
theorem assemble?_items {items : List Json} (h : ∀ item ∈ items, Assembles item)
    (read : List Json) (hopen : open_.length < depthLimit) :
    assemble? (.moreItems read) open_
        ((items.map tokens).flatMap (.comma :: ·) ++ .closeArray :: rest) =
      if open_.length + 1 + itemsDepth items ≤ depthLimit then
        resume (.array (read ++ items)) open_ rest
      else none := by
  induction items generalizing read with
  | nil =>
      rw [itemsDepth, Nat.add_zero, if_pos (Nat.succ_le_of_lt hopen), List.append_nil]
      rfl
  | cons item items ih =>
      have hitem := h item List.mem_cons_self (.array read :: open_)
        ((items.map tokens).flatMap (.comma :: ·) ++ .closeArray :: rest) hopen
      have hitems := ih (fun other hother => h other (List.mem_cons_of_mem item hother))
        (read ++ [item])
      -- a comma and an item are taken off, and the item is put at the end of those read
      calc
        _ = assemble? .value (.array read :: open_) (tokens item ++ _) := by
            rw [List.map_cons, List.flatMap_cons, List.append_assoc]
            rfl
        _ = if open_.length + 1 + item.depth ≤ depthLimit then
              assemble? (.moreItems (read ++ [item])) open_ _ else none := hitem
        _ = _ := by
            rw [hitems, ← ite_and, itemsDepth, List.append_assoc, List.singleton_append]
            exact if_congr (by omega) rfl rfl

/-- The tokens of further members, with a comma before each, make an object of them. -/
theorem assemble?_members {members : List (String × Json)}
    (h : ∀ member ∈ members, Assembles member.2) (read : List (String × Json))
    (hopen : open_.length < depthLimit) :
    assemble? (.moreMembers read) open_
        ((members.map fun member => .string member.1 :: .colon :: tokens member.2).flatMap
          (.comma :: ·) ++ .closeObject :: rest) =
      if open_.length + 1 + membersDepth members ≤ depthLimit then
        resume (.object (read ++ members)) open_ rest
      else none := by
  induction members generalizing read with
  | nil =>
      rw [membersDepth, Nat.add_zero, if_pos (Nat.succ_le_of_lt hopen), List.append_nil]
      rfl
  | cons member members ih =>
      have hvalue := h member List.mem_cons_self (.object read member.1 :: open_)
        ((members.map fun member => .string member.1 :: .colon :: tokens member.2).flatMap
          (.comma :: ·) ++ .closeObject :: rest) hopen
      have hmembers := ih (fun other hother => h other (List.mem_cons_of_mem member hother))
        (read ++ [member])
      calc
        _ = assemble? .value (.object read member.1 :: open_) (tokens member.2 ++ _) := by
            rw [List.map_cons, List.flatMap_cons, List.append_assoc]
            rfl
        _ = if open_.length + 1 + member.2.depth ≤ depthLimit then
              assemble? (.moreMembers (read ++ [member])) open_ _ else none := hvalue
        _ = _ := by
            rw [hmembers, ← ite_and, membersDepth, List.append_assoc, List.singleton_append]
            exact if_congr (by omega) rfl rfl

/-- The tokens of an array make it if those of its items make them. -/
theorem assembles_array {items : List Json} (h : ∀ item ∈ items, Assembles item) :
    Assembles (.array items) := by
  intro open_ rest hopen
  rw [tokens, depth, List.cons_append, List.cons_append, List.append_assoc, assemble?_openArray,
    List.singleton_append, ← Nat.add_assoc, itemTokens_eq_map]
  by_cases hroom : open_.length < depthLimit
  · rw [if_pos hroom]
    have hitems := assemble?_items rest h [] hroom
    cases items with
    | nil => exact (if_pos hroom).symm
    | cons item items =>
      rw [List.map_cons, separated_cons, List.append_assoc, assemble?_firstItem]
      rwa [List.map_cons, List.flatMap_cons, List.append_assoc] at hitems
  · rw [if_neg hroom, if_neg (by omega)]

/-- The tokens of an object make it if those of the values of its members make them. -/
theorem assembles_object {members : List (String × Json)}
    (h : ∀ member ∈ members, Assembles member.2) : Assembles (.object members) := by
  intro open_ rest hopen
  rw [tokens, depth, List.cons_append, List.cons_append, List.append_assoc, assemble?_openObject,
    List.singleton_append, ← Nat.add_assoc, memberTokens_eq_map]
  by_cases hroom : open_.length < depthLimit
  · rw [if_pos hroom]
    have hmembers := assemble?_members rest h [] hroom
    cases members with
    | nil => exact (if_pos hroom).symm
    | cons member members =>
      rw [List.map_cons, separated_cons, List.append_assoc]
      rwa [List.map_cons, List.flatMap_cons, List.append_assoc] at hmembers
  · rw [if_neg hroom, if_neg (by omega)]

/-- **The tokens of a value make the value**, unless too many arrays and objects would be open. -/
theorem assembles (v : Json) : Assembles v := by
  induction v using memInduction with
  | array items ih => exact assembles_array ih
  | object members ih => exact assembles_object ih
  | bool value =>
      intro open_ rest hopen
      rw [tokens, depth, Nat.add_zero, if_pos hopen]
      cases value <;> rfl
  | _ =>
      intro open_ rest hopen
      rw [tokens, depth, Nat.add_zero, if_pos hopen]
      rfl

/-- **The text of a value reads back**, if its numbers have the form of numbers, unless more arrays
and objects lie one in another than may be open at once. -/
theorem read?_text {v : Json} (hv : v.WellFormed) :
    read? v.text = if v.depth ≤ depthLimit then some v else none := by
  have hnone : ([] : List Frame).length ≤ depthLimit := Nat.zero_le depthLimit
  have hassemble := assembles v [] [] hnone
  rw [List.append_nil, List.length_nil, Nat.zero_add] at hassemble
  rw [read?, tokens?_text hv]
  exact hassemble

end SolutionAlgebra.Json
