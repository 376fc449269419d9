/-! # Variables

A variable is known by its name. In texts a question mark or dollar sign stands before the name;
the label of a blank node counts as a variable whose name starts with `_:` and has no such sign.

A table of variables has one entry for every name that was seen once, in the order of first sight.
An entry is an object of its own: it lives in a cell, and what tells two entries apart is the cell
and not the name. A cell is made when a name is seen for the first time; whoever names the variable
later gets the entry that is there. -/

namespace SolutionAlgebra

/-- A variable. -/
structure Variable where
  /-- The name, without a sign before it. -/
  name : String
deriving DecidableEq, Repr

namespace Variable

/-- A text without one question mark or dollar sign at its start. -/
def dropSigil : List Char → List Char
  | '?' :: cs => cs
  | '$' :: cs => cs
  | cs => cs

/-- The name of a variable as a text gives it, with or without a sign. -/
def nameOf (text : String) : String := String.ofList (dropSigil text.toList)

/-- The variable of a name that may have a sign. -/
def ofText (text : String) : Variable := ⟨nameOf text⟩

/-- Whether a variable is the label of a blank node. -/
def isBlankLabel (v : Variable) : Bool :=
  match v.name.toList with
  | '_' :: ':' :: _ => true
  | _ => false

/-- The text of a variable. -/
def text (v : Variable) : String := if v.isBlankLabel then v.name else "?" ++ v.name

end Variable

/-- An entry of a table of variables. -/
structure VariableEntry where
  /-- The variable that the entry is for. -/
  key : Variable
  /-- The cell in which the entry lives, which no other entry has. -/
  cell : Nat
deriving DecidableEq, Repr

/-- Whether two entries are the same one. Their variables are not looked at. -/
def VariableEntry.same (a b : VariableEntry) : Bool := a.cell == b.cell

/-- The variables seen so far. -/
structure VariableTable where
  /-- The entries, in the order of first sight. -/
  cells : List VariableEntry := []
  /-- The number of cells made so far, which is the next cell to be made. -/
  made : Nat := 0
  /-- No variable has two entries. -/
  nodup_keys : (cells.map VariableEntry.key).Nodup := by simp
  /-- No two entries share a cell. -/
  nodup_cells : (cells.map VariableEntry.cell).Nodup := by simp
  /-- Every entry lives in a cell that has been made. -/
  cell_lt_made : ∀ entry ∈ cells, entry.cell < made := by simp
deriving DecidableEq, Repr

namespace VariableTable

/-- The table that holds nothing. -/
def empty : VariableTable := {}

/-- The variables of a table, in the order of first sight. -/
def entries (table : VariableTable) : List Variable := table.cells.map VariableEntry.key

/-- The number of variables. -/
def size (table : VariableTable) : Nat := table.cells.length

/-- The place of a variable in the table. -/
def position? (table : VariableTable) (v : Variable) : Option Nat :=
  table.entries.findIdx? (· = v)

/-! ## Entries -/

/-- The entry of a variable, if the table has one. -/
def entryOf? (table : VariableTable) (v : Variable) : Option VariableEntry :=
  table.cells.find? (·.key = v)

/-- The entry of a name that may have a sign, if the table has one. -/
def entryNamed? (table : VariableTable) (text : String) : Option VariableEntry :=
  table.entryOf? (.ofText text)

/-- There is no entry exactly for the variables that the table does not hold. -/
theorem entryOf?_eq_none_iff {table : VariableTable} {v : Variable} :
    table.entryOf? v = none ↔ v ∉ table.entries := by
  simp [entryOf?, entries]

/-- The entry of a variable is for this variable and stands in the table. -/
theorem key_of_entryOf? {table : VariableTable} {v : Variable} {entry : VariableEntry}
    (h : table.entryOf? v = some entry) : entry.key = v ∧ entry ∈ table.cells := by
  rw [entryOf?] at h
  have hkey := List.find?_some h
  exact ⟨of_decide_eq_true hkey, List.mem_of_find?_eq_some h⟩

/-- A variable of a table has an entry. -/
theorem exists_entryOf? {table : VariableTable} {v : Variable} (h : v ∈ table.entries) :
    ∃ entry, table.entryOf? v = some entry :=
  Option.ne_none_iff_exists'.1 fun hnone => entryOf?_eq_none_iff.1 hnone h

/-- The table with an entry in a new cell for a variable that has none. -/
def make (table : VariableTable) (v : Variable) (h : v ∉ table.entries) : VariableTable where
  cells := table.cells ++ [⟨v, table.made⟩]
  made := table.made + 1
  nodup_keys := by
    rw [List.map_append, List.map_singleton, List.nodup_append]
    refine ⟨table.nodup_keys, by simp, ?_⟩
    rintro w hw _ hv rfl
    obtain rfl : w = v := List.mem_singleton.1 hv
    exact h hw
  nodup_cells := by
    rw [List.map_append, List.map_singleton, List.nodup_append]
    refine ⟨table.nodup_cells, by simp, ?_⟩
    intro cell hcell made hmade
    obtain ⟨entry, hentry, rfl⟩ := List.mem_map.1 hcell
    rw [List.mem_singleton.1 hmade]
    exact Nat.ne_of_lt (table.cell_lt_made entry hentry)
  cell_lt_made := by
    intro entry hentry
    rcases List.mem_append.1 hentry with hold | hnew
    · exact Nat.lt_succ_of_lt (table.cell_lt_made entry hold)
    · rw [List.mem_singleton.1 hnew]
      exact Nat.lt_succ_self table.made

/-- The entry of a variable, which is made unless it is there, and the table with it. -/
def enter (table : VariableTable) (v : Variable) : VariableEntry × VariableTable :=
  match h : table.entryOf? v with
  | some entry => (entry, table)
  | none => (⟨v, table.made⟩, table.make v (entryOf?_eq_none_iff.1 h))

/-- The entry of a name that may have a sign, which is made unless it is there, and the table with
it. -/
def register (table : VariableTable) (text : String) : VariableEntry × VariableTable :=
  table.enter (.ofText text)

/-! ## Variables -/

/-- The table with a variable, which joins at the end unless it is there. -/
def insert (table : VariableTable) (v : Variable) : VariableTable := (table.enter v).2

/-- The variable of a name that may have a sign, and the table with it. -/
def intern (table : VariableTable) (text : String) : Variable × VariableTable :=
  let (entry, table) := table.register text
  (entry.key, table)

/-- The variable of a name that may have a sign, if the table has it. -/
def find? (table : VariableTable) (text : String) : Option Variable :=
  (table.entryNamed? text).map VariableEntry.key

/-- A variable that has an entry keeps it. -/
theorem enter_of_entryOf? {table : VariableTable} {v : Variable} {entry : VariableEntry}
    (h : table.entryOf? v = some entry) : table.enter v = (entry, table) := by
  unfold enter
  split
  · next found hfound => rw [Option.some.inj (h.symm.trans hfound)]
  · next hnone => rw [h] at hnone; cases hnone

/-- A variable without an entry gets one in a new cell. -/
theorem enter_of_not_mem {table : VariableTable} {v : Variable} (h : v ∉ table.entries) :
    table.enter v = (⟨v, table.made⟩, table.make v h) := by
  unfold enter
  split
  · next hfound => rw [entryOf?_eq_none_iff.2 h] at hfound; cases hfound
  · rfl

/-- The entry that a variable gets is for this variable. -/
@[simp] theorem key_enter (table : VariableTable) (v : Variable) : (table.enter v).1.key = v := by
  by_cases h : v ∈ table.entries
  · obtain ⟨entry, hentry⟩ := exists_entryOf? h
    rw [enter_of_entryOf? hentry]
    exact (key_of_entryOf? hentry).1
  · rw [enter_of_not_mem h]

/-- The variable that is interned for a name is the variable of this name. -/
@[simp] theorem intern_fst (table : VariableTable) (text : String) :
    (table.intern text).1 = .ofText text := key_enter table (.ofText text)

/-- A table that has a variable stays as it is when the variable joins. -/
theorem insert_of_mem {table : VariableTable} {v : Variable} (h : v ∈ table.entries) :
    table.insert v = table := by
  obtain ⟨entry, hentry⟩ := exists_entryOf? h
  exact congrArg Prod.snd (enter_of_entryOf? hentry)

/-- A variable that a table does not have joins at the end, in a new cell. -/
theorem cells_insert_of_not_mem {table : VariableTable} {v : Variable} (h : v ∉ table.entries) :
    (table.insert v).cells = table.cells ++ [⟨v, table.made⟩] := by
  rw [insert, enter_of_not_mem h]
  rfl

/-- A table holds the variable that was inserted, and what it held. -/
@[simp] theorem mem_insert {table : VariableTable} {v w : Variable} :
    w ∈ (table.insert v).entries ↔ w ∈ table.entries ∨ w = v := by
  by_cases h : v ∈ table.entries
  · rw [insert_of_mem h]
    exact ⟨.inl, fun hw => hw.elim id fun hv => hv ▸ h⟩
  · rw [entries, cells_insert_of_not_mem h, List.map_append, List.mem_append, List.map_singleton,
      List.mem_singleton]
    rfl

end VariableTable

end SolutionAlgebra
