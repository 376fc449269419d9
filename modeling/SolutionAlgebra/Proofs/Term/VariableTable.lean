import SolutionAlgebra.Term.Variable

/-! # Tables that grow

A variable joins a table at its end, and only if the table does not have it. So a table that several
variables join keeps all the entries that it had, the same ones at the same places, and has a new
entry for each new variable.

* **`VariableTable.insertAll`** — the table that several variables join.
* **`VariableTable.Grown`**, **`VariableTable.grown_insertAll`** — how it has grown. -/

namespace SolutionAlgebra.VariableTable

variable {table before after : VariableTable} {v w : Variable} {vs ws : List Variable}
  {new : List VariableEntry}

/-- The table that some variables join, one after the other. -/
def insertAll (table : VariableTable) (vs : List Variable) : VariableTable := vs.foldl insert table

/-- Inserting no variables leaves the table. -/
@[simp] theorem insertAll_nil : table.insertAll [] = table := rfl

/-- Variables are inserted one after the other. -/
@[simp] theorem insertAll_cons : table.insertAll (v :: vs) = (table.insert v).insertAll vs := rfl

/-- Variables that join in two runs join in one run. -/
theorem insertAll_append : table.insertAll (vs ++ ws) = (table.insertAll vs).insertAll ws :=
  List.foldl_append

/-- That a table has grown by some variables. -/
structure Grown (before after : VariableTable) (vs : List Variable) : Prop where
  /-- Those of the variables that were not there have joined at the end, each of them once. -/
  joined : ∃ new, after.entries = before.entries ++ new ∧ new.Nodup ∧
    ∀ v, v ∈ new ↔ v ∈ vs ∧ v ∉ before.entries
  /-- A name that had an entry has the very same one. -/
  entryNamed?_eq : ∀ name entry, before.entryNamed? name = some entry →
    after.entryNamed? name = some entry
  /-- A name that stood for a variable stands for the same one. -/
  find?_eq : ∀ name v, before.find? name = some v → after.find? name = some v
  /-- A variable that had a place has the same one. -/
  position?_eq : ∀ v i, before.position? v = some i → after.position? v = some i

/-- A table that has the entries of another at its beginning has grown by the others. -/
theorem grown_of_cells (hcells : after.cells = before.cells ++ new)
    (hnodup : (new.map VariableEntry.key).Nodup)
    (hmem : ∀ v, v ∈ new.map VariableEntry.key ↔ v ∈ vs ∧ v ∉ before.entries) :
    before.Grown after vs := by
  have hentries : after.entries = before.entries ++ new.map VariableEntry.key := by
    rw [entries, hcells, List.map_append, ← entries]
  have hentry : ∀ name entry, before.entryNamed? name = some entry →
      after.entryNamed? name = some entry := fun name entry h => by
    rw [entryNamed?, entryOf?, hcells, List.find?_append, ← entryOf?, ← entryNamed?, h,
      Option.some_or]
  refine ⟨⟨_, hentries, hnodup, hmem⟩, hentry, fun name v h => ?_, fun v i h => ?_⟩
  · obtain ⟨entry, hfound, rfl⟩ := Option.map_eq_some_iff.1 h
    rw [find?, hentry name entry hfound, Option.map_some]
  · rw [position?, hentries, List.findIdx?_append, ← position?, h, Option.some_or]

/-- The entries that several variables add to a table. -/
theorem exists_cells_insertAll (table : VariableTable) (vs : List Variable) :
    ∃ new, (table.insertAll vs).cells = table.cells ++ new ∧
      (new.map VariableEntry.key).Nodup ∧
      ∀ v, v ∈ new.map VariableEntry.key ↔ v ∈ vs ∧ v ∉ table.entries := by
  -- by induction on the variables, of which the first has joined when the others do
  induction vs generalizing table with
  | nil => exact ⟨[], (List.append_nil _).symm, List.nodup_nil, by simp⟩
  | cons w vs ih =>
    obtain ⟨new, hcells, hnodup, hmem⟩ := ih (table.insert w)
    by_cases hw : w ∈ table.entries
    · rw [insert_of_mem hw] at hcells hmem
      refine ⟨new, by rwa [insertAll_cons, insert_of_mem hw], hnodup, fun v => ?_⟩
      rw [hmem, List.mem_cons]
      grind
    · rw [cells_insert_of_not_mem hw, List.append_assoc, List.singleton_append] at hcells
      refine ⟨_, hcells, List.nodup_cons.2 ⟨fun hnew => ?_, hnodup⟩, fun v => ?_⟩
      · exact ((hmem w).1 hnew).2 (mem_insert.2 (.inr rfl))
      · rw [List.map_cons, List.mem_cons, hmem, mem_insert, List.mem_cons]
        grind

/-- **A table that variables join has grown by them.** -/
theorem grown_insertAll (table : VariableTable) (vs : List Variable) :
    table.Grown (table.insertAll vs) vs := by
  obtain ⟨new, hcells, hnodup, hmem⟩ := exists_cells_insertAll table vs
  exact grown_of_cells hcells hnodup hmem

/-- A table that has grown has what it had and what it has grown by. -/
theorem Grown.mem_iff (h : before.Grown after vs) :
    v ∈ after.entries ↔ v ∈ before.entries ∨ v ∈ vs := by
  obtain ⟨new, hentries, -, hmem⟩ := h.joined
  rw [hentries, List.mem_append, hmem]
  grind

end SolutionAlgebra.VariableTable
