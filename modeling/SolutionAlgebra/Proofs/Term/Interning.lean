import Mathlib.Data.Finset.Card
import SolutionAlgebra.Proofs.Term.VariableTable

/-! # Interning

A table is asked for the entries of names, time and again, to take them in or only to look them up.
It answers with an entry, and what tells one entry from another is the cell in which it lives. A
cell is made only for a name that the table has not seen, and no entry ever leaves the table. So the
entry that is answered for a name is the same one whenever the table is asked, and a different one
for each name; a sign before the name, of which one is dropped each time, makes no difference.

* **`VariableTable.Request`** — what a table is asked for.
* **`VariableTable.after`**, **`VariableTable.answers`** — the table after a run of requests, and
  the entries that are answered to them.
* **`VariableTable.exists_answer_intern`** — the entry that a name is taken in as stays the entry of
  the name.
* **`VariableTable.answers_canonical`** — which answers of a run are the same entry, which look-ups
  find one, and how many there are. -/

namespace SolutionAlgebra.VariableTable

/-! ## Runs of requests -/

/-- What a table is asked for. -/
inductive Request where
  /-- The entry of a name, which the table takes in. -/
  | intern (text : String)
  /-- The entry of a name, if the table has it. -/
  | find (text : String)

namespace Request

/-- The entry that is answered, and the table afterwards. -/
def perform (table : VariableTable) : Request → Option VariableEntry × VariableTable
  | intern text => let (entry, table) := table.register text; (some entry, table)
  | find text => (table.entryNamed? text, table)

/-- The variable that the table takes in. -/
def taken? : Request → Option Variable
  | intern text => some (.ofText text)
  | find _ => none

end Request

/-- The table after a run of requests. -/
def after (table : VariableTable) (requests : List Request) : VariableTable :=
  requests.foldl (fun table request => (request.perform table).2) table

/-- The entries that are answered to a run of requests, one after the other. -/
def answers : VariableTable → List Request → List (Option VariableEntry)
  | _, [] => []
  | table, request :: requests =>
    let (answer, table) := request.perform table
    answer :: answers table requests

/-- The names that a run of requests takes in, without a sign before them. -/
def takenNames (requests : List Request) : List String :=
  (requests.filterMap Request.taken?).map Variable.name

variable {table : VariableTable} {requests later : List Request} {v : Variable} {s t : String}
  {entry entry' : VariableEntry} {i j k : Nat}

/-- A run may be taken in two parts. -/
theorem after_append :
    table.after (requests ++ later) = (table.after requests).after later := List.foldl_append

/-- The variables that a run takes in join the table, one after the other. -/
theorem after_eq_insertAll (table : VariableTable) (requests : List Request) :
    table.after requests = table.insertAll (requests.filterMap Request.taken?) := by
  induction requests generalizing table with
  | nil => rfl
  | cons request requests ih =>
    cases request with
    | intern text => exact ih (table.insert (.ofText text))
    | find text => exact ih table

/-- Each request is answered by the table that those before it leave. -/
theorem getElem?_answers (table : VariableTable) (requests : List Request) (i : Nat) :
    (table.answers requests)[i]? =
      requests[i]?.map fun request => (request.perform (table.after (requests.take i))).1 := by
  induction requests generalizing table i with
  | nil => rfl
  | cons request requests ih =>
    cases i with
    | zero => rfl
    | succ i => exact ih (request.perform table).2 i

/-! ## Entries -/

/-- Names that agree without a sign before them have one entry. -/
theorem entryNamed?_congr (h : Variable.nameOf s = Variable.nameOf t) :
    table.entryNamed? s = table.entryNamed? t := by
  rw [entryNamed?, entryNamed?, Variable.ofText, h, ← Variable.ofText]

/-- The entry of a name is for the variable of this name and stands in the table. -/
theorem key_of_entryNamed? (h : table.entryNamed? s = some entry) :
    entry.key = .ofText s ∧ entry ∈ table.cells := key_of_entryOf? h

/-- **Entries in one cell are one entry.** -/
theorem eq_of_same (h : entry ∈ table.cells) (h' : entry' ∈ table.cells)
    (hsame : entry.same entry' = true) : entry = entry' :=
  List.inj_on_of_nodup_map table.nodup_cells h h' (beq_iff_eq.1 hsame)

/-- Only names that agree without a sign before them have the same entry. -/
theorem nameOf_eq_of_same (h : table.entryNamed? s = some entry)
    (h' : table.entryNamed? t = some entry') (hsame : entry.same entry' = true) : Variable.nameOf s = Variable.nameOf t := by
  obtain ⟨hkey, hmem⟩ := key_of_entryNamed? h
  obtain ⟨hkey', hmem'⟩ := key_of_entryNamed? h'
  rw [eq_of_same hmem hmem' hsame, hkey'] at hkey
  exact congrArg Variable.name hkey.symm

/-- The entry that a name is taken in as is the entry of the name. -/
theorem entryNamed?_register (table : VariableTable) (s : String) :
    (table.register s).2.entryNamed? s = some (table.register s).1 := by
  by_cases h : Variable.ofText s ∈ table.entries
  · obtain ⟨entry, hentry⟩ := exists_entryOf? h
    rw [register, enter_of_entryOf? hentry]
    exact hentry
  · -- the new entry stands after others, none of which is for the name
    have hnone : table.cells.find? (·.key = .ofText s) = none := entryOf?_eq_none_iff.2 h
    rw [register, enter_of_not_mem h, entryNamed?, entryOf?, make, List.find?_append, hnone,
      Option.none_or]
    exact List.find?_cons_of_pos (decide_eq_true rfl)

/-- **A name keeps its entry** in whatever run of requests. -/
theorem entryNamed?_after (h : table.entryNamed? s = some entry) (requests : List Request) :
    (table.after requests).entryNamed? s = some entry := by
  rw [after_eq_insertAll]
  exact (grown_insertAll table _).entryNamed?_eq s entry h

/-- A table that was empty has the variables that the run of requests has taken in. -/
theorem mem_after_empty_iff : v ∈ (empty.after requests).entries ↔
    ∃ (i : Nat) (s : String), requests[i]? = some (.intern s) ∧ Variable.ofText s = v := by
  rw [after_eq_insertAll, (grown_insertAll empty _).mem_iff, List.mem_filterMap]
  constructor
  · rintro (h | ⟨request, hmem, htaken⟩)
    · cases h
    · obtain ⟨i, hi⟩ := List.mem_iff_getElem?.1 hmem
      cases request with
      | intern s => exact ⟨i, s, hi, Option.some.inj htaken⟩
      | find t => cases htaken
  · rintro ⟨i, s, hi, rfl⟩
    exact .inr ⟨_, List.mem_of_getElem? hi, rfl⟩

/-! ## Entries that are answered -/

/-- **The entry that a name is taken in as** is answered, and is the entry of the name in all that
follows. -/
theorem exists_answer_intern (table : VariableTable) (h : requests[i]? = some (.intern s)) :
    ∃ entry, (table.answers requests)[i]? = some (some entry) ∧
      ∀ k, i < k → (table.after (requests.take k)).entryNamed? s = some entry := by
  refine ⟨((table.after (requests.take i)).register s).1, ?_, fun k hk => ?_⟩
  · rw [getElem?_answers, h]
    rfl
  · -- the run goes on from the table that has taken the name in
    have hsplit : requests.take k =
        requests.take i ++ .intern s :: (requests.take k).drop (i + 1) := by
      have hhead : requests.take (i + 1) = requests.take i ++ [.intern s] := by
        rw [List.take_add_one, h, Option.toList_some]
      have htail := List.take_append_drop (i + 1) (requests.take k)
      rw [List.take_take, min_eq_left (by omega), hhead, List.append_assoc,
        List.singleton_append] at htail
      exact htail.symm
    rw [hsplit, after_append]
    exact entryNamed?_after (entryNamed?_register _ s) _

/-- The entry that is answered to a request that takes a name in is the entry of the name
afterwards. -/
theorem entryNamed?_of_answer (h : requests[i]? = some (.intern s))
    (hanswer : (table.answers requests)[i]? = some (some entry)) (hk : i < k) :
    (table.after (requests.take k)).entryNamed? s = some entry := by
  obtain ⟨entry', hanswer', hentry⟩ := exists_answer_intern table h
  rw [hanswer', Option.some_inj, Option.some_inj] at hanswer
  rw [← hanswer]
  exact hentry k hk

/-- **Two names are taken in as the same entry** if they agree without a sign before them. -/
theorem same_iff (hi : requests[i]? = some (.intern s)) (hj : requests[j]? = some (.intern t))
    (hs : (table.answers requests)[i]? = some (some entry))
    (ht : (table.answers requests)[j]? = some (some entry')) :
    entry.same entry' = true ↔ Variable.nameOf s = Variable.nameOf t := by
  -- both entries are compared in a table that has taken in both names
  have hs := entryNamed?_of_answer hi hs (show i < i + j + 1 by omega)
  have ht := entryNamed?_of_answer hj ht (show j < i + j + 1 by omega)
  refine ⟨nameOf_eq_of_same hs ht, fun hname => ?_⟩
  rw [entryNamed?_congr hname, ht, Option.some_inj] at hs
  rw [hs]
  exact beq_self_eq_true entry.cell

/-- **A look-up finds an entry** if the name has been taken in before as this entry. -/
theorem answer_find_iff (h : requests[j]? = some (.find t)) :
    (empty.answers requests)[j]? = some (some entry) ↔
      ∃ i < j, ∃ s, requests[i]? = some (.intern s) ∧ Variable.nameOf s = Variable.nameOf t ∧
        (empty.answers requests)[i]? = some (some entry) := by
  rw [getElem?_answers, h, Option.map_some, Option.some_inj]
  show (empty.after (requests.take j)).entryNamed? t = some entry ↔ _
  constructor
  · intro hentry
    -- an entry that is found has come in by an earlier request
    obtain ⟨hkey, hmem⟩ := key_of_entryNamed? hentry
    obtain ⟨i, s, hi, hname⟩ :=
      mem_after_empty_iff.1 (List.mem_map.2 ⟨entry, hmem, hkey⟩)
    obtain ⟨hlt, hi⟩ : i < j ∧ requests[i]? = some (.intern s) := by
      rw [List.getElem?_take] at hi
      split at hi
      · next hlt => exact ⟨hlt, hi⟩
      · cases hi
    have hname : Variable.nameOf s = Variable.nameOf t := congrArg Variable.name hname
    obtain ⟨entry', hanswer, hentry'⟩ := exists_answer_intern empty hi
    have hsame := hentry' j hlt
    rw [entryNamed?_congr hname, hentry, Option.some_inj] at hsame
    exact ⟨i, hlt, s, hi, hname, hsame ▸ hanswer⟩
  · rintro ⟨i, hlt, s, hi, hname, hanswer⟩
    rw [← entryNamed?_congr hname]
    exact entryNamed?_of_answer hi hanswer hlt

/-- A table that was empty has one entry for each name that it has taken in. -/
theorem size_after_empty (requests : List Request) :
    (empty.after requests).size = (takenNames requests).toFinset.card := by
  have hnodup : ((empty.after requests).entries.map Variable.name).Nodup := by
    refine (empty.after requests).nodup_keys.map fun v w hname => ?_
    cases v
    cases w
    exact congrArg Variable.mk hname
  have hnames : ((empty.after requests).entries.map Variable.name).toFinset =
      (takenNames requests).toFinset := by
    ext name
    simp only [takenNames, after_eq_insertAll, List.mem_toFinset, List.mem_map,
      (grown_insertAll empty _).mem_iff]
    simp [empty, entries]
  rw [← hnames, List.toFinset_card_of_nodup hnodup, List.length_map, entries, List.length_map, size]

/-- **Interning is canonical** over any run of requests on a table that is empty at first. A request
to take a name in is answered with an entry for this name, which the table then keeps; two such
answers are the same entry if and only if the names agree without a sign before them. A look-up
finds an entry if and only if the name has been taken in before, and then this very one; it leaves
the table as it is. The table has as many entries as there are different names among those taken
in. -/
theorem answers_canonical (requests : List Request) :
    (∀ (i : Nat) (s : String), requests[i]? = some (.intern s) →
      ∃ entry, (empty.answers requests)[i]? = some (some entry) ∧ entry.key = .ofText s ∧
        entry ∈ (empty.after requests).cells) ∧
    (∀ (i j : Nat) (s t : String) (entry entry' : VariableEntry),
      requests[i]? = some (.intern s) → requests[j]? = some (.intern t) →
      (empty.answers requests)[i]? = some (some entry) →
      (empty.answers requests)[j]? = some (some entry') →
      (entry.same entry' = true ↔ Variable.nameOf s = Variable.nameOf t)) ∧
    (∀ (j : Nat) (t : String) (entry : VariableEntry), requests[j]? = some (.find t) →
      ((empty.answers requests)[j]? = some (some entry) ↔
        ∃ i < j, ∃ s, requests[i]? = some (.intern s) ∧ Variable.nameOf s = Variable.nameOf t ∧
          (empty.answers requests)[i]? = some (some entry))) ∧
    (∀ (t : String) (later : List Request),
      empty.after (requests ++ .find t :: later) = empty.after (requests ++ later)) ∧
    (empty.after requests).size = (takenNames requests).toFinset.card := by
  refine ⟨fun i s h => ?_, fun i j s t entry entry' => same_iff, fun j t entry => answer_find_iff,
    fun t later => ?_, size_after_empty requests⟩
  · obtain ⟨entry, hanswer, hentry⟩ := exists_answer_intern empty h
    have hlt : i < requests.length := (List.getElem?_eq_some_iff.1 h).1
    have hlast := hentry requests.length hlt
    rw [List.take_length] at hlast
    exact ⟨entry, hanswer, key_of_entryNamed? hlast⟩
  · rw [after_append, after_append]
    rfl

/-- Names with several signs, of which one is dropped, the empty name and the label of a blank
node. -/
theorem answers_canonical_signs :
    let requests : List Request :=
      [.find "?x", .intern "?x", .intern "??x", .intern "$x", .find "x", .intern "$", .find "$?x",
        .find "", .intern "_:b", .find "??"]
    empty.answers requests =
        [none, some ⟨⟨"x"⟩, 0⟩, some ⟨⟨"?x"⟩, 1⟩, some ⟨⟨"x"⟩, 0⟩, some ⟨⟨"x"⟩, 0⟩,
          some ⟨⟨""⟩, 2⟩, some ⟨⟨"?x"⟩, 1⟩, some ⟨⟨""⟩, 2⟩, some ⟨⟨"_:b"⟩, 3⟩, none] ∧
      requests[1]? = some (.intern "?x") ∧ requests[3]? = some (.intern "$x") ∧
      (VariableEntry.same ⟨⟨"x"⟩, 0⟩ ⟨⟨"x"⟩, 0⟩ = true ↔
        Variable.nameOf "?x" = Variable.nameOf "$x") ∧
      requests[6]? = some (.find "$?x") ∧
      (∃ i < 6, ∃ s, requests[i]? = some (.intern s) ∧
        Variable.nameOf s = Variable.nameOf "$?x" ∧
          (empty.answers requests)[i]? = some (some ⟨⟨"?x"⟩, 1⟩)) ∧
      (empty.after requests).size = 4 := by
  intro requests
  obtain ⟨-, hsame, hfind, -, hsize⟩ := answers_canonical requests
  have hanswers : empty.answers requests =
      [none, some ⟨⟨"x"⟩, 0⟩, some ⟨⟨"?x"⟩, 1⟩, some ⟨⟨"x"⟩, 0⟩, some ⟨⟨"x"⟩, 0⟩,
        some ⟨⟨""⟩, 2⟩, some ⟨⟨"?x"⟩, 1⟩, some ⟨⟨""⟩, 2⟩, some ⟨⟨"_:b"⟩, 3⟩, none] := by
    decide +kernel
  refine ⟨hanswers, rfl, rfl, ?_, rfl, ?_, ?_⟩
  · exact hsame 1 3 _ _ _ _ rfl rfl (by rw [hanswers]; rfl) (by rw [hanswers]; rfl)
  · exact (hfind 6 "$?x" ⟨⟨"?x"⟩, 1⟩ rfl).1 (by rw [hanswers]; rfl)
  · rw [hsize]
    decide +kernel

end SolutionAlgebra.VariableTable
