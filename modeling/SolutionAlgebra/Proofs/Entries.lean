import Mathlib.Data.List.Basic
import SolutionAlgebra.Entries

/-! # Entries that a list makes

A list falls apart by the keys of its elements when every element in turn is given to the entry of
its key. What comes about is one entry for every key, in the order of first sight, and its value is
made of the elements of that key alone, in their order. Pairs that are inserted one after the other
leave entries in which every key stands where it came first, with the value that came last.

* **`Entries.collect`** — gives the elements of a list to the entries of their keys.
* **`Entries.lookup_collect`**, **`Entries.keys_collect`** — the values and the keys.
* **`Entries.collect_eq`** — the entries as a whole, where the values are known for lists.
* **`Entries.ext`** — entries are known by their keys and the values of these.
* **`Entries.settle`**, **`Entries.ofList_eq_settle`** — what is left of pairs, read off the list of
  them, and that insertion comes to this.
* **`Entries.ofList_eq_self`** — pairs with different keys. -/

namespace SolutionAlgebra.Entries

variable {ρ κ α : Type} [DecidableEq κ]

/-! ## Collecting a list -/

/-- The entries after the elements of a list, one after the other, are given to the entries of
their keys. -/
def collect (key : ρ → κ) (give : ρ → Option α → α) (entries : List (κ × α)) (xs : List ρ) :
    List (κ × α) :=
  xs.foldl (fun entries x => update (key x) (give x) entries) entries

section

variable (key : ρ → κ) (give : ρ → Option α → α)

/-- The first element is collected before the others. -/
@[simp] theorem collect_cons (entries : List (κ × α)) (x : ρ) (xs : List ρ) :
    collect key give entries (x :: xs) =
      collect key give (update (key x) (give x) entries) xs := rfl

/-- The elements of a list may be given in two parts. -/
theorem collect_append (entries : List (κ × α)) (xs ys : List ρ) :
    collect key give entries (xs ++ ys) = collect key give (collect key give entries xs) ys :=
  List.foldl_append

/-- The value of a key is made of the elements of that key. -/
theorem lookup_collect (entries : List (κ × α)) (xs : List ρ) (k : κ) :
    (collect key give entries xs).lookup k =
      (xs.filter (key · = k)).foldl (fun value x => some (give x value)) (entries.lookup k) := by
  induction xs generalizing entries with
  | nil => rfl
  | cons x xs ih =>
      rw [collect_cons, ih, update, lookup_set, List.filter_cons]
      by_cases hk : key x = k
      · rw [if_pos hk.symm, if_pos (decide_eq_true hk), List.foldl_cons, hk]
      · have hk' : ¬ k = key x := fun h => hk h.symm
        rw [if_neg hk', if_neg (by simpa using hk)]

/-- The keys are those that were there, then the new ones in the order of first sight. -/
theorem keys_collect (entries : List (κ × α)) (xs : List ρ) :
    (collect key give entries xs).map Prod.fst =
      entries.map Prod.fst ++ ((xs.map key).filter (· ∉ entries.map Prod.fst)).eraseDups := by
  induction xs generalizing entries with
  | nil => exact (List.append_nil _).symm
  | cons x xs ih =>
      rw [collect_cons, ih, update, keys_set, List.map_cons, List.filter_cons]
      by_cases hk : key x ∈ entries.map Prod.fst
      · rw [if_pos hk, if_neg (by simpa using hk)]
      · -- a new key: it joins at the end, and is no longer new after that
        rw [if_neg hk, if_pos (by simpa using hk), List.eraseDups_cons, List.append_assoc,
          List.singleton_append, List.filter_filter]
        congr 4
        funext k
        rw [Bool.eq_iff_iff]
        simp [and_comm, or_comm]

/-- The keys of the entries that a list makes occur once each. -/
theorem nodup_keys_collect {entries : List (κ × α)} (h : (entries.map Prod.fst).Nodup)
    (xs : List ρ) : ((collect key give entries xs).map Prod.fst).Nodup := by
  induction xs generalizing entries with
  | nil => exact h
  | cons x xs ih => exact ih (nodup_keys_set h (key x) _)

/-- An entry is found by its key, if no key occurs twice. -/
theorem lookup_of_mem {entries : List (κ × α)} (h : (entries.map Prod.fst).Nodup) {k : κ}
    {value : α} (hmem : (k, value) ∈ entries) : entries.lookup k = some value := by
  induction entries with
  | nil => exact absurd hmem List.not_mem_nil
  | cons entry rest ih =>
      rw [List.map_cons, List.nodup_cons] at h
      rcases List.mem_cons.1 hmem with rfl | hmem
      · exact List.lookup_cons_self
      · -- the first entry has another key
        have hk : ¬ k = entry.1 := by
          rintro rfl
          exact h.1 (List.mem_map.2 ⟨_, hmem, rfl⟩)
        rw [List.lookup_cons, beq_eq_false_iff_ne.2 hk]
        exact ih h.2 hmem

/-- The values of the entries of one key are the value of the key, if no key occurs twice. -/
theorem map_filter_key {entries : List (κ × α)} (h : (entries.map Prod.fst).Nodup) (k : κ) :
    (entries.filter (·.1 = k)).map Prod.snd = (entries.lookup k).toList := by
  induction entries with
  | nil => rfl
  | cons entry rest ih =>
      rw [List.map_cons, List.nodup_cons] at h
      rw [List.filter_cons, List.lookup_cons]
      by_cases hk : entry.1 = k
      · -- no later entry has the key of the first one
        have hrest : rest.filter (·.1 = k) = [] := by
          rw [List.filter_eq_nil_iff]
          intro other hother hsame
          have hother' := List.mem_map_of_mem (f := Prod.fst) hother
          rw [of_decide_eq_true hsame, ← hk] at hother'
          exact h.1 hother'
        rw [if_pos (decide_eq_true hk), hrest, beq_iff_eq.2 hk.symm]
        rfl
      · have hk' : ¬ k = entry.1 := fun e => hk e.symm
        rw [if_neg (by simpa using hk), beq_eq_false_iff_ne.2 hk']
        exact ih h.2

/-- Entries that are given to others, by their own keys, find the earlier values of these. -/
theorem lookup_collect_entries {β : Type} (f : β → Option α → α) (entries : List (κ × α))
    {given : List (κ × β)} (h : (given.map Prod.fst).Nodup) (k : κ) :
    (collect Prod.fst (fun entry => f entry.2) entries given).lookup k =
      match given.lookup k with
      | none => entries.lookup k
      | some value => some (f value (entries.lookup k)) := by
  -- the given entries for the key: one or none
  have hgiven := map_filter_key h k
  rw [lookup_collect, ← List.foldl_map (f := Prod.snd) (g := fun (seen : Option α) value =>
    some (f value seen)), hgiven]
  cases given.lookup k <;> rfl

variable {key give}

/-- Giving elements one by one to nothing makes the value of the list of them. -/
theorem foldl_give (value : List ρ → α) (hone : ∀ x, give x none = value [x])
    (hmore : ∀ xs x, xs ≠ [] → give x (some (value xs)) = value (xs ++ [x])) (x : ρ)
    (xs : List ρ) :
    (x :: xs).foldl (fun value x => some (give x value)) none = some (value (x :: xs)) := by
  suffices h : ∀ ys, ys ≠ [] →
      xs.foldl (fun value x => some (give x value)) (some (value ys)) =
        some (value (ys ++ xs)) by
    rw [List.foldl_cons, hone]
    exact h [x] (List.cons_ne_nil x [])
  -- by induction on what is still to be given; `ys` is what was given already
  induction xs with
  | nil => exact fun ys _ => by rw [List.foldl_nil, List.append_nil]
  | cons y xs ih =>
      intro ys hys
      rw [List.foldl_cons, hmore ys y hys, ih (ys ++ [y]) (by simp), List.append_assoc,
        List.singleton_append]

/-- **A list collects into one entry for every key**, in the order of first sight, with the value
of the elements of the key. -/
theorem collect_eq (value : List ρ → α) (hone : ∀ x, give x none = value [x])
    (hmore : ∀ xs x, xs ≠ [] → give x (some (value xs)) = value (xs ++ [x])) (xs : List ρ) :
    collect key give [] xs =
      ((xs.map key).eraseDups).map fun k => (k, value (xs.filter (key · = k))) := by
  have hempty : (([] : List (κ × α)).map Prod.fst).Nodup := List.nodup_nil
  have hnodup := nodup_keys_collect key give hempty xs
  have hkeys : (collect key give [] xs).map Prod.fst = (xs.map key).eraseDups := by
    rw [keys_collect, List.map_nil, List.nil_append, List.filter_eq_self.2 (by simp)]
  -- each entry is found by its key, which tells its value
  have hvalue : ∀ entry ∈ collect key give [] xs,
      entry = (entry.1, value (xs.filter (key · = entry.1))) := by
    rintro ⟨k, found⟩ hmem
    have hlookup := lookup_of_mem hnodup hmem
    rw [lookup_collect, List.lookup_nil] at hlookup
    cases hfilter : xs.filter (key · = k) with
    | nil =>
        rw [hfilter] at hlookup
        cases hlookup
    | cons y ys =>
        rw [hfilter, foldl_give value hone hmore] at hlookup
        cases hlookup
        rfl
  rw [← hkeys, List.map_map]
  exact (List.map_id _).symm.trans (List.map_congr_left hvalue)

end

variable {entries others pairs : List (κ × α)}

/-! ## Keys and values -/

/-- Entries can be read off their keys and the values of these. -/
theorem filterMap_lookup (h : (entries.map Prod.fst).Nodup) :
    (entries.map Prod.fst).filterMap
      (fun k => (entries.lookup k).map fun value => (k, value)) = entries := by
  have hentry : ∀ entry ∈ entries,
      (entries.lookup entry.1).map (fun value => (entry.1, value)) = some entry := by
    intro entry hmem
    rw [lookup_of_mem h hmem]
    rfl
  rw [List.filterMap_map]
  exact (List.filterMap_congr hentry).trans List.filterMap_some

/-- **Entries are known by their keys and the values of these.** -/
theorem ext (h : (entries.map Prod.fst).Nodup)
    (hkeys : entries.map Prod.fst = others.map Prod.fst)
    (hlookup : ∀ k, entries.lookup k = others.lookup k) : entries = others := by
  have hothers := filterMap_lookup (hkeys ▸ h)
  rw [← hkeys] at hothers
  simp only [← hlookup] at hothers
  exact (filterMap_lookup h).symm.trans hothers

/-- A key that is new joins at the end. -/
theorem set_of_not_mem {key : κ} (value : α) (h : key ∉ entries.map Prod.fst) :
    set key value entries = entries ++ [(key, value)] := by
  induction entries with
  | nil => rfl
  | cons entry rest ih =>
      rw [List.map_cons, List.mem_cons, not_or] at h
      have hk : ¬ entry.1 = key := fun e => h.1 e.symm
      rw [set, if_neg hk, ih h.2, List.cons_append]

/-! ## Insertion of pairs -/

/-- Further pairs are inserted into what the first ones make. -/
theorem ofList_append (first second : List (κ × α)) :
    ofList (first ++ second) =
      second.foldl (fun entries (key, value) => set key value entries) (ofList first) :=
  List.foldl_append

/-- Pairs with new keys, all different, join at the end. -/
theorem foldl_set_of_nodup (h : ((entries ++ pairs).map Prod.fst).Nodup) :
    pairs.foldl (fun entries (key, value) => set key value entries) entries =
      entries ++ pairs := by
  induction pairs generalizing entries with
  | nil => exact (List.append_nil entries).symm
  | cons pair rest ih =>
      have hnew : pair.1 ∉ entries.map Prod.fst := by
        rw [List.map_append, List.map_cons, List.nodup_append] at h
        exact fun hmem => h.2.2 _ hmem _ List.mem_cons_self rfl
      have happend : entries ++ pair :: rest = (entries ++ [pair]) ++ rest := by
        rw [List.append_assoc, List.singleton_append]
      rw [happend] at h
      rw [List.foldl_cons, happend, ← ih h, ← set_of_not_mem pair.2 hnew]

/-- **Pairs with different keys are entries already.** -/
theorem ofList_eq_self (h : (pairs.map Prod.fst).Nodup) : ofList pairs = pairs :=
  foldl_set_of_nodup h

/-- Keys that are all different are all kept. -/
theorem eraseDups_of_nodup {keys : List κ} (h : keys.Nodup) : keys.eraseDups = keys := by
  induction keys with
  | nil => rfl
  | cons k ks ih =>
      rw [List.nodup_cons] at h
      have hothers : ks.filter (fun l => !l == k) = ks :=
        List.filter_eq_self.2 fun l hl => by simpa using ne_of_mem_of_not_mem hl h.1
      rw [List.eraseDups_cons, hothers, ih h.2]

/-- The keys of pairs that are inserted, in the order of first sight. -/
theorem keys_ofList (pairs : List (κ × α)) :
    (ofList pairs).map Prod.fst = (pairs.map Prod.fst).eraseDups := by
  have hcollect : ofList pairs = collect Prod.fst (fun pair _ => pair.2) [] pairs := rfl
  rw [hcollect, keys_collect, List.map_nil, List.nil_append, List.filter_eq_self.2 (by simp)]

/-- What is left of pairs: every key where it came first, with the value that came last. -/
def settle (pairs : List (κ × α)) : List (κ × α) :=
  (pairs.map Prod.fst).eraseDups.filterMap fun k =>
    (pairs.reverse.lookup k).map fun value => (k, value)

/-- **Insertion leaves every key where it came first, with the value that came last.** -/
theorem ofList_eq_settle (pairs : List (κ × α)) : ofList pairs = settle pairs := by
  have hentries := filterMap_lookup (nodup_keys_ofList pairs)
  rw [keys_ofList] at hentries
  simp only [lookup_ofList] at hentries
  exact hentries.symm

end SolutionAlgebra.Entries
