/-! # Entries in order of arrival

A finite map is kept as a list of keys with their values, in the order in which the keys arrived.
Giving a key a new value leaves it in its place; a key that is new joins at the end. -/

namespace SolutionAlgebra.Entries

variable {κ α : Type}

/-- The entries in which a key has a value. -/
def set [DecidableEq κ] (key : κ) (value : α) : List (κ × α) → List (κ × α)
  | [] => [(key, value)]
  | (k, v) :: rest => if k = key then (key, value) :: rest else (k, v) :: set key value rest

/-- The entries in which a key has the value that a function gives to its earlier value. -/
def update [DecidableEq κ] (key : κ) (f : Option α → α) (entries : List (κ × α)) : List (κ × α) :=
  set key (f (entries.lookup key)) entries

/-- The entries that given pairs make, one after the other. -/
def ofList [DecidableEq κ] (pairs : List (κ × α)) : List (κ × α) :=
  pairs.foldl (fun entries (key, value) => set key value entries) []

section
variable [DecidableEq κ]

/-- Without entries, the new one is the only one. -/
@[simp] theorem set_nil (key : κ) (value : α) : set key value [] = [(key, value)] := rfl

/-- A key has the value that was set last; other keys keep theirs. -/
@[simp] theorem lookup_set (key k : κ) (value : α) (entries : List (κ × α)) :
    (set key value entries).lookup k = if k = key then some value else entries.lookup k := by
  induction entries with
  | nil =>
    rw [set_nil, List.lookup_cons, List.lookup_nil]
    by_cases h : k = key
    · rw [beq_iff_eq.2 h, if_pos h]
    · rw [beq_eq_false_iff_ne.2 h, if_neg h]
  | cons entry rest ih =>
    obtain ⟨l, v⟩ := entry
    by_cases hl : l = key
    · subst hl
      rw [set, if_pos rfl, List.lookup_cons, List.lookup_cons]
      by_cases hk : k = l
      · rw [beq_iff_eq.2 hk, if_pos hk]
      · rw [beq_eq_false_iff_ne.2 hk, if_neg hk]
    · rw [set, if_neg hl, List.lookup_cons, List.lookup_cons, ih]
      by_cases hk : k = l
      · have hk' : ¬ k = key := fun h => hl (hk.symm.trans h)
        rw [beq_iff_eq.2 hk, if_neg hk', if_neg hk']
      · rw [beq_eq_false_iff_ne.2 hk]

/-- The keys stay as they are, but for a new one at the end. -/
theorem keys_set (key : κ) (value : α) (entries : List (κ × α)) :
    (set key value entries).map Prod.fst =
      if key ∈ entries.map Prod.fst then entries.map Prod.fst
      else entries.map Prod.fst ++ [key] := by
  induction entries with
  | nil => simp
  | cons entry rest ih =>
    obtain ⟨l, v⟩ := entry
    by_cases hl : l = key
    · simp [set, hl]
    · have hl' : ¬ key = l := fun h => hl h.symm
      simp only [set, if_neg hl, List.map_cons, ih, List.mem_cons, hl', false_or]
      split <;> simp

/-- Setting a value never makes a key occur twice. -/
theorem nodup_keys_set {entries : List (κ × α)} (h : (entries.map Prod.fst).Nodup) (key : κ)
    (value : α) : ((set key value entries).map Prod.fst).Nodup := by
  rw [keys_set]
  split
  · exact h
  · next hk =>
    have hfresh : ∀ k ∈ entries.map Prod.fst, ∀ l ∈ [key], k ≠ l := by
      rintro k hmem l hl rfl
      exact hk (List.mem_singleton.1 hl ▸ hmem)
    exact List.nodup_append.2 ⟨h, by simp, hfresh⟩

/-- Entries made of pairs have every key once, also where the pairs repeat a key. -/
theorem nodup_keys_ofList (pairs : List (κ × α)) : ((ofList pairs).map Prod.fst).Nodup := by
  suffices h : ∀ entries : List (κ × α), (entries.map Prod.fst).Nodup →
      ((pairs.foldl (fun entries (key, value) => set key value entries) entries).map
        Prod.fst).Nodup from h [] (by simp)
  induction pairs with
  | nil => exact fun entries h => h
  | cons pair rest ih => exact fun entries h => ih _ (nodup_keys_set h pair.1 pair.2)

/-- In entries made of pairs a key has the value of the last pair with the key. -/
theorem lookup_ofList (pairs : List (κ × α)) (k : κ) :
    (ofList pairs).lookup k = pairs.reverse.lookup k := by
  suffices h : ∀ entries : List (κ × α),
      (pairs.foldl (fun entries (key, value) => set key value entries) entries).lookup k =
        (pairs.reverse.lookup k).or (entries.lookup k) by
    rw [ofList, h, List.lookup_nil, Option.or_none]
  induction pairs with
  | nil => exact fun entries => rfl
  | cons pair rest ih =>
    intro entries
    obtain ⟨l, value⟩ := pair
    rw [List.foldl_cons, ih, lookup_set, List.reverse_cons, List.lookup_append, Option.or_assoc,
      List.lookup_cons, List.lookup_nil]
    by_cases hk : k = l
    · rw [if_pos hk, beq_iff_eq.2 hk]
      rfl
    · rw [if_neg hk, beq_eq_false_iff_ne.2 hk, Option.none_or]

end

end SolutionAlgebra.Entries
