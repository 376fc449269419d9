import SolutionAlgebra.Proofs.Entries
import SolutionAlgebra.Term.Prefixes

/-! # Compaction

An IRI compacts to a short name, a colon and the rest of the IRI after the namespace. Among the
namespaces that the IRI starts with, compaction takes one that is longest; which of several short
names for it is taken depends on the order in which the table is gone through. Whatever the order,
the prefixed name expands to the IRI, since short names are registered once and have no colon.

* **`Prefixes.Reached`**, **`Prefixes.Reached.sound`** — the tables that are made by adding short
  names, and the invariant that every addition keeps.
* **`Prefixes.expand_eq_ok_iff`** — what a prefixed name expands to.
* **`Prefixes.longest?_eq_none_iff`**, **`Prefixes.longest?_spec`** — when an entry is found, and
  which.
* **`Prefixes.Reached.compact?_spec`** — what compaction answers, for every table that is reached
  and every order of its entries. -/

namespace SolutionAlgebra.Prefixes

variable {table shown : Prefixes} {entries : List (String × String)} {cs rest : List Char}
  {name space : String}

/-! ## Tables that are reached -/

/-- The tables that are made from the common one by adding short names without a colon, new ones or
registered ones. -/
inductive Reached : Prefixes → Prop where
  /-- The common table. -/
  | common : Reached .common
  /-- A table to which a short name is added. -/
  | add {table : Prefixes} (h : Reached table) {name : String} (hname : ':' ∉ name.toList)
      (space : String) : Reached (table.add name space)

/-- That every short name is registered once and has no colon. -/
structure Sound (table : Prefixes) : Prop where
  /-- No short name occurs twice. -/
  nodup : (table.entries.map Prod.fst).Nodup
  /-- No short name has a colon. -/
  noColon : ∀ name ∈ table.entries.map Prod.fst, ':' ∉ name.toList

/-- The common table is sound. -/
theorem sound_common : Sound .common where
  nodup := by decide
  noColon := by decide

/-- An addition keeps a table sound. -/
theorem Sound.add (h : table.Sound) (hname : ':' ∉ name.toList) (space : String) :
    (table.add name space).Sound where
  nodup := Entries.nodup_keys_set h.nodup name space
  noColon := by
    intro other hmem
    rw [Prefixes.add, Entries.keys_set] at hmem
    split at hmem
    · exact h.noColon other hmem
    · rcases List.mem_append.1 hmem with hmem | hmem
      · exact h.noColon other hmem
      · rwa [List.mem_singleton.1 hmem]

/-- **All tables that are reached are sound.** -/
theorem Reached.sound (h : table.Reached) : table.Sound := by
  induction h with
  | common => exact sound_common
  | add _ hname space ih => exact ih.add hname space

/-- In a sound table a short name stands for a namespace if there is an entry that says so. -/
theorem Sound.find?_eq_some_iff (h : table.Sound) :
    table.find? name = some space ↔ (name, space) ∈ table.entries := by
  constructor
  · intro hfind
    obtain ⟨before, after, hentries, -⟩ := List.lookup_eq_some_iff.1 hfind
    simp [hentries]
  · exact Entries.lookup_of_mem h.nodup

/-- A short name without a colon, a colon and a text expand if the name is registered, and to its
namespace and the text. -/
theorem expand_eq_ok_iff {text : String} (hname : ':' ∉ name.toList) (rest : String) :
    table.expand (name ++ ":" ++ rest) = .ok text ↔
      ∃ space, table.find? name = some space ∧ space ++ rest = text := by
  have htext : (name ++ ":" ++ rest).toList = name.toList ++ ':' :: rest.toList := by simp
  rw [expand, htext, Text.cutAt?_append hname]
  simp only [String.ofList_toList]
  cases table.find? name <;> simp

/-! ## The longest namespace -/

/-- No entry is found if the text starts with no namespace. -/
theorem longest?_eq_none_iff :
    longest? cs entries = none ↔ ∀ entry ∈ entries, ¬ entry.2.toList <+: cs := by
  induction entries with
  | nil => simp [longest?]
  | cons entry entries ih =>
    have hstart : Text.dropStart? entry.2.toList cs = none ↔ ¬ entry.2.toList <+: cs := by
      simp only [Option.eq_none_iff_forall_ne_some, ne_eq, Text.dropStart?_eq_some_iff,
        ← not_exists]
      simp only [List.IsPrefix, eq_comm]
    rw [List.forall_mem_cons, ← ih, ← hstart, longest?]
    cases Text.dropStart? entry.2.toList cs with
    | none => simp
    | some rest =>
      cases longest? cs entries with
      | none => simp
      | some best => dsimp only; split <;> simp

/-- **The entry that is found** is one of the entries, the text is its namespace and the rest, and
no namespace that the text starts with is longer. -/
theorem longest?_spec (h : longest? cs entries = some (name, space, rest)) :
    (name, space) ∈ entries ∧ cs = space.toList ++ rest ∧
      ∀ entry ∈ entries, entry.2.toList <+: cs → entry.2.utf8ByteSize ≤ space.utf8ByteSize := by
  induction entries generalizing name space rest with
  | nil => cases h
  | cons entry entries ih =>
    simp only [longest?] at h
    cases hstart : Text.dropStart? entry.2.toList cs with
    | none =>
      -- the first entry does not count
      have hnot : ¬ entry.2.toList <+: cs := by
        rintro ⟨rest, hrest⟩
        rw [Text.dropStart?_eq_some_iff.2 hrest.symm] at hstart
        cases hstart
      rw [hstart] at h
      obtain ⟨hmem, hcs, hlongest⟩ := ih h
      exact ⟨List.mem_cons_of_mem _ hmem, hcs,
        List.forall_mem_cons.2 ⟨fun hprefix => absurd hprefix hnot, hlongest⟩⟩
    | some after =>
      rw [hstart] at h
      cases hbest : longest? cs entries with
      | none =>
        rw [hbest] at h
        cases h
        refine ⟨List.mem_cons_self, Text.dropStart?_eq_some_iff.1 hstart,
          List.forall_mem_cons.2 ⟨fun _ => Nat.le_refl _, fun other hmem hprefix => ?_⟩⟩
        exact absurd hprefix (longest?_eq_none_iff.1 hbest other hmem)
      | some best =>
        obtain ⟨name', space', rest'⟩ := best
        obtain ⟨hmem, hcs, hlongest⟩ := ih hbest
        rw [hbest] at h
        dsimp only at h
        split at h
        · next hshorter =>
          cases h
          exact ⟨List.mem_cons_self, Text.dropStart?_eq_some_iff.1 hstart,
            List.forall_mem_cons.2 ⟨fun _ => Nat.le_refl _, fun other hother hprefix =>
              Nat.le_of_lt (Nat.lt_of_le_of_lt (hlongest other hother hprefix) hshorter)⟩⟩
        · next hlonger =>
          cases h
          exact ⟨List.mem_cons_of_mem _ hmem, hcs,
            List.forall_mem_cons.2 ⟨fun _ => Nat.le_of_not_lt hlonger, hlongest⟩⟩

/-- Of two starts of one text, the one with no more octets has no more characters. -/
theorem length_le_of_utf8ByteSize_le {a b : String} (ha : a.toList <+: cs) (hb : b.toList <+: cs)
    (h : a.utf8ByteSize ≤ b.utf8ByteSize) : a.length ≤ b.length := by
  rcases Nat.le_total a.length b.length with hle | hge
  · exact hle
  · -- then the second is a start of the first, with nothing after it
    have hstart : b.toList <+: a.toList :=
      List.prefix_of_prefix_length_le hb ha (by rwa [String.length_toList, String.length_toList])
    obtain ⟨rest, hrest⟩ := hstart
    have hsplit : a = b ++ String.ofList rest := String.toList_inj.1 (by simp [hrest])
    have hempty : String.ofList rest = "" := by
      rw [hsplit, String.utf8ByteSize_append] at h
      exact String.utf8ByteSize_eq_zero_iff.1 (by omega)
    simp [hsplit, hempty]

/-! ## Compaction -/

/-- **Compaction, whatever the order of the entries.** In every table that is reached, an IRI
compacts exactly if it starts with a registered namespace. The prefixed name then expands to the
IRI, and it is made with a namespace that no registered one that the IRI starts with exceeds. -/
theorem Reached.compact?_spec (h : table.Reached) (horder : shown.entries.Perm table.entries)
    (iri : String) :
    ((shown.compact? iri).isSome ↔
      ∃ name space, table.find? name = some space ∧ space.toList <+: iri.toList) ∧
    ∀ text, shown.compact? iri = some text →
      table.expand text = .ok iri ∧
      ∃ name space rest, text = name ++ ":" ++ rest ∧ table.find? name = some space ∧
        iri = space ++ rest ∧
        ∀ name' space', table.find? name' = some space' → space'.toList <+: iri.toList →
          space'.length ≤ space.length := by
  have hsound := h.sound
  simp only [hsound.find?_eq_some_iff, ← horder.mem_iff]
  constructor
  · rw [compact?, Option.isSome_map, ← Option.ne_none_iff_isSome, ne_eq, longest?_eq_none_iff]
    simp
  · intro text htext
    obtain ⟨⟨name, space, rest⟩, hlongest, rfl⟩ := Option.map_eq_some_iff.1 htext
    obtain ⟨hmem, hiri, hmax⟩ := longest?_spec hlongest
    have hsplit : iri = space ++ String.ofList rest := String.toList_inj.1 (by simp [hiri])
    have hentry := horder.mem_iff.1 hmem
    have hname := hsound.noColon name (List.mem_map_of_mem hentry)
    refine ⟨?_, name, space, String.ofList rest, rfl, hmem, hsplit, ?_⟩
    · exact (expand_eq_ok_iff hname _).2 ⟨space, hsound.find?_eq_some_iff.2 hentry, hsplit.symm⟩
    · intro name' space' hmem' hprefix
      exact length_le_of_utf8ByteSize_le hprefix ⟨rest, hiri.symm⟩ (hmax _ hmem' hprefix)

/-- A table with a namespace inside another one, whose short name was registered before. -/
def nested : Prefixes :=
  ((common.add "ex" "urn:").add "people" "http://example.org/people/").add "ex"
    "http://example.org/"

/-- The inner namespace is taken, also where the entries are gone through backwards. -/
theorem Reached.compact?_spec_nested :
    nested.Reached ∧ nested.entries.reverse.Perm nested.entries ∧
    compact? ⟨nested.entries.reverse⟩ "http://example.org/people/alice" = some "people:alice" ∧
    nested.expand "people:alice" = .ok "http://example.org/people/alice" ∧
    ∃ name space rest, "people:alice" = name ++ ":" ++ rest ∧ nested.find? name = some space ∧
      "http://example.org/people/alice" = space ++ rest ∧
      ∀ name' space', nested.find? name' = some space' →
        space'.toList <+: "http://example.org/people/alice".toList →
          space'.length ≤ space.length := by
  have hreached : nested.Reached :=
    .add (.add (.add .common (by decide) _) (by decide) _) (by decide) _
  have horder : (⟨nested.entries.reverse⟩ : Prefixes).entries.Perm nested.entries :=
    List.reverse_perm nested.entries
  have hcompact : compact? ⟨nested.entries.reverse⟩ "http://example.org/people/alice" =
      some "people:alice" := by decide +kernel
  exact ⟨hreached, horder, hcompact,
    (hreached.compact?_spec horder _).2 _ hcompact⟩

end SolutionAlgebra.Prefixes
