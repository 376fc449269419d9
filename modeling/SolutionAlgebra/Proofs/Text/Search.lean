import Mathlib.Data.List.Infix
import SolutionAlgebra.Proofs.Octets.Characters
import SolutionAlgebra.Text.Basic

/-! # Occurrences of a text

A text that occurs in another may do so at several places, which may overlap; an empty text occurs
everywhere. Cutting takes the first place of all, in characters as in octets. The occurrences are
replaced from left to right, where each is looked for after the end of the one before it, so that
none of them overlap.

* **`Text.CutAtFirst`** — a text cut at the first occurrence of another.
* **`Text.splitAt?_eq_some_iff`**, **`Text.splitAt?_eq_none_iff`** — that is how a text is split,
  and it is not split only where the other does not occur.
* **`Text.CutAtFirst.octets_le`** — no octets of the other text stand earlier.
* **`Text.Replaced`**, **`Text.Replaced.unique`** — a text with the occurrences of another replaced,
  of which there is one.
* **`Text.Replaced.eq_iff`** — texts of different lengths put in their place make a difference
  wherever there is an occurrence. -/

namespace SolutionAlgebra.Text

open Octets (utf8)

/-! ## The first occurrence -/

/-- A text cut at the first occurrence of another. -/
structure CutAtFirst (token cs before after : List Char) : Prop where
  /-- The parts and the text between them make up the whole. -/
  whole : before ++ token ++ after = cs
  /-- No occurrence stands earlier. -/
  first : ∀ ps qs, ps ++ token ++ qs = cs → before.length ≤ ps.length

variable {token start cs before after ps qs : List Char}

/-- The test whether a text starts another. -/
theorem startsWith_iff : startsWith start cs = true ↔ start <+: cs := by
  rw [startsWith, Option.isSome_iff_exists]
  exact exists_congr fun _ => dropStart?_eq_some_iff.trans eq_comm

/-- A text cannot be dropped exactly where it is not at the start. -/
theorem dropStart?_eq_none_iff : dropStart? start cs = none ↔ ¬ start <+: cs := by
  rw [← startsWith_iff, startsWith, Option.not_isSome_iff_eq_none]

/-- A text that starts with another is cut at its start. -/
theorem CutAtFirst.of_start (h : token ++ after = cs) : CutAtFirst token cs [] after :=
  ⟨h, fun _ _ _ => Nat.zero_le _⟩

/-- Where a text does not start with another, the cut moves on with the text. -/
theorem CutAtFirst.cons {c : Char} (hstart : ¬ token <+: c :: cs)
    (h : CutAtFirst token cs before after) : CutAtFirst token (c :: cs) (c :: before) after := by
  refine ⟨by rw [← h.whole]; rfl, fun ps qs hps => ?_⟩
  cases ps with
  | nil => exact absurd ⟨qs, hps⟩ hstart
  | cons p ps =>
    obtain ⟨-, hps⟩ : p = c ∧ ps ++ token ++ qs = cs := by simpa using hps
    exact Nat.succ_le_succ (h.first ps qs hps)

/-- There is one way to cut a text at the first occurrence. -/
theorem CutAtFirst.unique (h : CutAtFirst token cs before after) (h' : CutAtFirst token cs ps qs) :
    before = ps ∧ after = qs := by
  have hlength : before.length = ps.length :=
    Nat.le_antisymm (h.first ps qs h'.whole) (h'.first before after h.whole)
  have hwhole : before ++ (token ++ after) = ps ++ (token ++ qs) := by
    rw [← List.append_assoc, ← List.append_assoc, h.whole, h'.whole]
  obtain ⟨hbefore, hrest⟩ := List.append_inj hwhole hlength
  exact ⟨hbefore, List.append_cancel_left hrest⟩

/-- A text is split at the first place where the other occurs. -/
theorem cutAtFirst_of_splitAt? (h : splitAt? token cs = some (before, after)) :
    CutAtFirst token cs before after := by
  induction cs generalizing before with
  | nil =>
    simp only [splitAt?, Option.map_eq_some_iff, Prod.mk.injEq, dropStart?_eq_some_iff] at h
    obtain ⟨rest, hrest, rfl, rfl⟩ := h
    exact .of_start hrest.symm
  | cons c cs ih =>
    rw [splitAt?] at h
    split at h
    · next rest hrest =>
      obtain ⟨rfl, rfl⟩ := h
      exact .of_start (dropStart?_eq_some_iff.1 hrest).symm
    · next hnone =>
      simp only [Option.map_eq_some_iff, Prod.mk.injEq] at h
      obtain ⟨⟨b, a⟩, hsplit, rfl, rfl⟩ := h
      exact (ih hsplit).cons (dropStart?_eq_none_iff.1 hnone)

/-- A text is split wherever the other occurs in it. -/
theorem splitAt?_eq_none_iff : splitAt? token cs = none ↔ ¬ token <:+: cs := by
  induction cs with
  | nil => simp [splitAt?, dropStart?_eq_none_iff]
  | cons c cs ih =>
    rw [splitAt?, List.infix_cons_iff, not_or, ← dropStart?_eq_none_iff, ← ih]
    cases hrest : dropStart? token (c :: cs) with
    | none => simp
    | some rest => simp

/-- **A text is split at the first occurrence.** -/
theorem splitAt?_eq_some_iff :
    splitAt? token cs = some (before, after) ↔ CutAtFirst token cs before after := by
  refine ⟨cutAtFirst_of_splitAt?, fun h => ?_⟩
  cases hsplit : splitAt? token cs with
  | none => exact absurd ⟨before, after, h.whole⟩ (splitAt?_eq_none_iff.1 hsplit)
  | some parts =>
    obtain ⟨rfl, rfl⟩ := (cutAtFirst_of_splitAt? hsplit).unique h
    rfl

example : splitAt? "é€é".toList "aé€é€éb".toList = some ("a".toList, "€éb".toList) := by decide

/-- A text in which another occurs can be cut at it. -/
theorem exists_cutAtFirst (h : token <:+: cs) :
    ∃ before after, CutAtFirst token cs before after := by
  cases hsplit : splitAt? token cs with
  | none => exact absurd h (splitAt?_eq_none_iff.1 hsplit)
  | some parts => exact ⟨parts.1, parts.2, cutAtFirst_of_splitAt? hsplit⟩

/-- The test whether a text occurs in another. -/
theorem occursIn_iff : occursIn token cs = true ↔ token <:+: cs := by
  rw [occursIn, ← not_iff_not, ← splitAt?_eq_none_iff, Option.not_isSome_iff_eq_none]

/-- Nothing stands before the cut exactly if the text starts with the other. -/
theorem CutAtFirst.before_eq_nil_iff (h : CutAtFirst token cs before after) :
    before = [] ↔ token <+: cs := by
  constructor
  · rintro rfl
    exact ⟨after, h.whole⟩
  · rintro ⟨rest, hrest⟩
    exact List.length_eq_zero_iff.1 (Nat.le_zero.1 (h.first [] rest hrest))

/-- **The first occurrence is the first one in octets**, of which none cuts a character. -/
theorem CutAtFirst.octets_le (h : CutAtFirst token cs before after) {xs ys : List UInt8}
    (hoctets : xs ++ utf8 token ++ ys = utf8 cs) : (utf8 before).length ≤ xs.length := by
  by_cases hne : token = []
  · -- an empty text stands at the start
    subst hne
    rw [h.before_eq_nil_iff.2 List.nil_prefix]
    exact Nat.zero_le _
  · obtain ⟨ps, qs, hwhole, rfl, -⟩ := Octets.exists_of_append_utf8_append hne hoctets
    have hbefore : before <+: cs := ⟨token ++ after, by rw [← List.append_assoc, h.whole]⟩
    have hps : ps <+: cs := ⟨token ++ qs, by rw [← List.append_assoc, hwhole]⟩
    obtain ⟨rest, rfl⟩ :=
      List.prefix_of_prefix_length_le hbefore hps (h.first ps qs hwhole)
    simp

/-! ## Occurrences replaced -/

/-- That a text comes to another when the occurrences of a token are replaced by a new text. -/
inductive Replaced (token new : List Char) : List Char → List Char → Prop where
  /-- There is no occurrence. -/
  | absent {cs : List Char} (h : ¬ token <:+: cs) : Replaced token new cs cs
  /-- The first occurrence is replaced, and those after its end. -/
  | found {cs before after rest : List Char} (hcut : CutAtFirst token cs before after)
    (hrest : Replaced token new after rest) : Replaced token new cs (before ++ new ++ rest)

variable {new new' ds es rest : List Char}

/-- A text at which another is cut occurs in it. -/
theorem CutAtFirst.occurs (h : CutAtFirst token cs before after) : token <:+: cs :=
  ⟨before, after, h.whole⟩

/-- A character before the first occurrence stays. -/
theorem Replaced.cons {c : Char} (hstart : ¬ token <+: c :: cs) (h : Replaced token new cs ds) :
    Replaced token new (c :: cs) (c :: ds) := by
  cases h with
  | absent h => exact .absent fun hoccurs => (List.infix_cons_iff.1 hoccurs).elim hstart h
  | found hcut hrest => exact .found (hcut.cons hstart) hrest

/-- An occurrence at the start is replaced. -/
theorem Replaced.append (h : Replaced token new cs ds) :
    Replaced token new (token ++ cs) (new ++ ds) := by
  have hcut : CutAtFirst token (token ++ cs) [] cs := .of_start rfl
  exact .found hcut h

/-- Where the text does not occur, nothing is replaced. -/
theorem Replaced.eq_of_absent (h : Replaced token new cs ds) (habsent : ¬ token <:+: cs) :
    ds = cs := by
  cases h with
  | absent => rfl
  | found hcut => exact absurd hcut.occurs habsent

/-- What is replaced after the first occurrence. -/
theorem Replaced.exists_of_found (h : Replaced token new cs ds)
    (hcut : CutAtFirst token cs before after) :
    ∃ rest, Replaced token new after rest ∧ ds = before ++ new ++ rest := by
  cases h with
  | absent habsent => exact absurd hcut.occurs habsent
  | found hcut' hrest =>
    obtain ⟨rfl, rfl⟩ := hcut.unique hcut'
    exact ⟨_, hrest, rfl⟩

/-- **There is one text with the occurrences replaced.** -/
theorem Replaced.unique (h : Replaced token new cs ds) (h' : Replaced token new cs es) :
    ds = es := by
  induction h generalizing es with
  | absent habsent => exact (h'.eq_of_absent habsent).symm
  | found hcut _ ih =>
    obtain ⟨rest', hrest', rfl⟩ := h'.exists_of_found hcut
    rw [ih hrest']

/-- A longer text in the place of the occurrences makes no shorter text. -/
theorem Replaced.length_le (hnew : new.length ≤ new'.length) (h : Replaced token new cs ds)
    (h' : Replaced token new' cs es) : ds.length ≤ es.length := by
  induction h generalizing es with
  | absent habsent => rw [h'.eq_of_absent habsent]
  | found hcut _ ih =>
    obtain ⟨rest', hrest', rfl⟩ := h'.exists_of_found hcut
    have := ih hrest'
    simp only [List.length_append]
    omega

/-- **A longer text makes a difference** exactly if there is an occurrence. -/
theorem Replaced.eq_iff (hnew : new.length < new'.length) (h : Replaced token new cs ds)
    (h' : Replaced token new' cs es) : ds = es ↔ ¬ token <:+: cs := by
  cases h with
  | absent habsent => exact iff_of_true (h'.eq_of_absent habsent).symm habsent
  | found hcut hrest =>
    obtain ⟨rest', hrest', rfl⟩ := h'.exists_of_found hcut
    refine iff_of_false (fun heq => ?_) (not_not_intro hcut.occurs)
    have hlength := congrArg List.length heq
    have hle := hrest.length_le hnew.le hrest'
    simp only [List.length_append] at hlength
    omega

end SolutionAlgebra.Text
