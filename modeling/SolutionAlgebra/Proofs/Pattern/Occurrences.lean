import SolutionAlgebra.Pattern.Replacement
import SolutionAlgebra.Proofs.Pattern.Straight
import SolutionAlgebra.Proofs.Text.Search

/-! # Expressions that stand for a text

An expression that is matched by one text only, without a condition on what stands around it, is
found exactly where this text occurs. Its matches from left to right are the occurrences that are
replaced.

* **`Machine.Spells`** — a compiled expression that is matched by one text only.
* **`Machine.Spells.matches?_iff`** — it is found in the texts in which that text occurs.
* **`Machine.Spells.replaced_replaceFrom`** — its matches are replaced as occurrences are. -/

namespace SolutionAlgebra.Pattern

namespace Machine

/-- That a compiled expression is matched by a text wherever it stands, and by no other text. The
marks of a match depend on the place only, and the whole match ends where the text ends. -/
structure Spells (machine : Machine) (token : List Char) (marksAt : Nat → Marks) : Prop where
  /-- It is matched where the text stands. -/
  matchAt : ∀ before index cs, machine.matchAt before index cs =
    (Text.dropStart? token cs).map fun _ => marksAt index
  /-- The match has the length of the text. -/
  stop : ∀ index, (marksAt index).lookup 1 = some (index + token.length)

variable {machine : Machine} {token new : List Char} {marksAt : Nat → Marks}
  {before : Option Char} {index : Nat} {last : Option Nat} {cs text : List Char}
  {expand : Marks → List Char}

/-- A text is matched where it stands. -/
theorem spells_ofText (token : List Char) (names : List (String × Nat)) :
    (Machine.ofNode (.ofText token) names).Spells token fun index =>
      [(1, index + token.length), (0, index)] := by
  refine ⟨fun before index cs => ?_, fun index => rfl⟩
  rw [matchAt_ofNode (Node.straight_ofText token)]
  show walk (textMoves token ++ [.mark 1]) index [(0, index)] cs = _
  rw [walk_textMoves]
  cases Text.dropStart? token cs <;> rfl

/-- So is the group of a text, whose places are those of the match. -/
theorem spells_group (token : List Char) (names : List (String × Nat)) :
    (Machine.ofNode (.group 1 (.ofText token)) names).Spells token fun index =>
      [(1, index + token.length), (3, index + token.length), (2, index), (0, index)] := by
  refine ⟨fun before index cs => ?_, fun index => rfl⟩
  rw [matchAt_ofNode ((Node.straight_ofText token).group 1)]
  show walk ((textMoves token ++ [.mark 3]) ++ [.mark 1]) index [(2, index), (0, index)] cs = _
  rw [List.append_assoc, walk_textMoves]
  cases Text.dropStart? token cs <;> rfl

/-! ## Finding -/

/-- A machine that spells a text matches where the text starts. -/
theorem Spells.isSome_matchAt_iff (h : machine.Spells token marksAt) :
    (machine.matchAt before index cs).isSome = true ↔ token <+: cs := by
  rw [h.matchAt, Option.isSome_map]
  exact Text.startsWith_iff

/-- A machine that spells a text finds a match where the text occurs. -/
theorem Spells.isSome_find_iff (h : machine.Spells token marksAt) :
    (machine.find before index cs).isSome = true ↔ token <:+: cs := by
  induction cs generalizing before index with
  | nil => rw [find, h.isSome_matchAt_iff, List.infix_nil, List.prefix_nil]
  | cons c cs ih =>
    rw [find, Option.isSome_or, Bool.or_eq_true, h.isSome_matchAt_iff, ih, List.infix_cons_iff]

/-- **It is found in the texts in which its text occurs.** -/
theorem Spells.matches?_iff (h : machine.Spells token marksAt) (cs : List Char) :
    machine.matches? cs = true ↔ token <:+: cs := h.isSome_find_iff

/-! ## Replacing -/

/-- No match starts before the end of the last one. -/
theorem matchHere?_eq_none_of_lt {stop : Nat} (hlt : index < stop) :
    machine.matchHere? before index (some stop) cs = none := by
  simp [matchHere?, hlt]

/-- A place that is not before the end of the last match. -/
theorem any_lt_eq_false (hlast : ∀ stop ∈ last, stop ≤ index) : last.any (index < ·) = false := by
  cases last with
  | none => rfl
  | some stop => exact decide_eq_false (hlast stop rfl).not_gt

/-- From there on, a text that is not empty matches where it starts. -/
theorem Spells.matchHere?_eq (h : machine.Spells token marksAt) (hne : token ≠ [])
    (hlast : ∀ stop ∈ last, stop ≤ index) : machine.matchHere? before index last cs =
      (Text.dropStart? token cs).map fun _ => (marksAt index, index + token.length) := by
  rw [matchHere?, any_lt_eq_false hlast, h.matchAt]
  cases Text.dropStart? token cs with
  | none => rfl
  | some rest => simp [h.stop, hne]

/-- What is before the end of the last match is dropped. -/
theorem exists_replaceFrom_append (machine : Machine) (expand : Marks → List Char)
    (before : Option Char) (index : Nat) (skipped cs : List Char) :
    ∃ before', machine.replaceFrom expand before index (some (index + skipped.length))
        (skipped ++ cs) =
      machine.replaceFrom expand before' (index + skipped.length)
        (some (index + skipped.length)) cs := by
  induction skipped generalizing before index with
  | nil => exact ⟨before, rfl⟩
  | cons c skipped ih =>
    have hlt : index < index + (c :: skipped).length := by
      rw [List.length_cons]
      omega
    have hshift : index + (c :: skipped).length = index + 1 + skipped.length := by
      rw [List.length_cons]
      omega
    obtain ⟨before', hrest⟩ := ih (some c) (index + 1)
    refine ⟨before', ?_⟩
    rw [List.cons_append, replaceFrom, matchHere?_eq_none_of_lt hlt]
    simp only [Option.any_some, hlt, decide_true, if_true, List.nil_append]
    rw [hshift, hrest]

/-- At an occurrence of the text, what is put in its place is followed by the rest. -/
theorem Spells.exists_replaceFrom_of_start (h : machine.Spells token marksAt) (hne : token ≠ [])
    (hlast : ∀ stop ∈ last, stop ≤ index) (expand : Marks → List Char) (before : Option Char)
    (cs : List Char) : ∃ before', machine.replaceFrom expand before index last (token ++ cs) =
      expand (marksAt index) ++ machine.replaceFrom expand before' (index + token.length)
        (some (index + token.length)) cs := by
  -- the rest of the occurrence lies before the end of the match, so no match starts in it
  obtain ⟨c, token', rfl⟩ := List.exists_cons_of_ne_nil hne
  have hstart : Text.dropStart? (c :: token') (c :: (token' ++ cs)) = some cs :=
    Text.dropStart?_eq_some_iff.2 rfl
  have hshift : index + (c :: token').length = index + 1 + token'.length := by
    rw [List.length_cons]
    omega
  obtain ⟨before', hrest⟩ :=
    exists_replaceFrom_append machine expand (some c) (index + 1) token' cs
  refine ⟨before', ?_⟩
  rw [List.cons_append, replaceFrom, h.matchHere?_eq hne hlast, hstart]
  simp only [Option.map_some]
  rw [hshift, hrest, if_neg (by omega), List.append_nil]

/-- **The matches are replaced as occurrences are.** The text before the place is as long as the
number of the place says, so that what is put in the place of a match may depend on the whole
text. -/
theorem Spells.replaced_replaceFrom (h : machine.Spells token marksAt) (hne : token ≠ [])
    (hexpand : ∀ ps qs, ps ++ token ++ qs = text → expand (marksAt ps.length) = new)
    (ps : List Char) (hwhole : ps ++ cs = text) (before : Option Char)
    (hlast : ∀ stop ∈ last, stop ≤ ps.length) :
    Text.Replaced token new cs (machine.replaceFrom expand before ps.length last cs) := by
  -- by the length of the text: it is shorter after an occurrence, and after one character
  induction hlength : cs.length using Nat.strong_induction_on generalizing cs ps before last with
  | _ n ih =>
    subst hlength
    by_cases hstart : token <+: cs
    · obtain ⟨rest, rfl⟩ := hstart
      have hwhole' : ps ++ token ++ rest = text := by rw [List.append_assoc, hwhole]
      obtain ⟨before', hrest⟩ :=
        h.exists_replaceFrom_of_start hne hlast expand before rest
      have hshorter : rest.length < (token ++ rest).length := by
        have := List.length_pos_iff.2 hne
        rw [List.length_append]
        omega
      have hend : ∀ stop ∈ some (ps ++ token).length, stop ≤ (ps ++ token).length :=
        fun stop hstop => (Option.some_inj.1 hstop).ge
      have hreplaced := ih rest.length hshorter (ps ++ token) hwhole' before' hend rfl
      rw [hrest, hexpand ps rest hwhole', ← List.length_append]
      exact hreplaced.append
    · have hnone : Text.dropStart? token cs = none := Text.dropStart?_eq_none_iff.2 hstart
      cases cs with
      | nil =>
        rw [replaceFrom, h.matchHere?_eq hne hlast, hnone]
        exact .absent fun hoccurs => hne (List.infix_nil.1 hoccurs)
      | cons c cs =>
        have hlater : ∀ stop ∈ last, stop ≤ (ps ++ [c]).length := fun stop hstop =>
          (hlast stop hstop).trans (List.length_append ▸ Nat.le_add_right _ _)
        have hreplaced := ih cs.length (Nat.lt_succ_self _) (ps ++ [c]) (by simpa using hwhole)
          (some c) hlater rfl
        rw [List.length_append, List.length_singleton] at hreplaced
        rw [replaceFrom, h.matchHere?_eq hne hlast, hnone]
        simp only [Option.map_none, any_lt_eq_false hlast]
        exact hreplaced.cons hstart

end Machine

/-! ## Names of groups -/

variable {name token text : List Char}

/-- A name without braces is as long as it can be. -/
theorem Replacement.read_bare (start : List Char) (h : ∀ c ∈ name, isBareNameChar c = true) :
    read (.bare start) name = [group (start.reverse ++ name)] := by
  induction name generalizing start with
  | nil => simp [read]
  | cons c name ih =>
    obtain ⟨hc, hname⟩ := List.forall_mem_cons.1 h
    rw [read, if_pos hc, ih _ hname]
    simp

/-- A dollar sign, the digit one and more characters of names are the group of all of these. -/
theorem Replacement.read_one (h : ∀ c ∈ name, isBareNameChar c = true) :
    read .plain ('$' :: '1' :: name) = [group ('1' :: name)] := read_bare ['1'] h

/-- Letters are characters of names. -/
theorem isBareNameChar_of_isAlpha {c : Char} (h : c.isAlpha = true) : isBareNameChar c = true := by
  rw [isBareNameChar, Char.isAlphanum, h]
  rfl

/-- Letters are no digits. -/
theorem isDigit_of_isAlpha {c : Char} (h : c.isAlpha = true) : c.isDigit = false := by
  have hletter := Octets.toNat_bounds_of_isAlpha h
  by_contra hdigit
  have hbounds := Octets.toNat_bounds_of_isDigit (Bool.of_not_eq_false hdigit)
  omega

/-- With letters after it, a number is the name of a group, but not of one that has a number. -/
theorem groupNumber?_one (h : ∀ c ∈ name, c.isAlpha = true) :
    groupNumber? ('1' :: name) = if name = [] then some 1 else none := by
  cases name with
  | nil => decide
  | cons c name =>
    have hc := isDigit_of_isAlpha (h c List.mem_cons_self)
    rw [if_neg (List.cons_ne_nil c name)]
    simp [groupNumber?, hc]

/-- **What is put in the place of a text in parentheses** by its number with letters after it: the
text if there are no letters, else nothing. -/
theorem Machine.replaced_replaceAll_group (hne : token ≠ []) (h : ∀ c ∈ name, c.isAlpha = true)
    (text : List Char) : Text.Replaced token (if name = [] then token else []) text
      ((Machine.ofNode (.group 1 (.ofText token)) []).replaceAll ('$' :: '1' :: name) text) := by
  have hread := Replacement.read_one fun c hc => isBareNameChar_of_isAlpha (h c hc)
  rw [replaceAll, hread]
  refine (spells_group token []).replaced_replaceFrom hne (fun ps qs hwhole => ?_)
    [] (List.nil_append text) none (fun _ hstop => by cases hstop)
  show [Replacement.group ('1' :: name)].flatMap
    (Replacement.expand [] (Marks.groupText [(1, ps.length + token.length),
      (3, ps.length + token.length), (2, ps.length), (0, ps.length)] text)) = _
  rw [List.flatMap_singleton, Replacement.expand, groupNumber?_one h]
  -- the marks of the group hold the places of the text, and no group has a name
  by_cases hname : name = []
  · rw [if_pos hname, if_pos hname]
    show (text.drop ps.length).take (ps.length + token.length - ps.length) = token
    rw [← hwhole, List.append_assoc, List.drop_left, Nat.add_sub_cancel_left, List.take_left]
  · rw [if_neg hname, if_neg hname]
    rfl

end SolutionAlgebra.Pattern
