import Mathlib.Data.Bool.AllAny
import Mathlib.Order.MinMax
import SolutionAlgebra.Pattern.Reader
import SolutionAlgebra.Proofs.Pattern.Straight

/-! # Quoted patterns

A backslash before each character that has a meaning of its own makes a pattern that stands for a
text. Blanks have no such meaning, so they are not quoted: an extended pattern skips them all the
same. What a quoted pattern stands for is the text as far as it is heeded.

* **`heeded`** — the characters of a text that are not skipped.
* **`Reading.steps?_quote`** — quoted characters are read as themselves.
* **`read?_quote`**, **`read?_group`** — what a quoted text and a text in parentheses are read as,
  if they are not too large. -/

namespace SolutionAlgebra.Pattern

/-- The characters of a text that are not skipped. -/
def heeded (extended : Bool) (cs : List Char) : List Char :=
  cs.filter fun c => !(extended && Text.isBlank c)

/-- The characters that have a meaning of their own in patterns. -/
def metaCharacters : List Char :=
  ['\\', '.', '+', '*', '?', '(', ')', '|', '[', ']', '\x7b', '\x7d', '^', '$', '#', '&', '-', '~']

/-- Whether an expression is small enough to be compiled, by its estimated weight. -/
def Node.Fits (node : Node) : Prop := node.weight ≤ weightLimit

instance (node : Node) : Decidable node.Fits := inferInstanceAs (Decidable (_ ≤ _))

/-- A character that stands for itself. -/
def charPart (c : Char) : Part := ⟨.oneOf (.single c.toNat), 0, false⟩

/-- The flags leave case alone. -/
def Reading.KeepsCase (reading : Reading) : Prop := reading.level.flags.ignoreCase = false

/-- Adds characters that stand for themselves. -/
def Reading.addText (reading : Reading) (cs : List Char) : Reading :=
  { reading with level :=
    { reading.level with parts := (cs.map charPart).reverse ++ reading.level.parts } }

variable {flags : Flags} {reading : Reading} {c : Char} {cs ds rest : List Char} {count : Nat}

/-! ## Characters -/

/-- Without the flag `x` all characters are heeded. -/
theorem heeded_of_not_extended (cs : List Char) : heeded false cs = cs :=
  List.filter_eq_self.2 fun _ _ => rfl

/-- All characters are heeded without the flag `x` or where there is no blank. -/
theorem heeded_eq_self_iff {extended : Bool} :
    heeded extended cs = cs ↔ extended = false ∨ ∀ c ∈ cs, Text.isBlank c = false := by
  cases extended <;> simp [heeded]

/-- A blank that is skipped is not heeded. -/
theorem heeded_cons_of_skipped {extended : Bool} (h : (extended && Text.isBlank c) = true)
    (cs : List Char) : heeded extended (c :: cs) = heeded extended cs :=
  List.filter_cons_of_neg (by rw [h]; decide)

/-- A character that is not skipped is heeded. -/
theorem heeded_cons_of_not_skipped {extended : Bool} (h : (extended && Text.isBlank c) = false)
    (cs : List Char) : heeded extended (c :: cs) = c :: heeded extended cs :=
  List.filter_cons_of_pos (by rw [h]; rfl)

/-- No more characters are heeded than there are. -/
theorem length_heeded_le (extended : Bool) (cs : List Char) :
    (heeded extended cs).length ≤ cs.length := List.length_filter_le _ cs

/-- Quoting makes a text no shorter. -/
theorem length_le_length_quote (cs : List Char) : cs.length ≤ (quote cs).length := by
  induction cs with
  | nil => exact Nat.zero_le _
  | cons c cs ih =>
    rw [quote]
    split
    · simp only [List.length_cons]
      omega
    · exact Nat.succ_le_succ ih

/-- A text without meta characters is quoted as itself. -/
theorem quote_of_not_meta (h : ∀ c ∈ cs, isMeta c = false) : quote cs = cs := by
  induction cs with
  | nil => rfl
  | cons c cs ih =>
    obtain ⟨hc, hcs⟩ := List.forall_mem_cons.1 h
    rw [quote, if_neg (by simp [hc]), ih hcs]

/-- The meta characters, one by one. -/
theorem isMeta_iff : isMeta c = true ↔ c ∈ metaCharacters := List.contains_iff_mem

/-- No meta character is a blank. -/
theorem isBlank_of_isMeta (h : isMeta c = true) : Text.isBlank c = false := by
  have hblank : ∀ c ∈ metaCharacters, Text.isBlank c = false :=
    List.all_iff_forall_prop.1 (by decide)
  exact hblank c (isMeta_iff.1 h)

/-- No letter is a meta character. -/
theorem isMeta_of_isAlpha (h : c.isAlpha = true) : isMeta c = false := by
  have hletter : ∀ c ∈ metaCharacters, c.isAlpha = false :=
    List.all_iff_forall_prop.1 (by decide)
  by_contra hmeta
  rw [hletter c (isMeta_iff.1 (Bool.of_not_eq_false hmeta))] at h
  cases h

/-! ## Skipping -/

/-- At the end there is nothing to skip. -/
theorem Flags.skip_nil (flags : Flags) : flags.skip [] = [] := by
  unfold skip
  split <;> rfl

/-- A character that is not skipped stays, unless it starts a comment. -/
theorem Flags.skip_cons (hblank : (flags.extended && Text.isBlank c) = false) (hsign : c ≠ '#')
    (cs : List Char) : flags.skip (c :: cs) = c :: cs := by
  unfold skip
  split
  · next hextended =>
    have hc : Text.isBlank c = false := by simpa [hextended] using hblank
    simp [skipBlanks, hc, hsign]
  · rfl

/-- A blank is skipped in an extended pattern. -/
theorem Flags.skip_blank (hblank : (flags.extended && Text.isBlank c) = true) (cs : List Char) :
    flags.skip (c :: cs) = flags.skip cs := by
  obtain ⟨hextended, hc⟩ := Bool.and_eq_true_iff.1 hblank
  simp [skip, hextended, skipBlanks, hc]

/-! ## Steps -/

namespace Reading

/-- Reading stops at the end of the text. -/
theorem steps?_nil (count : Nat) (reading : Reading) : steps? count reading [] = some reading := by
  cases count <;> simp [steps?, Flags.skip_nil]

/-- A step of reading starts at the first character that is not skipped. -/
theorem steps?_of_skip (h : reading.level.flags.skip cs = c :: ds) :
    steps? (count + 1) reading cs =
      (reading.step? c ds).bind fun (reading, rest) => steps? count reading rest := by
  rw [steps?.eq_def]
  dsimp only
  rw [h]

/-- What is skipped does not matter to the steps. -/
theorem steps?_congr (h : reading.level.flags.skip cs = reading.level.flags.skip ds) :
    steps? count reading cs = steps? count reading ds := by
  rw [steps?.eq_def, steps?.eq_def]
  dsimp only
  rw [h]

/-- Where case is heeded, an escaped character stands for itself only. -/
theorem ofEscape_char (h : flags.ignoreCase = false) (c : Char) :
    ofEscape flags (.char c) = .oneOf (.single c.toNat) := by
  simp [ofEscape, Flags.fold, h]

/-- A character without a meaning of its own stands for itself. -/
theorem step?_of_not_meta (hcase : reading.KeepsCase) (h : isMeta c = false) (cs : List Char) :
    reading.step? c cs = some (reading.addText [c], cs) := by
  have hne : ∀ d, isMeta d = true → c ≠ d := by
    rintro d hd rfl
    rw [h] at hd
    cases hd
  have hchar : reading.step? c cs =
      some (reading.add ⟨ofEscape reading.level.flags (.char c), 0, false⟩ cs) := by
    unfold step?
    split
    all_goals first
      | exact absurd rfl (hne _ (by decide))
      | rfl
  rw [hchar, ofEscape_char hcase]
  rfl

/-- So does any other after a backslash. -/
theorem step?_backslash (hcase : reading.KeepsCase) (h : isMeta c = true) (cs : List Char) :
    reading.step? '\\' (c :: cs) = some (reading.addText [c], cs) := by
  have hescape : Escape.read? reading.level.flags (c :: cs) = some (.char c, cs) :=
    if_pos (Bool.or_eq_true_iff.2 (.inl h))
  show (Escape.read? reading.level.flags (c :: cs)).map _ = _
  rw [hescape, Option.map_some]
  dsimp only
  rw [ofEscape_char hcase]
  rfl

/-- Texts read one after the other are read as one text. -/
theorem addText_append (reading : Reading) (cs ds : List Char) :
    (reading.addText cs).addText ds = reading.addText (cs ++ ds) := by
  simp [addText]

/-- **Quoted characters are read as themselves**, as far as they are heeded. -/
theorem steps?_quote (hcase : reading.KeepsCase) (count : Nat) (cs rest : List Char) :
    steps? (count + (heeded reading.level.flags.extended cs).length) reading (quote cs ++ rest) =
      steps? count (reading.addText (heeded reading.level.flags.extended cs)) rest := by
  induction cs generalizing reading with
  | nil => rfl
  | cons c cs ih =>
    by_cases hskipped : (reading.level.flags.extended && Text.isBlank c) = true
    -- a blank is not quoted, and no step is made for it
    · have hmeta : isMeta c = false := by
        by_contra hmeta
        rw [isBlank_of_isMeta (Bool.of_not_eq_false hmeta), Bool.and_false] at hskipped
        cases hskipped
      rw [heeded_cons_of_skipped hskipped, quote, if_neg (by simp [hmeta]), List.cons_append,
        steps?_congr (Flags.skip_blank hskipped _), ih hcase]
    · have hheeded := Bool.of_not_eq_true hskipped
      have hrest := @ih (reading.addText [c]) hcase
      rw [addText_append] at hrest
      rw [heeded_cons_of_not_skipped hheeded, List.length_cons, ← Nat.add_assoc]
      -- the character stands after a backslash or for itself
      by_cases hmeta : isMeta c = true
      · have hskip : reading.level.flags.skip ('\\' :: c :: (quote cs ++ rest)) =
            '\\' :: c :: (quote cs ++ rest) :=
          Flags.skip_cons (Bool.and_eq_false_iff.2 (.inr (by decide))) (by decide) _
        rw [quote, if_pos hmeta]
        show steps? _ reading ('\\' :: c :: (quote cs ++ rest)) = _
        rw [steps?_of_skip hskip, step?_backslash hcase hmeta]
        exact hrest
      · have hmeta := Bool.of_not_eq_true hmeta
        have hsign : c ≠ '#' := by
          rintro rfl
          exact absurd hmeta (by decide)
        rw [quote, if_neg (by simp [hmeta]), List.cons_append,
          steps?_of_skip (Flags.skip_cons hheeded hsign _), step?_of_not_meta hcase hmeta]
        exact hrest

end Reading

/-! ## Sequences -/

/-- Characters that stand for themselves, as one part. -/
def textPart (cs : List Char) : Part := .sequence (cs.map charPart)

/-- The expression of a text that was read. -/
theorem node_textPart (cs : List Char) : (textPart cs).node = .ofText cs := by
  match cs with
  | [] => rfl
  | [_] => rfl
  | c :: d :: cs =>
    show Node.sequence ((charPart c :: charPart d :: cs.map charPart).map Part.node) = _
    rw [← List.map_cons, ← List.map_cons, List.map_map]
    rfl

/-- A text is not nested. -/
theorem depth_textPart_le (cs : List Char) : (textPart cs).depth ≤ 1 := by
  have hdepths : Part.depths (cs.map charPart) = 0 := by
    induction cs with
    | nil => rfl
    | cons c cs ih => exact ih
  match cs with
  | [] => exact Nat.zero_le _
  | [_] => exact Nat.zero_le _
  | c :: d :: cs =>
    exact (congrArg (· + 1) hdepths).le

/-- A level in which nothing but a text was read closes to the part of the text. -/
theorem close_addText (flags : Flags) (cs : List Char) (outer : List (Option Nat × Level))
    (number : Nat) (names : List (String × Nat)) :
    (Reading.addText ⟨⟨[], [], flags⟩, outer, number, names⟩ cs).level.close = textPart cs := by
  show Part.alternatives [Part.sequence ((cs.map charPart).reverse ++ []).reverse] = textPart cs
  rw [List.append_nil, List.reverse_reverse]
  rfl

/-! ## Size -/

/-- The weight of a text grows with its length. -/
theorem weight_ofText_le (cs : List Char) : (Node.ofText cs).weight ≤ 128 * cs.length + 32 := by
  have hchar : ∀ c : Char, (Node.oneOf (.single c.toNat)).weight ≤ 128 := by
    intro c
    show (if c.toNat < 0x80 then 32 else 128) ≤ 128
    split <;> decide
  induction cs with
  | nil => exact Nat.le_refl 32
  | cons c cs ih =>
    cases cs with
    | nil => exact (hchar c).trans (show 128 ≤ 128 * 1 + 32 by decide)
    | cons d cs =>
      show (Node.oneOf (.single c.toNat)).weight + (Node.ofText (d :: cs)).weight ≤ _
      have := hchar c
      simp only [List.length_cons] at ih ⊢
      omega

/-- A text of less than 81920 characters is small enough, also as a group. -/
theorem Node.fits_ofText (h : cs.length < 81920) (index : Nat) :
    (Node.ofText cs).Fits ∧ (Node.group index (.ofText cs)).Fits := by
  have := weight_ofText_le cs
  constructor
  · show (Node.ofText cs).weight ≤ 10 * 1024 * 1024
    omega
  · show 64 + (Node.ofText cs).weight ≤ 10 * 1024 * 1024
    omega

/-! ## Patterns -/

/-- The reading that a pattern starts with. -/
def Reading.start (flags : Flags) : Reading := ⟨⟨[], [], flags⟩, [], 0, []⟩

/-- What is read when all groups are closed. -/
theorem read?_of_steps (hsteps : Reading.steps? cs.length (.start flags) cs = some reading)
    (houter : reading.outer = []) (hdepth : reading.level.close.depth ≤ depthLimit)
    (hfits : reading.level.close.node.Fits) :
    read? flags cs = some (reading.level.close.node, reading.names) := by
  unfold Reading.start at hsteps
  rw [read?, hsteps]
  dsimp only [bind, Option.bind]
  rw [houter, if_neg (by simp), if_neg hdepth.not_gt, if_neg (Nat.not_lt.2 hfits)]
  rfl

/-- **A quoted text is read as its characters**, as far as they are heeded. -/
theorem read?_quote (hcase : flags.ignoreCase = false)
    (hfits : (Node.ofText (heeded flags.extended cs)).Fits) :
    read? flags (quote cs) = some (.ofText (heeded flags.extended cs), []) := by
  -- there are steps for all characters of the quoted text, and so for those that are heeded
  obtain ⟨count, hcount⟩ := Nat.exists_eq_add_of_le'
    ((length_heeded_le flags.extended cs).trans (length_le_length_quote cs))
  have hclose : ((Reading.start flags).addText (heeded flags.extended cs)).level.close =
      textPart (heeded flags.extended cs) := close_addText _ _ _ _ _
  have hkeeps : (Reading.start flags).KeepsCase := hcase
  have hsteps : Reading.steps? (quote cs).length (.start flags) (quote cs) =
      some ((Reading.start flags).addText (heeded flags.extended cs)) := by
    have hquote := Reading.steps?_quote hkeeps count cs []
    rw [List.append_nil, Reading.steps?_nil] at hquote
    rw [hcount]
    exact hquote
  have hread := read?_of_steps hsteps rfl (hclose ▸ (depth_textPart_le _).trans (by decide))
  rw [hclose, node_textPart] at hread
  exact hread hfits

/-- A parenthesis that no question mark follows opens a group with a number. -/
theorem Reading.startGroup?_cons (hext : reading.level.flags.extended = false) (hsign : c ≠ '?')
    (cs : List Char) : reading.startGroup? (c :: cs) = some (reading.openNumbered, c :: cs) := by
  rw [startGroup?, Flags.skip_of_not_extended hext]
  split
  all_goals first
    | exact absurd (List.cons.inj ‹_›).1 hsign
    | rfl

/-- The group of some characters is closed after them. -/
theorem Reading.steps?_group (hne : cs ≠ []) (hmeta : ∀ c ∈ cs, isMeta c = false) :
    steps? (cs.length + 2) (.start {}) ('(' :: (cs ++ [')'])) =
      some ⟨⟨[], [⟨.group 1 (.ofText cs), (textPart cs).depth + 1, false⟩], {}⟩, [], 1, []⟩ := by
  have hopen : (Reading.start {}).step? '(' (cs ++ [')']) =
      some ((Reading.start {}).openNumbered, cs ++ [')']) := by
    -- a question mark after the bracket would make it another kind of group
    obtain ⟨c, cs, rfl⟩ := List.exists_cons_of_ne_nil hne
    refine startGroup?_cons rfl ?_ _
    rintro rfl
    exact absurd (hmeta '?' List.mem_cons_self) (by decide)
  have hkeeps : (Reading.start {}).openNumbered.KeepsCase := rfl
  have htext := steps?_quote hkeeps 1 cs [')']
  have hheeded : heeded (Reading.start {}).openNumbered.level.flags.extended cs = cs :=
    heeded_of_not_extended cs
  rw [quote_of_not_meta hmeta, hheeded, Nat.add_comm] at htext
  have hclose : ((Reading.start {}).openNumbered.addText cs).step? ')' [] = some
      (⟨⟨[], [⟨.group 1 (.ofText cs), (textPart cs).depth + 1, false⟩], {}⟩, [], 1, []⟩, []) := by
    rw [← node_textPart, ← close_addText {} cs [(some 1, ⟨[], [], {}⟩)] 1 []]
    rfl
  rw [steps?_of_skip (Flags.skip_of_not_extended rfl _), hopen, Option.bind_some]
  dsimp only
  rw [htext, steps?_of_skip (Flags.skip_of_not_extended rfl _), hclose, Option.bind_some]
  exact steps?_nil 0 _

/-- **A text in parentheses is read as a group of its characters**, if none has a meaning of its
own. -/
theorem read?_group (hne : cs ≠ []) (hmeta : ∀ c ∈ cs, isMeta c = false)
    (hfits : (Node.group 1 (.ofText cs)).Fits) :
    read? {} ('(' :: (cs ++ [')'])) = some (.group 1 (.ofText cs), []) := by
  have hlength : ('(' :: (cs ++ [')'])).length = cs.length + 2 := by simp
  have hdepth : (textPart cs).depth + 1 ≤ depthLimit :=
    (Nat.succ_le_succ (depth_textPart_le cs)).trans (by decide)
  have hsteps := Reading.steps?_group hne hmeta
  rw [← hlength] at hsteps
  exact read?_of_steps hsteps rfl hdepth hfits

end SolutionAlgebra.Pattern
