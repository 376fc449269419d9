import SolutionAlgebra.LanguageTag
import SolutionAlgebra.Proofs.Fallible

/-! # The characters of a language tag

A tag in lower case reads as itself, and its characters are ASCII letters, ASCII digits and
hyphens.

* **`LanguageTag.Accepted`** — a tag in the form in which reading leaves it.
* **`LanguageTag.Accepted.isCharacter`** — the characters of such a tag. -/

namespace SolutionAlgebra.LanguageTag

/-- The characters of a tag. -/
def isCharacter (c : Char) : Bool := c.isAlphanum || c == '-'

/-- A tag in the form in which reading leaves it. -/
def Accepted (tag : String) : Prop := parse tag = .ok tag

/-! ## Lower case -/

/-- The code of a letter in lower case: 32 places further for a capital letter. -/
theorem toNat_toLower (c : Char) :
    c.toLower.toNat = if 65 ≤ c.toNat ∧ c.toNat ≤ 90 then c.toNat + 32 else c.toNat := by
  by_cases h : 'A'.val ≤ c.val ∧ c.val ≤ 'Z'.val
  · have hrange : 65 ≤ c.toNat ∧ c.toNat ≤ 90 := h
    have hlower : c.toLower.val = c.val + 32 := congrArg Char.val (dif_pos h)
    rw [if_pos hrange, Char.toNat, hlower, UInt32.toNat_add]
    show (c.toNat + 32) % 4294967296 = c.toNat + 32
    omega
  · have hrange : ¬ (65 ≤ c.toNat ∧ c.toNat ≤ 90) := h
    have hlower : c.toLower = c := dif_neg h
    rw [if_neg hrange, hlower]

/-- A letter in lower case stays as it is. -/
theorem toLower_toLower (c : Char) : c.toLower.toLower = c.toLower := by
  have hcode : c.toLower.toLower.toNat = c.toLower.toNat := by
    have hlower := toNat_toLower c
    rw [toNat_toLower c.toLower]
    -- 32 places further there is no capital letter
    split at hlower <;> split <;> omega
  exact Char.toNat_inj.1 hcode

/-- Reading leaves a tag in the form in which it is accepted. -/
theorem accepted_of_parse {text tag : String} (h : parse text = .ok tag) : Accepted tag := by
  obtain ⟨⟨⟩, hcheck, rfl⟩ := map_eq_ok_iff.1 h
  have hlower : (text.toList.map Char.toLower).map Char.toLower = text.toList.map Char.toLower := by
    rw [List.map_map]
    exact List.map_congr_left fun c _ => toLower_toLower c
  rw [Accepted, parse, String.toList_ofList, hlower]
  exact h

/-! ## Subtags -/

/-- A text is its pieces with separators between them, so its characters are in the pieces. -/
theorem mem_splitOn (separator : Char) {c : Char} {cs : List Char} (h : c ∈ cs) :
    c = separator ∨ ∃ piece ∈ Text.splitOn separator cs, c ∈ piece := by
  induction cs with
  | nil => exact absurd h List.not_mem_nil
  | cons d cs ih =>
      rw [Text.splitOn, List.foldr_cons, ← Text.splitOn]
      -- a separator starts a piece, another character joins the first piece of the rest
      by_cases hd : d = separator
      · rw [if_pos (by simpa using hd)]
        rcases List.mem_cons.1 h with rfl | h
        · exact .inl hd
        · rcases ih h with hc | ⟨piece, hpiece, hc⟩
          · exact .inl hc
          · exact .inr ⟨piece, List.mem_cons_of_mem _ hpiece, hc⟩
      · rw [if_neg (by simpa using hd)]
        cases hsplit : Text.splitOn separator cs with
        | nil =>
            rcases List.mem_cons.1 h with rfl | h
            · exact .inr ⟨[c], List.mem_singleton_self _, List.mem_singleton_self _⟩
            · rcases ih h with hc | ⟨piece, hpiece, -⟩
              · exact .inl hc
              · rw [hsplit] at hpiece
                exact absurd hpiece List.not_mem_nil
        | cons first rest =>
            rcases List.mem_cons.1 h with rfl | h
            · exact .inr ⟨c :: first, List.mem_cons_self, List.mem_cons_self⟩
            · rcases ih h with hc | ⟨piece, hpiece, hc⟩
              · exact .inl hc
              · rw [hsplit] at hpiece
                rcases List.mem_cons.1 hpiece with rfl | hpiece
                · exact .inr ⟨d :: piece, List.mem_cons_self, List.mem_cons_of_mem _ hc⟩
                · exact .inr ⟨piece, List.mem_cons_of_mem _ hpiece, hc⟩

/-- Letters are letters or digits. -/
theorem isAlphanumeric_of_isAlphabetic {cs : List Char} (h : isAlphabetic cs = true) :
    isAlphanumeric cs = true := by
  simp only [isAlphabetic, isAlphanumeric, List.all_eq_true] at h ⊢
  intro c hc
  rw [Char.isAlphanum, h c hc, Bool.true_or]

/-- A region has letters or digits only. -/
theorem isAlphanumeric_of_isRegion {cs : List Char} (h : isRegion cs = true) :
    isAlphanumeric cs = true := by
  simp only [isRegion, Bool.or_eq_true, Bool.and_eq_true] at h
  rcases h with ⟨-, h⟩ | ⟨-, h⟩
  · exact isAlphanumeric_of_isAlphabetic h
  · simp only [isNumeric, isAlphanumeric, List.all_eq_true] at h ⊢
    intro c hc
    rw [Char.isAlphanum, h c hc, Bool.or_true]

/-- A subtag that is read holds letters and digits only. -/
theorem isAlphanumeric_of_next {stage after : Stage} {subtag : List Char}
    (h : stage.next subtag = .ok after) : isAlphanumeric subtag = true := by
  unfold Stage.next at h
  split at h
  · -- a subtag of the private-use part
    split at h
    · assumption
    · cases h
  · split at h
    · -- a single character, which starts an extension or the private-use part
      next hone => exact (Bool.and_eq_true_iff.1 hone).2
    · split at h
      · -- a subtag of an extension
        split at h
        · assumption
        · cases h
      · -- an extended language, a script, a region or a variant
        split at h
        · next hletters _ _ =>
          exact isAlphanumeric_of_isAlphabetic (Bool.and_eq_true_iff.1 hletters).2
        · split at h
          · next hscript =>
            exact isAlphanumeric_of_isAlphabetic (Bool.and_eq_true_iff.1 hscript).2
          · split at h
            · next hregion =>
              exact isAlphanumeric_of_isRegion (Bool.and_eq_true_iff.1 hregion).2
            · split at h
              · next hvariant =>
                have hv := (Bool.and_eq_true_iff.1 hvariant).2
                exact (Bool.and_eq_true_iff.1 hv).1
              · cases h

/-- Subtags that are read hold letters and digits only. -/
theorem isAlphanumeric_of_readSubtags {stage : Stage} {subtags : List (List Char)}
    (h : readSubtags stage subtags = .ok ()) :
    ∀ subtag ∈ subtags, isAlphanumeric subtag = true := by
  induction subtags generalizing stage with
  | nil => exact fun _ hs => absurd hs List.not_mem_nil
  | cons subtag rest ih =>
      obtain ⟨_, -, h⟩ := bind_eq_ok_iff.1 h
      obtain ⟨after, hnext, h⟩ := bind_eq_ok_iff.1 h
      exact List.forall_mem_cons.2 ⟨isAlphanumeric_of_next hnext, ih h⟩

/-- A language and the subtags after it hold letters and digits only. -/
theorem isAlphanumeric_of_readLanguage {subtags : List (List Char)}
    (h : readLanguage subtags = .ok ()) : ∀ subtag ∈ subtags, isAlphanumeric subtag = true := by
  cases subtags with
  | nil => cases h
  | cons subtag rest =>
      obtain ⟨_, -, h⟩ := bind_eq_ok_iff.1 h
      split at h
      · cases h
      · next hlanguage =>
        simp only [Bool.or_eq_true, Bool.not_eq_true', not_or, Bool.not_eq_false] at hlanguage
        exact List.forall_mem_cons.2
          ⟨isAlphanumeric_of_isAlphabetic hlanguage.2, isAlphanumeric_of_readSubtags h⟩

/-! ## Whole tags -/

/-- A text whose pieces between hyphens hold letters and digits only is made of characters of
tags. -/
theorem isCharacter_of_splitOn {cs : List Char}
    (h : ∀ subtag ∈ Text.splitOn '-' cs, isAlphanumeric subtag = true) :
    ∀ c ∈ cs, isCharacter c = true := by
  intro c hc
  rcases mem_splitOn '-' hc with rfl | ⟨subtag, hsubtag, hc⟩
  · rfl
  · have hc := List.all_eq_true.1 (h subtag hsubtag) c hc
    rw [isCharacter, hc, Bool.true_or]

/-- A tag that passes the check is not empty and made of characters of tags. -/
theorem isCharacter_of_check {cs : List Char} (h : check cs = .ok ()) :
    cs ≠ [] ∧ ∀ c ∈ cs, isCharacter c = true := by
  unfold check at h
  split at h
  · next hlisted =>
    have hall : (grandfathered.all fun tag =>
        !tag.toList.isEmpty && tag.toList.all isCharacter) = true := by decide
    have htag := List.all_eq_true.1 hall (String.ofList cs) (List.contains_iff_mem.1 hlisted)
    rw [String.toList_ofList, Bool.and_eq_true, Bool.not_eq_true', List.isEmpty_eq_false_iff,
      List.all_eq_true] at htag
    exact htag
  · split at h
    · -- a tag that is private use as a whole
      next rest =>
      split at h
      · cases h
      · refine ⟨List.cons_ne_nil _ _, ?_⟩
        have hrest := isCharacter_of_splitOn (isAlphanumeric_of_readSubtags h)
        exact List.forall_mem_cons.2 ⟨rfl, List.forall_mem_cons.2 ⟨rfl, hrest⟩⟩
    · refine ⟨?_, isCharacter_of_splitOn (isAlphanumeric_of_readLanguage h)⟩
      rintro rfl
      -- the one piece of the empty text is an empty subtag
      cases h

/-- **An accepted tag is not empty and made of letters, digits and hyphens.** -/
theorem Accepted.isCharacter {tag : String} (h : Accepted tag) :
    tag.toList ≠ [] ∧ ∀ c ∈ tag.toList, LanguageTag.isCharacter c = true := by
  obtain ⟨⟨⟩, hcheck, htag⟩ := map_eq_ok_iff.1 h
  rw [← htag, String.toList_ofList]
  exact isCharacter_of_check hcheck

end SolutionAlgebra.LanguageTag
