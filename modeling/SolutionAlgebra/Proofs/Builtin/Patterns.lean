import SolutionAlgebra.Proofs.Builtin.Strings
import SolutionAlgebra.Proofs.Pattern.Occurrences
import SolutionAlgebra.Proofs.Pattern.Quotation

/-! # Texts as patterns

A pattern under the flag `q` is quoted, so that it is found where its own text occurs. Quoting
leaves blanks as they are, and the flag `x` takes them out of a quoted pattern as well. In a
replacement the number of a group goes on with the letters after it, so that a text in parentheses
is put back by its number only if no letters follow.

* **`Builtin.MatchesQuoted`**, **`Builtin.matchesQuoted`** — what is answered about quoted patterns.
* **`Builtin.ReplacesGroup`**, **`Builtin.replacesGroup`** — what replacing a text in parentheses by
  the number of its group gives. -/

namespace SolutionAlgebra.Builtin

open Pattern (heeded Node)

variable (present : Calendar.Moment) (draw : Unit → Nat)

/-! ## Flags -/

/-- The letters that are flags. -/
def flagLetters : List Char := ['i', 'm', 's', 'x', 'q']

variable {function : String} {pattern flags : List Char} {s p f r : Literal}

/-- Each letter sets its own flag and goes on with the others. -/
theorem exists_setFlags_cons (function : String) {letter : Char} (h : letter ∈ flagLetters)
    (settings : Pattern.Flags) : ∃ settings' : Pattern.Flags,
      (∀ flags, setFlags function settings (letter :: flags) =
        setFlags function settings' flags) ∧
      settings'.ignoreCase = (settings.ignoreCase || letter == 'i') ∧
      settings'.extended = (settings.extended || letter == 'x') := by
  simp only [flagLetters, List.mem_cons, List.not_mem_nil, or_false] at h
  rcases h with rfl | rfl | rfl | rfl | rfl
  · exact ⟨{ settings with ignoreCase := true }, fun _ => rfl, by simp, by simp⟩
  · exact ⟨{ settings with multiLine := true }, fun _ => rfl, by simp, by simp⟩
  · exact ⟨{ settings with dotAll := true }, fun _ => rfl, by simp, by simp⟩
  · exact ⟨{ settings with extended := true }, fun _ => rfl, by simp, by simp⟩
  · exact ⟨settings, fun _ => rfl, by simp, by simp⟩

/-- Letters in any order, also repeated, are flags. -/
theorem exists_setFlags (function : String) (h : ∀ c ∈ flags, c ∈ flagLetters)
    (settings : Pattern.Flags) :
    ∃ settings', setFlags function settings flags = .ok settings' ∧
      settings'.ignoreCase = (settings.ignoreCase || flags.contains 'i') ∧
      settings'.extended = (settings.extended || flags.contains 'x') := by
  induction flags generalizing settings with
  | nil => exact ⟨settings, rfl, by simp, by simp⟩
  | cons c flags ih =>
    obtain ⟨hc, hflags⟩ := List.forall_mem_cons.1 h
    obtain ⟨settings₁, hstep, hi₁, hx₁⟩ := exists_setFlags_cons function hc settings
    obtain ⟨settings₂, hset, hi₂, hx₂⟩ := ih hflags settings₁
    refine ⟨settings₂, (hstep flags).trans hset, ?_, ?_⟩
    · rw [hi₂, hi₁, List.contains_cons, Bool.beq_comm, Bool.or_assoc]
    · rw [hx₂, hx₁, List.contains_cons, Bool.beq_comm, Bool.or_assoc]

/-- The text that a pattern quoted under some flags stands for. -/
def quotedText (pattern flags : List Char) : List Char := heeded (flags.contains 'x') pattern

/-- A pattern that is read as an expression is compiled from it. -/
theorem compilePattern_of_read {settings : Pattern.Flags} {node : Node}
    (hset : setFlags function {} flags = .ok settings)
    (hread : Pattern.read? settings
      (if flags.contains 'q' then Pattern.quote pattern else pattern) = some (node, [])) :
    compilePattern function pattern flags = .ok (.ofNode node []) := by
  rw [compilePattern, hset]
  dsimp only [bind, Except.bind]
  rw [Pattern.compile?, hread]
  rfl

/-- A quoted pattern is compiled from the text that it stands for. -/
theorem compilePattern_quoted (hflags : ∀ c ∈ flags, c ∈ flagLetters) (hquote : 'q' ∈ flags)
    (hcase : 'i' ∉ flags) (hfits : (Node.ofText (quotedText pattern flags)).Fits) :
    compilePattern function pattern flags =
      .ok (.ofNode (.ofText (quotedText pattern flags)) []) := by
  obtain ⟨settings, hset, hi, hx⟩ := exists_setFlags function hflags {}
  have hcase' : settings.ignoreCase = false := by simpa [hcase] using hi
  have hextended : settings.extended = flags.contains 'x' := by simpa using hx
  have hquote' : flags.contains 'q' = true := List.contains_iff_mem.2 hquote
  rw [quotedText, ← hextended] at hfits ⊢
  refine compilePattern_of_read hset ?_
  rw [if_pos hquote', Pattern.read?_quote hcase' hfits]

/-! ## Quoted patterns -/

/-- What is answered about a pattern under flags that quote it and do not let case be ignored. -/
structure MatchesQuoted (p f : Literal) : Prop where
  /-- It is found where the text that it stands for occurs. -/
  found : (Node.ofText (quotedText p.chars f.chars)).Fits → ∀ s : Literal, s.isString = true →
    apply present draw .regex (.ofLiterals [s, p, f]) =
      .ok (truthTerm (quotedText p.chars f.chars <:+: s.chars))
  /-- It is small enough with less than 81920 characters. -/
  small : p.chars.length < 81920 → (Node.ofText (quotedText p.chars f.chars)).Fits
  /-- It is found where its own text occurs exactly if no blanks are taken out of it. -/
  contains_iff : (Node.ofText (quotedText p.chars f.chars)).Fits →
    ((∀ s : Literal, s.isString = true → apply present draw .regex (.ofLiterals [s, p, f]) =
        apply present draw (.stringTest .contains) (.ofLiterals [s, p])) ↔
      'x' ∉ f.chars ∨ ∀ c ∈ p.chars, Text.isBlank c = false)

/-- A quoted pattern is found where the text that it stands for occurs. -/
theorem apply_regex_quoted (hs : s.isString = true) (hflags : ∀ c ∈ f.chars, c ∈ flagLetters)
    (hquote : 'q' ∈ f.chars) (hcase : 'i' ∉ f.chars)
    (hfits : (Node.ofText (quotedText p.chars f.chars)).Fits) :
    apply present draw .regex (.ofLiterals [s, p, f]) =
      .ok (truthTerm (quotedText p.chars f.chars <:+: s.chars)) := by
  have hsource : (Arguments.ofLiterals [s, p, f]).string regex.name 0 = .ok s :=
    Arguments.string_eq_ok rfl hs
  show ((Arguments.ofLiterals [s, p, f]).string regex.name 0 >>= fun source =>
    compilePattern regex.name p.chars f.chars >>= fun machine =>
      pure (truthTerm (machine.matches? source.chars))) = _
  rw [hsource, compilePattern_quoted hflags hquote hcase hfits]
  have hspells := Pattern.Machine.spells_ofText (quotedText p.chars f.chars) []
  rw [← Bool.eq_iff_iff.2 ((hspells.matches?_iff s.chars).trans decide_eq_true_iff.symm)]
  rfl

/-- **Quoted patterns stand for their texts**, less the blanks that the flag `x` takes out. -/
theorem matchesQuoted (hp : p.isString = true) (hflags : ∀ c ∈ f.chars, c ∈ flagLetters)
    (hquote : 'q' ∈ f.chars) (hcase : 'i' ∉ f.chars) : MatchesQuoted present draw p f := by
  refine ⟨fun hfits s hs => apply_regex_quoted present draw hs hflags hquote hcase hfits,
    fun hshort => (Node.fits_ofText ((Pattern.length_heeded_le _ _).trans_lt hshort) 0).1,
    fun hfits => ?_⟩
  have hanswer {s : Literal} (hs : s.isString = true) :=
    apply_regex_quoted present draw hs hflags hquote hcase hfits
  have hcontains {s : Literal} (hs : s.isString = true) :=
    (finds_of_isString present draw hs hp).contains
  have hself : quotedText p.chars f.chars = p.chars ↔
      'x' ∉ f.chars ∨ ∀ c ∈ p.chars, Text.isBlank c = false := by
    rw [quotedText, Pattern.heeded_eq_self_iff, ← Bool.not_eq_true, List.contains_iff_mem]
  rw [← hself]
  constructor
  · -- the text that the pattern stands for occurs in itself, and is no longer than the pattern
    intro hagree
    have htext : (Literal.plain (String.ofList (quotedText p.chars f.chars))).chars =
        quotedText p.chars f.chars := String.toList_ofList
    have hmatch := hagree (.plain (String.ofList (quotedText p.chars f.chars))) rfl
    rw [hanswer rfl, hcontains rfl, ok_truthTerm_inj, htext] at hmatch
    have hoccurs : p.chars <:+: quotedText p.chars f.chars := by simpa using hmatch
    exact (hoccurs.eq_of_length_le (Pattern.length_heeded_le _ _)).symm
  · intro heq s hs
    rw [hanswer hs, hcontains hs, heq]

/-- A pattern with signs and blanks, under flags that leave the blanks in it. -/
theorem matchesQuoted_sum :
    let p : Literal := .plain "(a + b)* #"
    let f : Literal := .plain "smqq"
    p.isString = true ∧ (∀ c ∈ f.chars, c ∈ flagLetters) ∧ 'q' ∈ f.chars ∧ 'i' ∉ f.chars ∧
      MatchesQuoted ⟨0, 0, 0⟩ (fun _ => 0) p f := by
  have hflags : ∀ c ∈ (Literal.plain "smqq").chars, c ∈ flagLetters :=
    List.all_iff_forall_prop.1 (by decide)
  exact ⟨by decide, hflags, by decide, by decide,
    matchesQuoted _ _ (by decide) hflags (by decide) (by decide)⟩

/-- The blank of a quoted pattern is lost under the flag `x`. -/
theorem not_regex_eq_contains : ¬ ∀ s p f : Literal, s.isString = true → p.isString = true →
    (∀ c ∈ f.chars, c ∈ flagLetters) → 'q' ∈ f.chars → 'i' ∉ f.chars →
      apply ⟨0, 0, 0⟩ (fun _ => 0) .regex (.ofLiterals [s, p, f]) =
        apply ⟨0, 0, 0⟩ (fun _ => 0) (.stringTest .contains) (.ofLiterals [s, p]) := by
  intro h
  have hflags : ∀ c ∈ (Literal.plain "qx").chars, c ∈ flagLetters :=
    List.all_iff_forall_prop.1 (by decide)
  have hagree := h (.plain "ab") (.plain "a b") (.plain "qx") rfl rfl hflags (by decide)
    (by decide)
  rw [apply_regex_quoted _ _ rfl hflags (by decide) (by decide) (by decide),
    apply_stringTest _ _ rfl rfl, ok_truthTerm_inj] at hagree
  exact absurd hagree (by decide)

/-! ## Groups put back -/

/-- What is answered when a text in parentheses is replaced by the number of its group with letters
after it. -/
structure ReplacesGroup (u w : List Char) (s p r : Literal) : Prop where
  /-- Its occurrences stay if there are no letters, and are taken out if there are some. -/
  replaced : (Node.group 1 (.ofText u)).Fits → ∃ cs,
    Text.Replaced u (if w = [] then u else []) s.chars cs ∧
      apply present draw .replace (.ofLiterals [s, p, r]) = .ok (.literal (s.withChars cs))
  /-- It is small enough with less than 81920 characters. -/
  small : u.length < 81920 → (Node.group 1 (.ofText u)).Fits
  /-- The letters come after the occurrences exactly if there are no letters or no occurrences. -/
  followed_iff : (Node.group 1 (.ofText u)).Fits → ∀ cs, Text.Replaced u (u ++ w) s.chars cs →
    (apply present draw .replace (.ofLiterals [s, p, r]) = .ok (.literal (s.withChars cs)) ↔
      w = [] ∨ ¬ u <:+: s.chars)

variable {u w : List Char}

/-- The occurrences of a text in parentheses are replaced by what the machine for it makes of the
number of the group with letters after it. -/
theorem apply_replace_group (hs : s.isString = true) (hp : p.chars = '(' :: (u ++ [')']))
    (hr : r.chars = '$' :: '1' :: w) (hne : u ≠ []) (hletters : ∀ c ∈ u, c.isAlpha = true)
    (hfits : (Node.group 1 (.ofText u)).Fits) :
    apply present draw .replace (.ofLiterals [s, p, r]) =
      .ok (.literal (s.withChars ((Pattern.Machine.ofNode (.group 1 (.ofText u)) []).replaceAll
        ('$' :: '1' :: w) s.chars))) := by
  have hsource : (Arguments.ofLiterals [s, p, r]).string replace.name 0 = .ok s :=
    Arguments.string_eq_ok rfl hs
  have hread :=
    Pattern.read?_group hne (fun c hc => Pattern.isMeta_of_isAlpha (hletters c hc)) hfits
  have hcompile : compilePattern replace.name p.chars [] = _ :=
    compilePattern_of_read rfl (hp ▸ hread)
  show ((Arguments.ofLiterals [s, p, r]).string replace.name 0 >>= fun source =>
    compilePattern replace.name p.chars [] >>= fun machine =>
      pure (Term.literal (source.withChars (machine.replaceAll r.chars source.chars)))) = _
  rw [hsource, hcompile, hr]
  rfl

/-- **A text in parentheses is put back by its number only if no letters follow**: the letters
belong to the name of the group, and there is no group with this name. -/
theorem replacesGroup (hs : s.isString = true) (hp : p.chars = '(' :: (u ++ [')']))
    (hr : r.chars = '$' :: '1' :: w) (hne : u ≠ []) (hletters : ∀ c ∈ u, c.isAlpha = true)
    (hletters' : ∀ c ∈ w, c.isAlpha = true) : ReplacesGroup present draw u w s p r := by
  have hanswer := apply_replace_group present draw hs hp hr hne hletters
  have hreplaced := Pattern.Machine.replaced_replaceAll_group hne hletters' s.chars
  refine ⟨fun hfits => ⟨_, hreplaced, hanswer hfits⟩, fun hshort => (Node.fits_ofText hshort 1).2,
    fun hfits cs hcs => ?_⟩
  have hchars : apply present draw .replace (.ofLiterals [s, p, r]) =
      .ok (.literal (s.withChars cs)) ↔
        (Pattern.Machine.ofNode (.group 1 (.ofText u)) []).replaceAll ('$' :: '1' :: w) s.chars =
          cs := by
    rw [hanswer hfits, Except.ok.injEq, Term.literal.injEq, Literal.withChars_inj]
  rw [hchars]
  by_cases hw : w = []
  · -- the replacement names the group of the match, which is put back
    subst hw
    rw [if_pos rfl] at hreplaced
    rw [List.append_nil] at hcs
    exact iff_of_true (hreplaced.unique hcs) (.inl rfl)
  · -- there is no group of the longer name, and so each match is dropped
    rw [if_neg hw] at hreplaced
    have hlonger : ([] : List Char).length < (u ++ w).length :=
      List.length_pos_iff.2 (List.append_ne_nil_of_left_ne_nil hne w)
    rw [hreplaced.eq_iff hlonger hcs]
    simp [hw]

/-- Occurrences next to each other and apart, in a text with a language. -/
theorem replacesGroup_syllables :
    let s : Literal := ⟨"anana-na", none, some "pt", .string⟩
    let p : Literal := .plain "(na)"
    let r : Literal := .plain "$1h"
    s.isString = true ∧ p.chars = '(' :: (['n', 'a'] ++ [')']) ∧ r.chars = '$' :: '1' :: ['h'] ∧
      ['n', 'a'] ≠ [] ∧ (∀ c ∈ ['n', 'a'], c.isAlpha = true) ∧ (∀ c ∈ ['h'], c.isAlpha = true) ∧
      ReplacesGroup ⟨0, 0, 0⟩ (fun _ => 0) ['n', 'a'] ['h'] s p r := by
  have hletters : ∀ c ∈ ['n', 'a'], c.isAlpha = true := List.all_eq_true.1 (by decide)
  have hletters' : ∀ c ∈ ['h'], c.isAlpha = true := List.all_eq_true.1 (by decide)
  exact ⟨by decide, by decide, by decide, by decide, hletters, hletters',
    replacesGroup _ _ (by decide) (by decide) (by decide) (by decide) hletters hletters'⟩

/-- A letter after the number of a group takes the group out. -/
theorem not_replaced_followed : ¬ ∀ (s p r : Literal) (u w : List Char), s.isString = true →
    p.chars = '(' :: (u ++ [')']) → r.chars = '$' :: '1' :: w → u ≠ [] →
    (∀ c ∈ u, c.isAlpha = true) → (∀ c ∈ w, c.isAlpha = true) →
      ∃ cs, Text.Replaced u (u ++ w) s.chars cs ∧
        apply ⟨0, 0, 0⟩ (fun _ => 0) .replace (.ofLiterals [s, p, r]) =
          .ok (.literal (s.withChars cs)) := by
  intro h
  have hletters : ∀ c ∈ ['b'], c.isAlpha = true := List.all_eq_true.1 (by decide)
  have hletters' : ∀ c ∈ ['x'], c.isAlpha = true := List.all_eq_true.1 (by decide)
  have hne : ['b'] ≠ [] := by decide
  obtain ⟨cs, hcs, hresult⟩ := h (.plain "abc") (.plain "(b)") (.plain "$1x") ['b'] ['x'] rfl
    (by decide) (by decide) hne hletters hletters'
  have hanswer := apply_replace_group ⟨0, 0, 0⟩ (fun _ => 0) (s := .plain "abc") (p := .plain "(b)")
    (r := .plain "$1x") (w := ['x']) rfl (by decide) (by decide) hne hletters (by decide)
  rw [hanswer, Except.ok.injEq, Term.literal.injEq, Literal.withChars_inj] at hresult
  have htaken :=
    Pattern.Machine.replaced_replaceAll_group hne hletters' (Literal.plain "abc").chars
  rw [hresult, if_neg (by decide)] at htaken
  exact absurd ((htaken.eq_iff (by decide) hcs).1 rfl) (by decide)

end SolutionAlgebra.Builtin
