import Mathlib.Data.List.Forall2
import SolutionAlgebra.Proofs.Builtin.Arguments
import SolutionAlgebra.Proofs.Literal.Integers
import SolutionAlgebra.Proofs.Literal.Strings

/-! # Operations on strings

The operations that look for a string in another agree on where it is: at its first occurrence, in
characters as well as in octets. The parts before and after it keep the language and datatype of the
whole, and with it they make up the whole again.

Position and length of a part are integer literals, which hold floating-point numbers. Up to
`2 ^ 53` in size they are these integers exactly, so that a part consists of the characters at the
positions that the integers say; there may be none of them. A position below one is refused.

Strings may be joined at once or in groups whose results are joined: the two results are equal. They
need not be the same literal, since a group of plain strings may state their datatype or not.

* **`Builtin.Finds`**, **`Builtin.finds_of_isString`** — what is answered about two strings.
* **`Builtin.Slices`**, **`Builtin.slices_of_standsFor`** — what is answered about parts of a
  string, for all integers of this size.
* **`Builtin.exists_joined`** — strings joined in groups, and what they have in common with the
  strings. -/

namespace SolutionAlgebra.Builtin

open Decimal
open Octets (utf8)

variable (present : Calendar.Moment) (draw : Unit → Nat)

/-! ## Strings within strings -/

/-- What the operations that look for a string `t` in a string `s` answer. -/
structure Finds (s t : Literal) : Prop where
  /-- Whether `t` occurs in `s`. -/
  contains : apply present draw (.stringTest .contains) (.ofLiterals [s, t]) =
    .ok (truthTerm (t.chars <:+: s.chars))
  /-- Whether `s` starts with `t`. -/
  starts : apply present draw (.stringTest .starts) (.ofLiterals [s, t]) =
    .ok (truthTerm (t.chars <+: s.chars))
  /-- The string `s` starts with `t` exactly if `t` occurs in it with nothing before. -/
  starts_iff :
    apply present draw (.stringTest .starts) (.ofLiterals [s, t]) = .ok (truthTerm true) ↔
    apply present draw (.stringTest .contains) (.ofLiterals [s, t]) = .ok (truthTerm true) ∧
      ∃ part : Literal, apply present draw .strbefore (.ofLiterals [s, t]) = .ok (.literal part) ∧
        part.lexical = ""
  /-- If `t` occurs in `s`, the parts are those beside its first occurrence. -/
  found : t.chars <:+: s.chars → ∃ p q, Text.CutAtFirst t.chars s.chars p q ∧
    (∀ xs ys, xs ++ utf8 t.chars ++ ys = utf8 s.chars → (utf8 p).length ≤ xs.length) ∧
    apply present draw .strbefore (.ofLiterals [s, t]) =
      .ok (.literal { s with lexical := String.ofList p }) ∧
    apply present draw .strafter (.ofLiterals [s, t]) =
      .ok (.literal { s with lexical := String.ofList q })
  /-- If it does not, they are plain empty strings. -/
  absent : ¬ t.chars <:+: s.chars →
    apply present draw .strbefore (.ofLiterals [s, t]) = .ok (plainTerm "") ∧
    apply present draw .strafter (.ofLiterals [s, t]) = .ok (plainTerm "")

variable {s t : Literal}

/-- A test on two strings is answered from their characters. -/
theorem apply_stringTest (hs : s.isString = true) (ht : t.isString = true) (test : StringTest) :
    apply present draw (.stringTest test) (.ofLiterals [s, t]) =
      .ok (truthTerm (testString test s.chars t.chars)) :=
  Arguments.bind_two_strings hs ht fun source token =>
    .ok (truthTerm (testString test source.chars token.chars))

/-- `strbefore` answers what stands before the second string. -/
theorem apply_strbefore (hs : s.isString = true) (ht : t.isString = true) :
    apply present draw .strbefore (.ofLiterals [s, t]) = .ok (.literal (s.before t.chars)) :=
  Arguments.bind_two_strings hs ht fun source token =>
    .ok (Term.literal (source.before token.chars))

/-- `strafter` answers what stands after the second string. -/
theorem apply_strafter (hs : s.isString = true) (ht : t.isString = true) :
    apply present draw .strafter (.ofLiterals [s, t]) = .ok (.literal (s.after t.chars)) :=
  Arguments.bind_two_strings hs ht fun source token =>
    .ok (Term.literal (source.after token.chars))

/-- Answers that are truth values are the same only for the same truth value. -/
theorem ok_truthTerm_inj {a b : Bool} :
    (.ok (truthTerm a) : Outcome Term) = .ok (truthTerm b) ↔ a = b := by
  cases a <;> cases b <;> decide

/-- **Strings are found at the first occurrence**, whatever their characters, languages and
datatypes are. -/
theorem finds_of_isString (hs : s.isString = true) (ht : t.isString = true) :
    Finds present draw s t := by
  have hcontains : apply present draw (.stringTest .contains) (.ofLiterals [s, t]) =
      .ok (truthTerm (t.chars <:+: s.chars)) := by
    rw [apply_stringTest present draw hs ht]
    exact ok_truthTerm_inj.2 (Bool.eq_iff_iff.2 (Text.occursIn_iff.trans decide_eq_true_iff.symm))
  have hbefore := apply_strbefore present draw hs ht
  have hafter := apply_strafter present draw hs ht
  have hstarts : apply present draw (.stringTest .starts) (.ofLiterals [s, t]) =
      .ok (truthTerm (t.chars <+: s.chars)) := by
    rw [apply_stringTest present draw hs ht]
    exact ok_truthTerm_inj.2 (Bool.eq_iff_iff.2 (Text.startsWith_iff.trans decide_eq_true_iff.symm))
  refine ⟨hcontains, hstarts, ?_, fun hoccurs => ?_, fun hoccurs => ?_⟩
  · rw [hcontains, hstarts, hbefore, ok_truthTerm_inj, ok_truthTerm_inj, decide_eq_true_iff,
      decide_eq_true_iff, Literal.prefix_iff_before]
    refine and_congr_right fun _ => ⟨fun hempty => ⟨_, rfl, hempty⟩, ?_⟩
    rintro ⟨part, hpart, hempty⟩
    cases hpart
    exact hempty
  · -- the parts are those on the two sides of the first occurrence
    obtain ⟨p, q, hcut⟩ := Text.exists_cutAtFirst hoccurs
    refine ⟨p, q, hcut, fun xs ys => hcut.octets_le, ?_, ?_⟩
    · rw [hbefore, Literal.before_eq hcut, Literal.withChars_of_isString hs]
    · rw [hafter, Literal.after_eq hcut, Literal.withChars_of_isString hs]
  · constructor
    · rw [hbefore, Literal.before_eq_plain hoccurs]
      rfl
    · rw [hafter, Literal.after_eq_plain hoccurs]
      rfl

/-- A text of more than one octet a character that overlaps itself, in a string with a language. -/
theorem finds_overlapping :
    let s : Literal := ⟨"aé€é€éb", none, some "fr", .string⟩
    let t : Literal := .plain "é€é"
    s.isString = true ∧ t.isString = true ∧ Finds ⟨0, 0, 0⟩ (fun _ => 0) s t :=
  ⟨by decide, by decide, finds_of_isString _ _ (by decide) (by decide)⟩

/-! ## Parts by position -/

/-- What is answered about the part of a string `s` from a position that is a literal `i` of an
integer `a` on, with a length that is a literal `k` of an integer `b`. -/
structure Slices (s i k : Literal) (a b : ℤ) : Prop where
  /-- A position below one is refused, whatever the length is. -/
  refused : a < 1 → ∃ start, i.number? = some (start, .integer) ∧
    ∀ third : Arguments, third.length ≤ 1 →
      apply present draw .substr (.ofLiterals [s, i] ++ third) =
        .error (.refused "substr" (.startBelowOne start))
  /-- Without a length, the part ends with the string. -/
  endless : 1 ≤ a → apply present draw .substr (.ofLiterals [s, i]) =
    .ok (.literal (s.partWhere fun p => a ≤ p))
  /-- With a length, it has the characters up to it. -/
  slice : 1 ≤ a → apply present draw .substr (.ofLiterals [s, i, k]) =
    .ok (.literal (s.partWhere fun p => a ≤ p ∧ p < a + b))
  /-- Its length is the one that is wanted, unless the string ends before. -/
  length : 1 ≤ a → ∃ n : Literal,
    apply present draw .strlen (.ofLiterals [s.partWhere fun p => a ≤ p ∧ p < a + b]) =
      .ok (.literal n) ∧ n.WrittenFor (max 0 (min b (s.chars.length - a + 1)))
  /-- The first characters and the others make up the string. -/
  rejoin : 0 ≤ b → b < 2 ^ 53 → ∀ one next : Literal, one.StandsFor 1 → next.StandsFor (b + 1) →
    ∃ first rest : Literal, apply present draw .substr (.ofLiterals [s, one, k]) =
      .ok (.literal first) ∧
        apply present draw .substr (.ofLiterals [s, next]) = .ok (.literal rest) ∧
        apply present draw .concat (.ofLiterals [first, rest]) = .ok (.literal s)

variable {i k : Literal} {a b : ℤ} {x : Float}

/-- An integer of up to 53 binary digits is taken for as many characters, and for none if it is
negative. -/
theorem characterCount_eq (h : RoundsTo a x) (ha : a.natAbs ≤ 2 ^ 53) :
    characterCount x = some a.toNat := by
  have hvalue : value x = a := by rw [h.value_eq (by omega), rounded_of_le ha]
  rw [characterCount, h.finite.isInf, Bool.false_and, if_neg Bool.false_ne_true,
    nearestInt?_eq_some h.finite hvalue, Option.getD_some]

/-- What is computed once the string and the position are known. -/
theorem substring_eq {args : Arguments} (hs : args.string substr.name 0 = .ok s)
    (hi : args.number substr.name 1 = .ok (x, .integer)) (hx : RoundsTo a x)
    (ha : a.natAbs ≤ 2 ^ 53) : substring args =
      if a < 1 then .error (.refused substr.name (.startBelowOne x))
      else if args.length = 3 then (args.number substr.name 2).map fun n =>
        .literal (s.substring a.toNat (characterCount n.1))
      else .ok (.literal (s.substring a.toNat none)) := by
  have hlow : (x.isNaN || decide (x < 1)) = decide (a < 1) := by
    rw [hx.finite.isNaN, Bool.false_or]
    exact decide_eq_decide.2 (hx.lt_one_iff ha)
  rw [substring, hs, hi]
  dsimp only [bind, Except.bind]
  rw [hlow, characterCount_eq hx ha]
  by_cases hone : a < 1
  · rw [if_pos hone, decide_eq_true hone]
    rfl
  · rw [if_neg hone, decide_eq_false hone]
    by_cases hlength : args.length = 3
    · simp only [if_pos hlength]
      cases args.number substr.name 2 <;> rfl
    · simp only [if_neg hlength]
      rfl

/-- A literal that stands for an integer is read as a number next to it. -/
theorem exists_number? (hi : i.StandsFor a) :
    ∃ x, i.number? = some (x, .integer) ∧ RoundsTo a x := by
  obtain ⟨x, hkind, hx⟩ := hi
  exact ⟨x, by rw [Literal.number?, hkind], hx⟩

/-- A start below one is refused, with a length or without. -/
theorem apply_substr_refused (hs : s.isString = true) (hi : i.number? = some (x, .integer))
    (hx : RoundsTo a x) (ha : a.natAbs ≤ 2 ^ 53) (hlow : a < 1) {third : Arguments}
    (hthird : third.length ≤ 1) : apply present draw .substr (.ofLiterals [s, i] ++ third) =
      .error (.refused "substr" (.startBelowOne x)) := by
  have hadmits : substr.count.admits (Arguments.ofLiterals [s, i] ++ third).length = true := by
    have hleast : 2 ≤ third.length + 1 + 1 := by omega
    have hmost : third.length + 1 + 1 ≤ 3 := by omega
    exact Bool.and_eq_true_iff.2 ⟨decide_eq_true hleast, decide_eq_true hmost⟩
  refine (if_pos hadmits).trans ?_
  exact (substring_eq (Arguments.string_eq_ok rfl hs) (Arguments.number_eq_ok rfl hi) hx ha).trans
    (if_pos hlow)

/-- Without a length, the characters from the start on are taken. -/
theorem apply_substr_endless (hs : s.isString = true) (hi : i.StandsFor a)
    (ha : a.natAbs ≤ 2 ^ 53) (hone : 1 ≤ a) : apply present draw .substr (.ofLiterals [s, i]) =
      .ok (.literal (s.partWhere fun p => a ≤ p)) := by
  obtain ⟨x, hnumber, hx⟩ := exists_number? hi
  rw [← Literal.substring_none_eq_partWhere hs hone]
  exact (substring_eq (Arguments.string_eq_ok rfl hs) (Arguments.number_eq_ok rfl hnumber) hx
    ha).trans (if_neg hone.not_gt)

/-- With a length, the characters from the start on and before its end are taken. -/
theorem apply_substr_slice (hs : s.isString = true) (hi : i.StandsFor a) (hk : k.StandsFor b)
    (ha : a.natAbs ≤ 2 ^ 53) (hb : b.natAbs ≤ 2 ^ 53) (hone : 1 ≤ a) :
    apply present draw .substr (.ofLiterals [s, i, k]) =
      .ok (.literal (s.partWhere fun p => a ≤ p ∧ p < a + b)) := by
  obtain ⟨x, hnumber, hx⟩ := exists_number? hi
  obtain ⟨y, hnumber', hy⟩ := exists_number? hk
  have hlength : (Arguments.ofLiterals [s, i, k]).number substr.name 2 = .ok (y, .integer) :=
    Arguments.number_eq_ok rfl hnumber'
  rw [← Literal.substring_some_eq_partWhere hs hone, ← characterCount_eq hy hb]
  refine (substring_eq (Arguments.string_eq_ok rfl hs) (Arguments.number_eq_ok rfl hnumber) hx
    ha).trans ?_
  have hthree : (Arguments.ofLiterals [s, i, k]).length = 3 := rfl
  rw [if_neg hone.not_gt, if_pos hthree, hlength]
  rfl

/-- `strlen` counts characters. -/
theorem apply_strlen (hs : s.isString = true) : apply present draw .strlen (.ofLiterals [s]) =
    .ok (.literal (.integer s.chars.length)) := by
  show ((Arguments.ofLiterals [s]).string strlen.name 0 >>= fun source =>
    pure (Term.literal (.integer source.chars.length))) = _
  rw [Arguments.string_eq_ok (l := s) rfl hs]
  rfl

/-- **Parts of strings are sliced exactly** at integers of up to `2 ^ 53` in size. -/
theorem slices_of_standsFor (hs : s.isString = true) (hi : i.StandsFor a) (hk : k.StandsFor b)
    (ha : a.natAbs ≤ 2 ^ 53) (hb : b.natAbs ≤ 2 ^ 53) : Slices present draw s i k a b := by
  refine ⟨fun hlow => ?_, apply_substr_endless present draw hs hi ha,
    apply_substr_slice present draw hs hi hk ha hb, fun hone => ?_,
    fun hlow hhigh one next h h' => ?_⟩
  · obtain ⟨x, hnumber, hx⟩ := exists_number? hi
    exact ⟨x, hnumber, fun third => apply_substr_refused present draw hs hnumber hx ha hlow⟩
  · have hpart : (s.partWhere fun p => a ≤ p ∧ p < a + b).isString = true := hs
    have hsize : (max 0 (min b (s.chars.length - a + 1))).natAbs < 2 ^ 190 := by omega
    refine ⟨_, apply_strlen present draw hpart, ?_⟩
    rw [Literal.chars_partWhere, Literal.length_charsWhere_between hone]
    exact Literal.writtenFor_integer hsize
  · have hfirst := apply_substr_slice present draw hs h hk (by decide) hb le_rfl
    have hrest := apply_substr_endless present draw hs h' (by omega) (by omega)
    refine ⟨_, _, hfirst, hrest, ?_⟩
    rw [apply_concat present draw (by simpa using ⟨hs, hs⟩), Literal.join_partWhere hs hlow]

/-- A string with a language and characters of one to four octets, from its second position on. -/
theorem slices_tagged :
    let s : Literal := ⟨"aé€𝄞z", none, some "fr", .string⟩
    s.isString = true ∧ ∃ i k : Literal, Literal.typed "02" Vocabulary.integer = .ok i ∧
      Literal.typed "9007199254740992" Vocabulary.integer = .ok k ∧
      i.StandsFor 2 ∧ k.StandsFor (2 ^ 53) ∧ (2 : ℤ).natAbs ≤ 2 ^ 53 ∧
      (2 ^ 53 : ℤ).natAbs ≤ 2 ^ 53 ∧ Slices ⟨0, 0, 0⟩ (fun _ => 0) s i k 2 (2 ^ 53) := by
  intro s
  have hs : s.isString = true := rfl
  have hread : readInt? "02".toList = some 2 := by decide +kernel
  have hread' : readInt? "9007199254740992".toList = some (2 ^ 53) := by decide +kernel
  obtain ⟨i, hi, hstands⟩ := Literal.exists_typed_integer hread (by decide)
  obtain ⟨k, hk, hstands'⟩ := Literal.exists_typed_integer hread' (by decide)
  exact ⟨hs, i, k, hi, hk, hstands, hstands', by decide, by decide,
    slices_of_standsFor _ _ hs hstands hstands' (by decide) (by decide)⟩

/-! ## Joining in groups -/

/-- That a literal is what some strings are joined to: it has their characters in order, and a
language or a datatype other than that of plain strings exactly if all of them have it. -/
structure Joined (parts : List Literal) (whole : Literal) : Prop where
  /-- It is computed. -/
  computed : apply present draw .concat (.ofLiterals parts) = .ok (.literal whole)
  /-- The characters are those of the strings. -/
  chars : whole.chars = parts.flatMap Literal.chars
  /-- The language and the datatype are those of all strings. -/
  sort : ∀ (language : Option String) (datatype : Iri),
    ¬ (language = none ∧ datatype = Vocabulary.string) →
      (whole.language = language ∧ whole.effectiveDatatype = datatype ↔
        ∀ part ∈ parts, part.language = language ∧ part.effectiveDatatype = datatype)

variable {parts : List Literal} {blocks : List (List Literal)}

/-- Strings joined by `concat` have all that is said of joined strings. -/
theorem joined_join (hne : parts ≠ []) (hparts : ∀ l ∈ parts, l.isString = true) :
    Joined present draw parts (Literal.join parts) := by
  refine ⟨apply_concat present draw hparts, Literal.chars_join parts,
    fun language datatype hplain => ?_⟩
  have hσ : (language, datatype) ≠ Literal.plainSort := fun h => hplain (Prod.mk.inj h)
  have hiff := Literal.sort_join_eq_iff hne hparts hσ
  simpa only [Literal.sort, Prod.mk.injEq] using hiff

/-- **Strings that are joined in groups** are equal to the strings joined at once. -/
theorem exists_joined (hne : parts ≠ []) (hparts : ∀ l ∈ parts, l.isString = true)
    (hcut : blocks.flatten = parts) (hblocks : ∀ block ∈ blocks, block ≠ []) :
    ∃ (whole outer : Literal) (inner : List Literal), Joined present draw parts whole ∧
      List.Forall₂ (Joined present draw) blocks inner ∧ Joined present draw inner outer ∧
      (Term.literal outer).equal (.literal whole) = true := by
  subst hcut
  have hinner := Literal.isString_of_mem_map_join hparts
  refine ⟨_, _, _, joined_join present draw hne hparts, ?_,
    joined_join present draw (Literal.map_join_ne_nil hne) hinner,
    Literal.equal_of_isString (Literal.isString_join hinner) (Literal.isString_join hparts)
      (Literal.chars_join_join blocks) (Literal.sort_join_join hne hblocks hparts)⟩
  rw [List.forall₂_map_right_iff, List.forall₂_same]
  exact fun block hblock => joined_join present draw (hblocks block hblock) fun l hl =>
    hparts l (List.mem_flatten_of_mem hblock hl)

/-- A plain string that states its datatype, and two strings of different languages. -/
theorem exists_joined_mixed :
    let stated : Literal := ⟨"x", some Vocabulary.string, none, .string⟩
    let english : Literal := ⟨"a", none, some "en", .string⟩
    let french : Literal := ⟨"b", none, some "fr", .string⟩
    let parts := [stated, english, french]
    let blocks := [[stated], [english, french]]
    parts ≠ [] ∧ (∀ l ∈ parts, l.isString = true) ∧ blocks.flatten = parts ∧
      (∀ block ∈ blocks, block ≠ []) ∧
      ∃ (whole outer : Literal) (inner : List Literal),
        Joined ⟨0, 0, 0⟩ (fun _ => 0) parts whole ∧
        List.Forall₂ (Joined ⟨0, 0, 0⟩ fun _ => 0) blocks inner ∧
        Joined ⟨0, 0, 0⟩ (fun _ => 0) inner outer ∧
        (Term.literal outer).equal (.literal whole) = true := by
  intro stated english french parts blocks
  have hne : parts ≠ [] := by decide
  have hparts : ∀ l ∈ parts, l.isString = true := by decide
  have hblocks : ∀ block ∈ blocks, block ≠ [] := by decide
  exact ⟨hne, hparts, rfl, hblocks, exists_joined _ _ hne hparts rfl hblocks⟩

end SolutionAlgebra.Builtin
