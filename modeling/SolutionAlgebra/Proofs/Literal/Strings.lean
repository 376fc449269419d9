import SolutionAlgebra.Literal.Operations
import SolutionAlgebra.Proofs.Text.Search

/-! # Parts of strings and strings joined

A string keeps its language and datatype, which make up its sort, when it is given other characters.
What stands before and after a text in it are the parts beside the first occurrence; a part by
position and length consists of the characters at these positions. Strings joined have a sort that
is not the plain one exactly if all of them have it, and so may be joined in groups.

* **`Literal.before_eq`**, **`Literal.after_eq`** — the parts beside a text that occurs.
* **`Literal.substring_none_eq_partWhere`**, **`Literal.substring_some_eq_partWhere`** — the parts
  by position.
* **`Literal.sort_join_eq_iff`**, **`Literal.sort_join_join`** — the sort of strings joined. -/

namespace SolutionAlgebra.Literal

variable {l : Literal} {token before after : List Char}

/-! ## Other characters -/

/-- The characters of a literal with other characters. -/
@[simp] theorem chars_withChars (l : Literal) (cs : List Char) : (l.withChars cs).chars = cs := by
  unfold withChars withLexical chars
  split
  · exact String.toList_ofList
  · exact String.toList_ofList

/-- Only the same characters give the same literal. -/
theorem withChars_inj {as bs : List Char} : l.withChars as = l.withChars bs ↔ as = bs := by
  refine ⟨fun h => ?_, congrArg l.withChars⟩
  rw [← chars_withChars l as, h, chars_withChars]

/-- A string with other characters is the same but for them. -/
theorem withChars_of_isString (h : l.isString = true) (cs : List Char) :
    l.withChars cs = { l with lexical := String.ofList cs } := by
  have hkind : l.kind = .string := of_decide_eq_true h
  rw [withChars, withLexical, hkind]

/-- A string with other characters is a string. -/
theorem isString_withChars (hl : l.isString = true) (cs : List Char) :
    (l.withChars cs).isString = true := by
  rw [withChars_of_isString hl]
  exact hl

/-- A string with its own characters is itself. -/
@[simp] theorem withChars_chars (h : l.isString = true) : l.withChars l.chars = l := by
  rw [withChars_of_isString h, chars, String.ofList_toList]

/-! ## Parts beside a text -/

/-- What stands before a text is a string like the one that it is cut from. -/
theorem before_eq (h : Text.CutAtFirst token l.chars before after) :
    l.before token = l.withChars before := by
  rw [Literal.before, Text.splitAt?_eq_some_iff.2 h]

/-- So is what stands after it. -/
theorem after_eq (h : Text.CutAtFirst token l.chars before after) :
    l.after token = l.withChars after := by
  rw [Literal.after, Text.splitAt?_eq_some_iff.2 h]

/-- Where the text does not occur, nothing stands before it. -/
theorem before_eq_plain (h : ¬ token <:+: l.chars) : l.before token = plain "" := by
  rw [Literal.before, Text.splitAt?_eq_none_iff.2 h]

/-- Where the text does not occur, nothing stands after it. -/
theorem after_eq_plain (h : ¬ token <:+: l.chars) : l.after token = plain "" := by
  rw [Literal.after, Text.splitAt?_eq_none_iff.2 h]

/-- A string starts with a text exactly if the text occurs in it with nothing before. -/
theorem prefix_iff_before :
    token <+: l.chars ↔ token <:+: l.chars ∧ (l.before token).lexical = "" := by
  constructor
  · rintro ⟨rest, hrest⟩
    have hcut : Text.CutAtFirst token l.chars [] rest := .of_start hrest
    refine ⟨⟨[], rest, hrest⟩, ?_⟩
    rw [← String.toList_eq_nil_iff]
    show (l.before token).chars = []
    rw [before_eq hcut, chars_withChars]
  · rintro ⟨hoccurs, hempty⟩
    obtain ⟨p, q, hcut⟩ := Text.exists_cutAtFirst hoccurs
    have hp : (l.before token).chars = p := by
      rw [before_eq hcut, chars_withChars]
    refine hcut.before_eq_nil_iff.1 ?_
    rw [← hp, chars, hempty, String.toList_empty]

/-! ## Parts by position -/

/-- The characters of a string at the positions that satisfy a condition; the first position is
one. -/
def charsWhere (l : Literal) (p : ℕ → Prop) [DecidablePred p] : List Char :=
  ((l.chars.zipIdx 1).filter fun cp => p cp.2).map Prod.fst

/-- A string with only its characters at the positions that satisfy a condition. -/
def partWhere (l : Literal) (p : ℕ → Prop) [DecidablePred p] : Literal :=
  { l with lexical := String.ofList (l.charsWhere p) }

/-- What stands from a position up to another one, where positions start at some number. -/
theorem filter_zipIdx_between (cs : List Char) (start stop m : ℕ) :
    ((cs.zipIdx m).filter fun cp => start ≤ cp.2 ∧ cp.2 < stop).map Prod.fst =
      (cs.drop (start - m)).take (stop - max start m) := by
  induction cs generalizing m with
  | nil => simp
  | cons c cs ih =>
    rw [List.zipIdx_cons, List.filter_cons]
    rcases lt_or_ge m start with hm | hm
    · -- before the part
      have hdrop : start - m = start - (m + 1) + 1 := by omega
      rw [if_neg (by simp; omega), ih, hdrop, List.drop_succ_cons,
        show max start (m + 1) = max start m by omega]
    · rw [show start - m = 0 by omega, List.drop_zero]
      rcases lt_or_ge m stop with hstop | hstop
      · -- within the part
        have htake : stop - max start m = stop - max start (m + 1) + 1 := by omega
        rw [if_pos (by simp; omega), List.map_cons, ih, htake, List.take_succ_cons,
          show start - (m + 1) = 0 by omega, List.drop_zero]
      · -- after the part
        rw [if_neg (by simp; omega), ih, show stop - max start m = 0 by omega,
          show stop - max start (m + 1) = 0 by omega, List.take_zero, List.take_zero]

/-- What stands from a position on. -/
theorem filter_zipIdx_from (cs : List Char) (start m : ℕ) :
    ((cs.zipIdx m).filter fun cp => start ≤ cp.2).map Prod.fst = cs.drop (start - m) := by
  have hbetween : ((cs.zipIdx m).filter fun cp => start ≤ cp.2) =
      (cs.zipIdx m).filter fun cp => start ≤ cp.2 ∧ cp.2 < m + cs.length := by
    refine List.filter_congr fun cp hcp => ?_
    have hlt := List.snd_lt_add_of_mem_zipIdx hcp
    exact decide_eq_decide.2 (iff_self_and.2 fun _ => by omega)
  rw [hbetween, filter_zipIdx_between, List.take_of_length_le]
  rw [List.length_drop]
  omega

variable {a b : ℤ}

/-- The characters of a part are those in its places. -/
@[simp] theorem chars_partWhere (l : Literal) (p : ℕ → Prop) [DecidablePred p] :
    (l.partWhere p).chars = l.charsWhere p := String.toList_ofList

/-- A part of a string is a string like it. -/
theorem partWhere_eq (hl : l.isString = true) (p : ℕ → Prop) [DecidablePred p] :
    l.partWhere p = l.withChars (l.charsWhere p) := (withChars_of_isString hl _).symm

/-- The characters from a place on. -/
theorem charsWhere_from (ha : 1 ≤ a) :
    l.charsWhere (fun p => a ≤ p) = l.chars.drop (a.toNat - 1) := by
  rw [← filter_zipIdx_from, charsWhere]
  congr 2
  funext cp
  exact decide_eq_decide.2 (by omega)

/-- The characters from a place on, up to a number of them. -/
theorem charsWhere_between (ha : 1 ≤ a) :
    l.charsWhere (fun p => a ≤ p ∧ p < a + b) = (l.chars.drop (a.toNat - 1)).take b.toNat := by
  have hlength : b.toNat = (a + b.toNat).toNat - max a.toNat 1 := by omega
  rw [hlength, ← filter_zipIdx_between, charsWhere]
  congr 2
  funext cp
  exact decide_eq_decide.2 (by omega)

/-- **A part of a string without a length** consists of the characters from the position on. -/
theorem substring_none_eq_partWhere (hl : l.isString = true) (ha : 1 ≤ a) :
    l.substring a.toNat none = l.partWhere fun p => a ≤ p := by
  rw [partWhere_eq hl, charsWhere_from ha]
  rfl

/-- **A part of a string with a length** consists of as many characters from the position on. -/
theorem substring_some_eq_partWhere (hl : l.isString = true) (ha : 1 ≤ a) :
    l.substring a.toNat (some b.toNat) = l.partWhere fun p => a ≤ p ∧ p < a + b := by
  rw [partWhere_eq hl, charsWhere_between ha]
  rfl

/-- It is shorter where the string ends. -/
theorem length_charsWhere_between (ha : 1 ≤ a) :
    ((l.charsWhere fun p => a ≤ p ∧ p < a + b).length : ℤ) =
      max 0 (min b (l.chars.length - a + 1)) := by
  rw [charsWhere_between ha, List.length_take, List.length_drop]
  omega

/-! ## Strings joined -/

/-- The language and the datatype of a string. -/
def sort (l : Literal) : Option String × Iri := (l.language, l.effectiveDatatype)

/-- The sort of plain strings. -/
def plainSort : Option String × Iri := (none, Vocabulary.string)

variable {m : Literal} {parts : List Literal} {blocks : List (List Literal)}
  {σ : Option String × Iri}

/-- A plain literal is of the plain sort. -/
theorem sort_plain (text : String) : (plain text).sort = plainSort := rfl

/-- The test whether two literals are of the same sort. -/
theorem sameSort_iff : sameSort l m = true ↔ l.sort = m.sort := by
  simp [sameSort, sort]

/-- Other characters do not change the sort of a string. -/
theorem sort_withChars (hl : l.isString = true) (cs : List Char) :
    (l.withChars cs).sort = l.sort := by
  rw [withChars_of_isString hl]
  rfl

/-- Strings are equal if their characters and their sorts are. -/
theorem equal_of_isString (hl : l.isString = true) (hm : m.isString = true)
    (hchars : l.chars = m.chars) (hsort : l.sort = m.sort) : l.equal m = true := by
  have hkind : l.kind = .string := of_decide_eq_true hl
  have hkind' : m.kind = .string := of_decide_eq_true hm
  obtain ⟨hlanguage, hdatatype⟩ := Prod.mk.inj hsort
  rw [equal, hkind, hkind']
  simp [String.toList_inj.1 hchars, hlanguage, hdatatype]

/-- The characters of strings joined are those of the strings, in order. -/
@[simp] theorem chars_join (parts : List Literal) : (join parts).chars = parts.flatMap chars := by
  unfold join
  split
  · rfl
  · split
    · exact chars_withChars _ _
    · exact String.toList_ofList

/-- Joined strings are a string. -/
theorem isString_join (hparts : ∀ l ∈ parts, l.isString = true) : (join parts).isString = true := by
  unfold join
  split
  · rfl
  · split
    · exact isString_withChars (hparts _ List.mem_cons_self) _
    · rfl

/-- Parts of one string are joined to a part of it. -/
theorem join_withChars (hl : l.isString = true) (as bs : List Char) :
    join [l.withChars as, l.withChars bs] = l.withChars (as ++ bs) := by
  have hsame : [l.withChars bs].all (sameSort (l.withChars as)) = true := by
    rw [List.all_cons, List.all_nil, Bool.and_true, sameSort_iff, sort_withChars hl,
      sort_withChars hl]
  have hchars : [l.withChars as, l.withChars bs].flatMap chars = as ++ bs := by simp
  rw [join, if_pos hsame, hchars, withChars_of_isString (isString_withChars hl as),
    withChars_of_isString hl (as ++ bs), withChars_of_isString hl as]

/-- The first characters of a string and the others make up the string. -/
theorem join_partWhere (hl : l.isString = true) (hb : 0 ≤ b) :
    join [l.partWhere fun p => 1 ≤ (p : ℤ) ∧ p < 1 + b, l.partWhere fun p => b + 1 ≤ p] = l := by
  rw [partWhere_eq hl, partWhere_eq hl, join_withChars hl, charsWhere_between (by decide),
    charsWhere_from (by omega), show Int.toNat 1 - 1 = 0 from rfl, List.drop_zero,
    show (b + 1).toNat - 1 = b.toNat by omega, List.take_append_drop, withChars_chars hl]

/-- **Strings joined have a sort that is not the plain one exactly if all of them have it.** -/
theorem sort_join_eq_iff (hne : parts ≠ []) (hparts : ∀ l ∈ parts, l.isString = true)
    (hσ : σ ≠ plainSort) : (join parts).sort = σ ↔ ∀ l ∈ parts, l.sort = σ := by
  cases parts with
  | nil => exact absurd rfl hne
  | cons first rest =>
    rw [List.forall_mem_cons]
    by_cases hsame : rest.all (sameSort first) = true
    · have hrest : ∀ l ∈ rest, first.sort = l.sort := fun l hl =>
        sameSort_iff.1 (List.all_eq_true.1 hsame l hl)
      have hjoin : (join (first :: rest)).sort = first.sort := by
        rw [join, if_pos hsame, sort_withChars (hparts _ List.mem_cons_self)]
      rw [hjoin]
      refine ⟨fun h => ⟨h, fun l hl => (hrest l hl).symm.trans h⟩, And.left⟩
    · have hjoin : (join (first :: rest)).sort = plainSort := by
        rw [join, if_neg hsame, sort_plain]
      rw [hjoin]
      refine ⟨fun h => absurd h.symm hσ, fun ⟨hfirst, hrest⟩ => absurd ?_ hsame⟩
      exact List.all_eq_true.2 fun l hl => sameSort_iff.2 (hfirst.trans (hrest l hl).symm)

/-! ## Strings joined in groups -/

/-- Where blocks have a string, there is a joined one. -/
theorem map_join_ne_nil (hne : blocks.flatten ≠ []) : blocks.map join ≠ [] := by
  intro hnil
  rw [List.map_eq_nil_iff.1 hnil] at hne
  exact hne rfl

/-- The joined blocks are strings. -/
theorem isString_of_mem_map_join (hblocks : ∀ l ∈ blocks.flatten, l.isString = true) :
    ∀ l ∈ blocks.map join, l.isString = true :=
  List.forall_mem_map.2 fun _ hblock =>
    isString_join fun l hl => hblocks l (List.mem_flatten_of_mem hblock hl)

/-- Strings joined in groups have the characters of all of them. -/
theorem chars_join_join (blocks : List (List Literal)) :
    (join (blocks.map join)).chars = (join blocks.flatten).chars := by
  rw [chars_join, chars_join]
  induction blocks with
  | nil => rfl
  | cons block blocks ih =>
    rw [List.map_cons, List.flatMap_cons, chars_join, ih, List.flatten_cons, List.flatMap_append]

/-- **Strings joined in groups have the sort of all of them joined.** -/
theorem sort_join_join (hne : blocks.flatten ≠ []) (hblocks : ∀ block ∈ blocks, block ≠ [])
    (hstrings : ∀ l ∈ blocks.flatten, l.isString = true) :
    (join (blocks.map join)).sort = (join blocks.flatten).sort := by
  -- the two have the same sorts among those that are not plain
  have hiff : ∀ σ ≠ plainSort,
      ((join (blocks.map join)).sort = σ ↔ (join blocks.flatten).sort = σ) := by
    intro σ hσ
    rw [sort_join_eq_iff (map_join_ne_nil hne) (isString_of_mem_map_join hstrings) hσ,
      sort_join_eq_iff hne hstrings hσ, List.forall_mem_map, List.forall_mem_flatten]
    exact forall₂_congr fun block hblock => sort_join_eq_iff (hblocks block hblock)
      (fun l hl => hstrings l (List.mem_flatten_of_mem hblock hl)) hσ
  by_cases hplain : (join blocks.flatten).sort = plainSort
  · rw [hplain]
    by_contra hσ
    exact hσ (((hiff _ hσ).1 rfl).symm.trans hplain)
  · exact (hiff _ hplain).2 rfl

end SolutionAlgebra.Literal
