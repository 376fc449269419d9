import SolutionAlgebra.Iri
import SolutionAlgebra.Proofs.Fallible

/-! # The characters of an IRI

Reading an IRI goes over its text from left to right, component by component. What is read holds
only characters that some component allows; angle brackets, quotation marks and control characters
are not among them.

* **`Iri.isCharacter`** — the characters that some component of an IRI allows.
* **`Iri.legible_of_parse`** — the text of an IRI holds no other characters.
* **`Iri.Accepted.not_mem`** — in particular none of the delimiters of RDF texts. -/

namespace SolutionAlgebra.Iri

/-- The characters that some component of an IRI allows. -/
def isCharacter (c : Char) : Bool :=
  isQueryCharacter c || c == '#' || c == '%' || c == '[' || c == ']'

/-- A text of characters that some component of an IRI allows. -/
def Legible (cs : List Char) : Prop := ∀ c ∈ cs, isCharacter c = true

/-- The empty text is legible. -/
@[simp] theorem legible_nil : Legible [] := fun _ h => absurd h List.not_mem_nil

/-- A text is legible if its first character and the rest are. -/
@[simp] theorem legible_cons (c : Char) (cs : List Char) :
    Legible (c :: cs) ↔ isCharacter c = true ∧ Legible cs := List.forall_mem_cons

/-- A joined text is legible if its parts are. -/
@[simp] theorem legible_append (cs ds : List Char) :
    Legible (cs ++ ds) ↔ Legible cs ∧ Legible ds := List.forall_mem_append

/-! ## Classes of characters -/

/-- The characters of queries. -/
theorem isCharacter_of_query {c : Char} (h : isQueryCharacter c = true) : isCharacter c = true := by
  simp [isCharacter, h]

/-- The characters of fragments. -/
theorem isCharacter_of_fragment {c : Char} (h : isFragmentCharacter c = true) :
    isCharacter c = true := isCharacter_of_query (by simp [isQueryCharacter, h])

/-- The characters of paths. -/
theorem isCharacter_of_path {c : Char} (h : isPathCharacter c = true) : isCharacter c = true :=
  isCharacter_of_fragment (by simp [isFragmentCharacter, h])

/-- The characters that stand for themselves everywhere. -/
theorem isCharacter_of_plain {c : Char} (h : isPlain c = true) : isCharacter c = true :=
  isCharacter_of_path (by simp [isPathCharacter, h])

/-- The digits. -/
theorem isCharacter_of_digit {c : Char} (h : isDigit c = true) : isCharacter c = true :=
  isCharacter_of_plain (by simp [isPlain, isAsciiUnreserved, h])

/-- The hexadecimal digits. -/
theorem isCharacter_of_hex {c : Char} (h : isHex c = true) : isCharacter c = true := by
  have hplain : isDigit c = true ∨ isLetter c = true → isCharacter c = true := by
    intro h
    refine isCharacter_of_plain ?_
    rcases h with h | h <;> simp [isPlain, isAsciiUnreserved, h]
  simp only [isHex, Bool.or_eq_true, Bool.and_eq_true, decide_eq_true_eq] at h
  rcases h with (h | ⟨ha, hf⟩) | ⟨ha, hf⟩
  · exact hplain (.inl h)
  · have hz : c ≤ 'z' := Char.le_trans hf (by decide)
    exact hplain (.inr (by simp [isLetter, ha, hz]))
  · have hz : c ≤ 'Z' := Char.le_trans hf (by decide)
    exact hplain (.inr (by simp [isLetter, ha, hz]))

/-- The characters that end an authority. -/
theorem isCharacter_of_endsAuthority {c : Char} (h : endsAuthority c = true) :
    isCharacter c = true := by
  simp only [endsAuthority, Bool.or_eq_true, beq_iff_eq] at h
  rcases h with (rfl | rfl) | rfl <;> decide

/-- The characters that end a host. -/
theorem isCharacter_of_endsHost {c : Char} (h : (c == ':' || endsAuthority c) = true) :
    isCharacter c = true := by
  rcases Bool.or_eq_true_iff.1 h with h | h
  · rw [beq_iff_eq.1 h]
    decide
  · exact isCharacter_of_endsAuthority h

/-! ## Parts of a text -/

variable {cs ds rest : List Char}

/-- That a text is a legible text followed by another, the rest of it. -/
def Reaches (cs rest : List Char) : Prop := ∃ read, cs = read ++ rest ∧ Legible read

/-- Nothing need be read. -/
theorem Reaches.refl (cs : List Char) : Reaches cs cs := ⟨[], rfl, legible_nil⟩

/-- One more character may be read before. -/
theorem Reaches.cons {c : Char} (hc : isCharacter c = true) (h : Reaches cs rest) :
    Reaches (c :: cs) rest := by
  obtain ⟨read, rfl, hread⟩ := h
  exact ⟨c :: read, rfl, (legible_cons c read).2 ⟨hc, hread⟩⟩

/-- One reading may go on after another. -/
theorem Reaches.trans (h : Reaches cs ds) (h' : Reaches ds rest) : Reaches cs rest := by
  obtain ⟨read, rfl, hread⟩ := h
  obtain ⟨read', rfl, hread'⟩ := h'
  exact ⟨read ++ read', (List.append_assoc _ _ _).symm, (legible_append _ _).2 ⟨hread, hread'⟩⟩

/-- A text with a legible rest is legible. -/
theorem Reaches.legible (h : Reaches cs rest) (hrest : Legible rest) : Legible cs := by
  obtain ⟨read, rfl, hread⟩ := h
  exact (legible_append read rest).2 ⟨hread, hrest⟩

/-- The characters of a class at the start of a text are legible if the class is. -/
theorem legible_takeWhile {p : Char → Bool} (hp : ∀ c, p c = true → isCharacter c = true)
    (cs : List Char) : Legible (cs.takeWhile p) :=
  fun c hc => hp c (List.all_eq_true.1 List.all_takeWhile c hc)

/-! ## Components -/

/-- What is read as a component holds allowed characters and escapes only, and what is left starts
with a character that stops the component. -/
theorem scanWhile_ok {allowed stops : Char → Bool}
    (hallowed : ∀ c, allowed c = true → isCharacter c = true)
    (h : scanWhile allowed stops cs = .ok rest) :
    Reaches cs rest ∧ ∀ c ∈ rest.head?, stops c = true := by
  fun_induction scanWhile allowed stops cs with
  | case1 =>
      cases h
      exact ⟨Reaches.refl [], by simp⟩
  | case2 high low cs hhex ih =>
      -- an escape of two hexadecimal digits
      rw [Bool.and_eq_true] at hhex
      obtain ⟨hreach, hstop⟩ := ih h
      have hhigh := isCharacter_of_hex hhex.1
      have hlow := isCharacter_of_hex hhex.2
      exact ⟨.cons (by decide) (.cons hhigh (.cons hlow hreach)), hstop⟩
  | case3 => cases h
  | case4 c cs _ hstops =>
      -- the character that ends the component
      cases h
      exact ⟨Reaches.refl (c :: cs), by simpa using hstops⟩
  | case5 => cases h
  | case6 c cs _ _ _ hc ih =>
      obtain ⟨hreach, hstop⟩ := ih h
      exact ⟨.cons (hallowed c hc) hreach, hstop⟩
  | case7 => cases h

/-- What is read as a component, together with a legible rest, is legible. -/
theorem legible_of_scanWhile {allowed stops : Char → Bool}
    (hallowed : ∀ c, allowed c = true → isCharacter c = true)
    (h : scanWhile allowed stops cs = .ok rest) (hrest : Legible rest) : Legible cs :=
  (scanWhile_ok hallowed h).1.legible hrest

/-- A fragment that is accepted is legible. -/
theorem legible_of_scanFragment (h : scanFragment cs = .ok ()) : Legible cs := by
  rw [scanFragment, map_eq_ok_iff] at h
  obtain ⟨rest, hrest, -⟩ := h
  have hnil : rest = [] := by
    have hstop := (scanWhile_ok (fun _ => isCharacter_of_fragment) hrest).2
    cases rest with
    | nil => rfl
    | cons c rest => exact absurd (hstop c rfl) Bool.false_ne_true
  exact legible_of_scanWhile (fun _ => isCharacter_of_fragment) hrest (hnil ▸ legible_nil)

/-- A query that is accepted is legible, with the fragment after it. -/
theorem legible_of_scanQuery (h : scanQuery cs = .ok ()) : Legible cs := by
  rw [scanQuery, bind_eq_ok_iff] at h
  obtain ⟨rest, hrest, h⟩ := h
  refine legible_of_scanWhile (fun _ => isCharacter_of_query) hrest ?_
  have hstop := (scanWhile_ok (fun _ => isCharacter_of_query) hrest).2
  cases rest with
  | nil => exact legible_nil
  | cons c rest =>
      have hc : c = '#' := by simpa using hstop c rfl
      exact (legible_cons c rest).2 ⟨by rw [hc]; decide, legible_of_scanFragment h⟩

/-- What follows a path is legible, if the character that ends the path is. -/
theorem legible_of_scanAfterPath (hfirst : ∀ c ∈ cs.head?, isCharacter c = true)
    (h : scanAfterPath cs = .ok ()) : Legible cs := by
  unfold scanAfterPath at h
  split at h
  · exact legible_nil
  · exact (legible_cons _ _).2 ⟨by decide, legible_of_scanQuery h⟩
  · exact (legible_cons _ _).2 ⟨hfirst _ rfl, legible_of_scanFragment h⟩

/-- A path that is accepted is legible, with all that is after it. -/
theorem legible_of_scanPath (h : scanPath cs = .ok ()) : Legible cs := by
  rw [scanPath, bind_eq_ok_iff] at h
  obtain ⟨rest, hrest, h⟩ := h
  refine legible_of_scanWhile (fun _ => isCharacter_of_path) hrest ?_
  refine legible_of_scanAfterPath (fun c hc => ?_) h
  have hstop := (scanWhile_ok (fun _ => isCharacter_of_path) hrest).2 c hc
  refine isCharacter_of_endsAuthority ?_
  rw [endsPath, Bool.or_eq_true] at hstop
  rcases hstop with h | h <;> simp [endsAuthority, h]

/-- What follows an authority is legible, if the character that ends the authority is. -/
theorem legible_of_scanAfterAuthority (hfirst : ∀ c ∈ cs.head?, isCharacter c = true)
    (h : scanAfterAuthority cs = .ok ()) : Legible cs := by
  unfold scanAfterAuthority at h
  split at h
  · exact (legible_cons _ _).2 ⟨by decide, legible_of_scanPath h⟩
  · exact legible_of_scanAfterPath hfirst h

/-- A port that is accepted is legible, with all that is after it. -/
theorem legible_of_scanPort (h : scanPort cs = .ok ()) : Legible cs := by
  induction cs with
  | nil => exact legible_nil
  | cons c cs ih =>
      rw [scanPort] at h
      split at h
      · next hdigit => exact (legible_cons c cs).2 ⟨isCharacter_of_digit hdigit, ih h⟩
      · -- the port ends, and what ends it is not read with it
        split at h
        · next hends =>
          refine legible_of_scanAfterAuthority (fun d hd => ?_) h
          cases hd
          exact isCharacter_of_endsAuthority hends
        · cases h

/-- What follows a host is legible, if the character that ends the host is. -/
theorem legible_of_scanAfterHost (hfirst : ∀ c ∈ cs.head?, isCharacter c = true)
    (h : scanAfterHost cs = .ok ()) : Legible cs := by
  unfold scanAfterHost at h
  split at h
  · exact (legible_cons _ _).2 ⟨by decide, legible_of_scanPort h⟩
  · exact legible_of_scanAfterAuthority hfirst h

/-! ## Addresses -/

/-- Going past the characters of a legible class leaves a rest that the text reaches. -/
theorem reaches_drop_takeWhile {p : Char → Bool}
    (hp : ∀ c, p c = true → isCharacter c = true) (cs : List Char) :
    Reaches cs (cs.drop (cs.takeWhile p).length) :=
  ⟨cs.takeWhile p, (List.prefix_iff_eq_append.1 (List.takeWhile_prefix p)).symm,
    legible_takeWhile hp cs⟩

/-- A decimal octet is read over characters. -/
theorem reaches_of_readOctet? (h : readOctet? cs = some rest) : Reaches cs rest := by
  rw [readOctet?, Decimal.spanDigits, Option.ite_none_left_eq_some] at h
  obtain ⟨-, h⟩ := h
  cases h
  exact ⟨cs.takeWhile Decimal.isDigit, List.takeWhile_append_dropWhile.symm,
    legible_takeWhile (fun _ => isCharacter_of_digit) cs⟩

/-- So are several, and the stops between them. -/
theorem reaches_of_readOctets? {n : Nat} (h : readOctets? n cs = some rest) : Reaches cs rest := by
  induction n generalizing cs with
  | zero =>
      cases h
      exact Reaches.refl rest
  | succ n ih =>
      cases cs with
      | nil => cases h
      | cons c cs =>
          by_cases hc : c = '.'
          · subst hc
            obtain ⟨ds, hds, h⟩ := Option.bind_eq_some_iff.1 h
            exact .cons (by decide) ((reaches_of_readOctet? hds).trans (ih h))
          · simp [readOctets?, hc] at h

/-- So is an address of version four. -/
theorem reaches_of_readVersionFour? (h : readVersionFour? cs = some rest) : Reaches cs rest := by
  obtain ⟨ds, hds, h⟩ := Option.bind_eq_some_iff.1 h
  exact (reaches_of_readOctet? hds).trans (reaches_of_readOctets? h)

/-- A group of hexadecimal digits is read over characters. -/
theorem reaches_of_readGroup? (h : readGroup? cs = some rest) : Reaches cs rest := by
  rw [readGroup?, Option.ite_none_left_eq_some] at h
  obtain ⟨-, h⟩ := h
  cases h
  exact reaches_drop_takeWhile (fun _ => isCharacter_of_hex) cs

/-- So is a group with the colon before it. -/
theorem reaches_of_groupText? {first : Bool} (h : groupText? first cs = some rest) :
    Reaches cs rest := by
  unfold groupText? at h
  split at h
  · cases h
    exact Reaches.refl cs
  · split at h
    · cases h
      exact .cons (by decide) (Reaches.refl rest)
    · cases h

/-- Whatever groups are read, the text reaches the rest of them. -/
theorem reaches_of_readGroups (first : Bool) (n : Nat) (cs : List Char) :
    Reaches cs (readGroups first n cs).2.2 := by
  induction n generalizing first cs with
  | zero => exact Reaches.refl cs
  | succ n ih =>
      rw [readGroups]
      split
      · exact Reaches.refl cs
      · next body hbody =>
        have hcolon := reaches_of_groupText? hbody
        split
        · -- an address of version four, which ends the groups
          next rest hrest =>
          split at hrest
          · exact hcolon.trans (reaches_of_readVersionFour? hrest)
          · cases hrest
        · -- one more group
          split
          · exact Reaches.refl cs
          · next rest hrest =>
            exact (hcolon.trans (reaches_of_readGroup? hrest)).trans (ih false rest)

/-- An address of version six is legible. -/
theorem legible_of_isVersionSix (h : isVersionSix cs = true) : Legible cs := by
  have hreach := reaches_of_readGroups true 8 cs
  unfold isVersionSix at h
  split at h
  · -- eight groups
    next hg =>
    rw [hg] at hreach
    rw [List.isEmpty_iff] at h
    exact hreach.legible (h ▸ legible_nil)
  · cases h
  · next count rest _ hg =>
    -- a double colon: the groups after it end the text
    rw [hg] at hreach
    have hafter := reaches_of_readGroups true (8 - (count + 1)) rest
    rw [List.isEmpty_iff] at h
    rw [h] at hafter
    refine hreach.legible ?_
    simp only [legible_cons]
    exact ⟨by decide, by decide, hafter.legible legible_nil⟩
  · cases h

/-- An address of a later version that is accepted is legible. -/
theorem legible_of_scanFuture (h : scanFuture cs = .ok ()) : Legible cs := by
  have hreach := reaches_drop_takeWhile (fun _ => isCharacter_of_hex) cs
  simp only [scanFuture] at h
  split at h
  · cases h
  · next body hbody =>
    rw [hbody] at hreach
    refine hreach.legible ?_
    split at h
    · cases h
    · split at h
      · cases h
      · next hfind =>
        rw [List.find?_eq_none] at hfind
        refine (legible_cons _ _).2 ⟨by decide, fun c hc => isCharacter_of_path ?_⟩
        have hallowed := hfind c hc
        simp only [Bool.not_eq_true', Bool.not_eq_false, Bool.or_eq_true] at hallowed
        rcases hallowed with (h | h) | h <;> simp [isPathCharacter, isPlain, h]
  · cases h

/-- A host in brackets that is accepted is legible, with all that is after it. -/
theorem legible_of_scanBracketed (h : scanBracketed cs = .ok ()) : Legible cs := by
  unfold scanBracketed at h
  split at h
  · exact (legible_cons _ _).2 ⟨by decide, legible_of_scanFuture h⟩
  · exact (legible_cons _ _).2 ⟨by decide, legible_of_scanFuture h⟩
  · split at h
    · next hsix => exact legible_of_isVersionSix hsix
    · cases h

/-! ## Hosts and hierarchies -/

/-- A host that is accepted is legible, with all that is after it. -/
theorem legible_of_scanHost (h : scanHost cs = .ok ()) : Legible cs := by
  unfold scanHost at h
  split at h
  · -- an address in brackets
    next inner =>
    split at h
    · cases h
    · next bracketed rest hcut =>
      obtain ⟨⟨⟩, hbracketed, h⟩ := bind_eq_ok_iff.1 h
      rw [(Text.cutAt?_eq_some_iff.1 hcut).2]
      have hrest : Legible rest := by
        split at h
        · next c rest' =>
          split at h
          · next hc =>
            refine legible_of_scanAfterHost (fun d hd => ?_) h
            cases hd
            exact isCharacter_of_endsHost hc
          · cases h
        · exact legible_nil
      simp only [legible_cons, legible_append]
      exact ⟨by decide, legible_of_scanBracketed hbracketed, by decide, hrest⟩
  · -- a name
    obtain ⟨rest, hrest, h⟩ := bind_eq_ok_iff.1 h
    refine legible_of_scanWhile (fun _ => isCharacter_of_plain) hrest ?_
    refine legible_of_scanAfterHost (fun c hc => ?_) h
    exact isCharacter_of_endsHost ((scanWhile_ok (fun _ => isCharacter_of_plain) hrest).2 c hc)

/-- An authority that is accepted is legible, with all that is after it. -/
theorem legible_of_scanAuthority (h : scanAuthority cs = .ok ()) : Legible cs := by
  have huser : ∀ c, isUserCharacter c = true → isCharacter c = true := by
    intro c hc
    refine isCharacter_of_path ?_
    rcases Bool.or_eq_true_iff.1 hc with hc | hc <;> simp [isPathCharacter, hc]
  obtain ⟨rest, hrest, h⟩ := bind_eq_ok_iff.1 h
  split at h
  · refine legible_of_scanWhile huser hrest ?_
    exact (legible_cons _ _).2 ⟨by decide, legible_of_scanHost h⟩
  · -- no user: the host is read from the start of the authority
    exact legible_of_scanHost h

/-- What is accepted after a scheme is legible. -/
theorem legible_of_scanHierarchy (h : scanHierarchy cs = .ok ()) : Legible cs := by
  unfold scanHierarchy at h
  split at h
  · simp only [legible_cons]
    exact ⟨by decide, by decide, legible_of_scanAuthority h⟩
  · exact legible_of_scanPath h

/-- A scheme and its colon are legible. -/
theorem reaches_of_afterScheme? (h : afterScheme? cs = some rest) : Reaches cs rest := by
  have hscheme : ∀ c, isSchemeCharacter c = true → isCharacter c = true := by
    intro c hc
    refine isCharacter_of_plain ?_
    simp only [isSchemeCharacter, Bool.or_eq_true, beq_iff_eq] at hc
    rcases hc with (((hc | hc) | rfl) | rfl) | rfl
    · simp [isPlain, isAsciiUnreserved, hc]
    · simp [isPlain, isAsciiUnreserved, hc]
    all_goals decide
  cases cs with
  | nil => cases h
  | cons c cs =>
      rw [afterScheme?] at h
      split at h
      · next hletter =>
        have hc : isCharacter c = true :=
          hscheme c (by simp [isSchemeCharacter, hletter])
        split at h
        · next hdrop =>
          cases h
          -- the letter, what else the scheme has, and the colon
          refine .cons hc ⟨cs.takeWhile isSchemeCharacter ++ [':'], ?_, ?_⟩
          · rw [List.append_assoc, List.singleton_append, ← hdrop]
            exact List.takeWhile_append_dropWhile.symm
          · simp only [legible_append, legible_cons, legible_nil, and_true]
            exact ⟨legible_takeWhile hscheme cs, by decide⟩
        · cases h
      · cases h

/-! ## Whole IRIs -/

/-- **The text of an IRI holds only characters that its components allow.** -/
theorem legible_of_parse {text : String} {i : Iri} (h : parse text = .ok i) :
    Legible text.toList := by
  obtain ⟨⟨⟩, hscan, -⟩ := map_eq_ok_iff.1 h
  unfold scan at hscan
  split at hscan
  · cases hscan
  · split at hscan
    · next rest hscheme =>
      exact (reaches_of_afterScheme? hscheme).legible (legible_of_scanHierarchy hscan)
    · -- a relative reference is no IRI, whether or not it can be read
      obtain ⟨_, -, hscan⟩ := bind_eq_ok_iff.1 hscan
      cases hscan

/-- **The text of an IRI is the text it was read from.** -/
theorem text_of_parse {text : String} {i : Iri} (h : parse text = .ok i) : i.text = text := by
  obtain ⟨_, -, rfl⟩ := map_eq_ok_iff.1 h
  rfl

/-- An IRI that is read from its own text. -/
def Accepted (i : Iri) : Prop := parse i.text = .ok i

/-- An IRI is accepted if reading its text succeeds. -/
theorem accepted_iff {i : Iri} : i.Accepted ↔ (parse i.text).isOk = true := by
  constructor
  · intro h
    rw [h]
    rfl
  · intro h
    unfold Accepted
    cases hparse : parse i.text with
    | error fault =>
        rw [hparse] at h
        cases h
    | ok j =>
        obtain ⟨_, -, rfl⟩ := map_eq_ok_iff.1 hparse
        rfl

instance (i : Iri) : Decidable i.Accepted := decidable_of_iff _ accepted_iff.symm

/-- What is read from some text is also read from its own. -/
theorem accepted_of_parse {text : String} {i : Iri} (h : parse text = .ok i) : i.Accepted := by
  rw [Accepted, text_of_parse h]
  exact h

/-- A character that no component allows does not occur in an IRI. -/
theorem Accepted.not_mem {i : Iri} (h : i.Accepted) {c : Char} (hc : isCharacter c = false) :
    c ∉ i.text.toList := by
  intro hmem
  rw [legible_of_parse h c hmem] at hc
  cases hc

end SolutionAlgebra.Iri
