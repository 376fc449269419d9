import SolutionAlgebra.Proofs.Engine.Runs
import SolutionAlgebra.Proofs.Term.VariableTable

/-! # Variables that read back

A variable is read from a sign and a name, or from the label of a blank node, and is written with a
question mark before the name, unless it is such a label. Reading drops a second sign after the
first one; so the name that is left may be empty, may start with a third sign, or may be the bare
mark of a label, and then the written text stands for another variable or for none. All other
variables read back.

* **`Variable.Spelled`**, **`Term.parseTrimmed_eq_var_iff`** — the texts that are read as a
  variable.
* **`Variable.Proper`**, **`Variable.spelled_text_iff`** — the variables that their own texts stand
  for.
* **`Engine.var_reads_back_iff`** — these are the ones that an engine reads back. -/

namespace SolutionAlgebra

namespace Text

variable {cs : List Char}

/-- A text without blanks around it does not end with one. -/
theorem not_blank_of_trim {c : Char} (h : c ∈ (trim cs).getLast?) : isBlank c = false := by
  have hhead := List.head?_dropWhile_not isBlank (trimStart cs).reverse
  rw [trim, trimEnd, List.getLast?_reverse] at h
  rw [Option.mem_def.1 h] at hhead
  simpa using hhead

end Text

namespace Variable

variable {v : Variable} {cs : List Char}

/-! ## Texts of variables -/

/-- The texts that are read as a variable. -/
inductive Spelled : List Char → Variable → Prop where
  /-- A sign and a name, which may have a second sign. -/
  | signed {sign : Char} {name : List Char} (hsign : sign = '?' ∨ sign = '$') (hname : name ≠ []) :
      Spelled (sign :: name) ⟨String.ofList (dropSigil name)⟩
  /-- The label of a blank node. -/
  | label (c : Char) (cs : List Char) :
      Spelled ('_' :: ':' :: c :: cs) ⟨String.ofList ('_' :: ':' :: c :: cs)⟩

/-- A variable of given characters. -/
theorem eq_mk_ofList_iff : v = ⟨String.ofList cs⟩ ↔ v.name.toList = cs := by
  constructor
  · rintro rfl
    exact String.toList_ofList
  · rintro rfl
    rw [String.ofList_toList]

/-- After a question mark, any name stands for the variable that it is without a second sign. -/
theorem spelled_question_iff :
    v.Spelled ('?' :: cs) ↔ cs ≠ [] ∧ v.name.toList = dropSigil cs := by
  rw [← eq_mk_ofList_iff]
  constructor
  · intro h
    cases h with
    | signed _ hname => exact ⟨hname, rfl⟩
  · rintro ⟨hname, rfl⟩
    exact .signed (.inl rfl) hname

/-- After the mark of labels, anything stands for the label. -/
theorem spelled_label_iff :
    v.Spelled ('_' :: ':' :: cs) ↔ cs ≠ [] ∧ v.name.toList = '_' :: ':' :: cs := by
  rw [← eq_mk_ofList_iff]
  constructor
  · intro h
    cases h with
    | signed hsign _ => rcases hsign with h | h <;> cases h
    | label c cs => exact ⟨List.cons_ne_nil c cs, rfl⟩
  · rintro ⟨hname, rfl⟩
    obtain ⟨c, cs, rfl⟩ := List.exists_cons_of_ne_nil hname
    exact .label c cs

/-- A name as a text gives it, after a sign was dropped. -/
theorem ofText_ofList (cs : List Char) :
    ofText (String.ofList cs) = ⟨String.ofList (dropSigil cs)⟩ := by
  rw [ofText, nameOf, String.toList_ofList]

/-- Dropping a sign leaves the end of a text, if it leaves anything. -/
theorem mem_getLast?_of_dropSigil {c : Char} (h : c ∈ (dropSigil cs).getLast?) :
    c ∈ cs.getLast? := by
  have hcons : ∀ {d : Char} {ds : List Char}, c ∈ ds.getLast? → c ∈ (d :: ds).getLast? := by
    intro d ds hds
    rw [Option.mem_def] at hds ⊢
    rw [List.getLast?_cons, hds]
    rfl
  unfold dropSigil at h
  split at h
  · exact hcons h
  · exact hcons h
  · exact h

/-- The name of a variable ends as the text does that it is read from. -/
theorem Spelled.mem_getLast? (h : v.Spelled cs) {c : Char} (hc : c ∈ v.name.toList.getLast?) :
    c ∈ cs.getLast? := by
  cases h with
  | @signed sign name hsign hname =>
    rw [String.toList_ofList] at hc
    have hlast := mem_getLast?_of_dropSigil hc
    rw [Option.mem_def] at hlast ⊢
    rw [List.getLast?_cons, hlast]
    rfl
  | label d ds => rwa [String.toList_ofList] at hc

/-! ## Proper names -/

/-- That a name is not empty, is more than the mark of a label, and does not start with a sign. -/
def Proper (v : Variable) : Prop :=
  v.name ≠ "" ∧ v.name ≠ "_:" ∧ v.name.toList.head? ≠ some '?' ∧ v.name.toList.head? ≠ some '$'

instance (v : Variable) : Decidable v.Proper :=
  inferInstanceAs (Decidable (_ ∧ _ ∧ _))

/-- A text keeps all its characters if it does not start with a sign. -/
theorem dropSigil_eq_self_iff :
    dropSigil cs = cs ↔ cs.head? ≠ some '?' ∧ cs.head? ≠ some '$' := by
  have hshort : ∀ (c : Char) (cs : List Char), cs ≠ c :: cs := fun c cs h => by
    simpa using congrArg List.length h
  unfold dropSigil
  split
  · exact iff_of_false (hshort _ _) fun h => h.1 rfl
  · exact iff_of_false (hshort _ _) fun h => h.2 rfl
  · next hquestion hdollar =>
    refine iff_of_true rfl ?_
    cases cs with
    | nil => exact ⟨fun h => (nomatch h), fun h => (nomatch h)⟩
    | cons c cs =>
      refine ⟨fun h => hquestion cs ?_, fun h => hdollar cs ?_⟩
      · rw [Option.some.inj h]
      · rw [Option.some.inj h]

/-- The text of a label is its name. -/
theorem text_of_label (h : v.isBlankLabel = true) : v.text.toList = v.name.toList := by
  rw [text, if_pos h]

/-- The text of any other variable has a question mark before the name. -/
theorem text_of_not_label (h : v.isBlankLabel = false) : v.text.toList = '?' :: v.name.toList := by
  rw [text, h, if_neg Bool.false_ne_true, String.toList_append]
  rfl

/-- The name of a label starts with the mark of labels. -/
theorem isBlankLabel_iff : v.isBlankLabel = true ↔ ∃ cs, v.name.toList = '_' :: ':' :: cs := by
  unfold isBlankLabel
  split
  · next cs h => exact iff_of_true rfl ⟨cs, h⟩
  · next hnone => exact iff_of_false Bool.false_ne_true fun ⟨cs, h⟩ => hnone cs h

/-- **A variable is what its own text stands for if and only if the name is proper.** -/
theorem spelled_text_iff : v.Spelled v.text.toList ↔ v.Proper := by
  unfold Proper
  rw [← dropSigil_eq_self_iff, ne_eq, ne_eq, ← String.toList_inj, ← String.toList_inj]
  cases hlabel : v.isBlankLabel with
  | true =>
    obtain ⟨cs, hname⟩ := isBlankLabel_iff.1 hlabel
    rw [text_of_label hlabel, hname, spelled_label_iff, and_iff_left hname]
    -- the mark alone is no label
    show cs ≠ [] ↔ _ ≠ [] ∧ _ ≠ ['_', ':'] ∧ _ = _
    simp [dropSigil]
  | false =>
    have hmark : v.name.toList ≠ "_:".toList := fun h =>
      absurd (isBlankLabel_iff.2 ⟨[], h⟩) (by rw [hlabel]; decide)
    rw [text_of_not_label hlabel, spelled_question_iff, and_iff_right hmark]
    exact and_congr_right fun _ => eq_comm

end Variable

/-! ## Reading -/

namespace Term

variable {prefixes : Prefixes} {text : String} {cs : List Char} {v : Variable}

/-- A text that is neither a variable by its form nor quoted is read as no variable. -/
theorem parseBare_ne_var : parseBare prefixes cs ≠ .ok (.var v) := by
  intro h
  unfold parseBare at h
  split at h
  · cases h
  · split at h
    · cases h
    · split at h
      · obtain ⟨_, -, hv⟩ := map_eq_ok_iff.1 h
        cases hv
      · obtain ⟨_, -, hv⟩ := map_eq_ok_iff.1 h
        cases hv

/-- A text that is read as a variable spells it. -/
theorem spelled_of_parseTrimmed (h : parseTrimmed prefixes text cs = .ok (.var v)) :
    v.Spelled cs := by
  unfold parseTrimmed at h
  split at h
  · cases h
  · -- a question mark and a name
    next name =>
    split at h
    · cases h
    · next hname =>
      cases h
      rw [Variable.ofText_ofList]
      exact .signed (.inl rfl) (by simpa using hname)
  · -- a dollar sign and a name
    next name =>
    split at h
    · cases h
    · next hname =>
      cases h
      rw [Variable.ofText_ofList]
      exact .signed (.inr rfl) (by simpa using hname)
  · next c cs =>
    cases h
    rw [Variable.ofText_ofList]
    exact .label c cs
  -- everything else is an IRI or a literal
  · obtain ⟨_, -, hv⟩ := map_eq_ok_iff.1 h
    cases hv
  · split at h
    · obtain ⟨_, -, hv⟩ := map_eq_ok_iff.1 h
      cases hv
    · exact absurd h parseBare_ne_var

/-- A text that spells a variable is read as it. -/
theorem parseTrimmed_of_spelled (h : v.Spelled cs) :
    parseTrimmed prefixes text cs = .ok (.var v) := by
  cases h with
  | @signed sign name hsign hname =>
    have hempty : name.isEmpty = false := List.isEmpty_eq_false_iff.2 hname
    rw [← Variable.ofText_ofList]
    rcases hsign with rfl | rfl
    · rw [parseTrimmed, hempty]
      rfl
    · rw [parseTrimmed, hempty]
      rfl
  | label c cs =>
    rw [parseTrimmed, Variable.ofText_ofList]
    rfl

/-- **What is read as a variable is spelled as one.** -/
theorem parseTrimmed_eq_var_iff :
    parseTrimmed prefixes text cs = .ok (.var v) ↔ v.Spelled cs :=
  ⟨spelled_of_parseTrimmed, parseTrimmed_of_spelled⟩

/-- The text of a variable has no blanks around it if its name does not end with one. -/
theorem trim_rdf_var (h : ∀ c ∈ v.name.toList.getLast?, Text.isBlank c = false) :
    Text.trim (var v).rdf.toList = (var v).rdf.toList := by
  show Text.trim v.text.toList = v.text.toList
  cases hlabel : v.isBlankLabel with
  | true =>
    obtain ⟨cs, hname⟩ := Variable.isBlankLabel_iff.1 hlabel
    rw [Variable.text_of_label hlabel]
    refine Text.trim_of_ends (fun c hc => ?_) h
    rw [hname] at hc
    cases hc
    decide
  | false =>
    -- the sign comes first, and the name, if there is one, last
    rw [Variable.text_of_not_label hlabel]
    refine Text.trim_of_ends (fun c hc => ?_) fun c hc => ?_
    · cases hc
      decide
    · rw [List.getLast?_cons] at hc
      cases hlast : v.name.toList.getLast? with
      | none =>
        rw [hlast] at hc
        cases hc
        decide
      | some d =>
        rw [hlast] at hc
        cases hc
        exact h _ hlast

/-- **A variable that was read is read back from its text if and only if its name is proper.** -/
theorem parse_rdf_var_iff {prefixes' : Prefixes} (h : parse prefixes text = .ok (.var v)) :
    parse prefixes' (var v).rdf = .ok (.var v) ↔ v.Proper := by
  have hspelled := parseTrimmed_eq_var_iff.1 h
  have htrim : Text.trim (var v).rdf.toList = (var v).rdf.toList :=
    trim_rdf_var fun _ hc => Text.not_blank_of_trim (hspelled.mem_getLast? hc)
  rw [parse, htrim, parseTrimmed_eq_var_iff]
  exact Variable.spelled_text_iff

end Term

/-! ## Engines -/

namespace Engine

variable {engine : Engine} {text : String} {v : Variable}

/-- **Which variables read back.** An engine that reads a variable knows it from then on, and reads
the text of the variable as the same variable, without coming to know another, if and only if the
name of the variable is proper. -/
theorem var_reads_back_iff (h : Term.parse engine.prefixes text = .ok (.var v)) :
    ∃ seen : Engine, ((parseTerm text).run).run engine = (.ok (.var v), seen) ∧
      v ∈ seen.known.entries ∧
      (((parseTerm (Term.var v).rdf).run).run seen = (.ok (.var v), seen) ↔ v.Proper) := by
  have hmem : v ∈ (engine.known.insert v).entries := VariableTable.mem_insert.2 (.inr rfl)
  have hparse_iff := @Term.parse_rdf_var_iff _ _ _ engine.prefixes h
  refine ⟨_, parseTerm_run_var h, hmem, ?_⟩
  rw [← hparse_iff]
  constructor
  · exact parse_of_parseTerm_run
  · intro hparse
    have hseen := @parseTerm_run_var { engine with known := engine.known.insert v } _ _ hparse
    rwa [VariableTable.insert_of_mem hmem] at hseen

/-- A name with a blank in it, read with both signs. -/
theorem var_reads_back_iff_blank :
    Term.parse (ofSettings {}).prefixes " $?x y " = .ok (.var ⟨"x y"⟩) ∧
    ∃ seen : Engine,
      ((parseTerm " $?x y ").run).run (ofSettings {}) = (.ok (.var ⟨"x y"⟩), seen) ∧
      ⟨"x y"⟩ ∈ seen.known.entries ∧
      (((parseTerm (Term.var ⟨"x y"⟩).rdf).run).run seen = (.ok (.var ⟨"x y"⟩), seen) ↔
        Variable.Proper ⟨"x y"⟩) := by
  have h : Term.parse (ofSettings {}).prefixes " $?x y " = .ok (.var ⟨"x y"⟩) :=
    Term.parseTrimmed_eq_var_iff.2 (.signed (.inr rfl) (List.cons_ne_nil _ _))
  exact ⟨h, var_reads_back_iff h⟩

/-- A name that starts with a third sign is read back as another variable. -/
theorem not_var_reads_back :
    ¬ ∀ (prefixes : Prefixes) (text : String) (v : Variable),
      Term.parse prefixes text = .ok (.var v) →
        Term.parse prefixes (Term.var v).rdf = .ok (.var v) := by
  intro h
  have hread : Term.parse .common "???x" = .ok (.var ⟨"?x"⟩) :=
    Term.parseTrimmed_eq_var_iff.2 (.signed (.inl rfl) (List.cons_ne_nil _ _))
  have hproper := (Term.parse_rdf_var_iff hread).1 (h _ _ _ hread)
  exact absurd hproper (by decide)

end Engine

end SolutionAlgebra
