import SolutionAlgebra.Calendar.Reader
import SolutionAlgebra.Proofs.Decimal.Forms

/-! # The grammar of durations

A duration is an optional minus sign, `P`, date parts and, after `T`, time parts, a part being a
number and the letter of its unit. The grammar is the same whatever counts as a number of a unit and
as a choice of units. In a proper duration the units are chosen in their order, each once at most,
and only the seconds have a fraction. In a duration that is read they stand in any order and any
number of times, and every number may have a point, at either end as well.

* **`Parts`**, **`Duration`** — the parts of a text, and the texts that are made of them.
* **`parts_of_readParts?`**, **`exists_readParts?`** — what the scan of the parts makes of a text.
* **`isSome_readDuration?_iff`** — what is read.
* **`isDuration_iff`** — which of the durations that are read are proper.
* **`not_isDuration_of_readDuration?`** — a duration that is read with its parts out of order. -/

namespace SolutionAlgebra.Calendar

open Decimal (IsDigits Unsigned)

variable {Number Number' : Char → List Char → Prop} {Choice Choice' : List Char → List Char → Prop}
  {unit c : Char} {units letters number cs : List Char} {unit? : Char → Option Float}
  {sum total : Float} {seen found : Bool}

/-! ## Durations -/

/-- Numbers, each with the letter of its unit after it. -/
inductive Parts (Number : Char → List Char → Prop) : List Char → List Char → Prop where
  /-- No parts. -/
  | nil : Parts Number [] []
  /-- A part and further ones. -/
  | cons {unit : Char} {number units cs : List Char} (hnumber : Number unit number)
      (hrest : Parts Number units cs) : Parts Number (unit :: units) (number ++ unit :: cs)

/-- The units of dates, in their order. -/
def dateUnits : List Char := ['Y', 'M', 'D']

/-- The units of times, in their order. -/
def timeUnits : List Char := ['H', 'M', 'S']

/-- What stands after `P`, for what counts as a number of a unit and as a choice of units: at least
one part, and at least one after `T`. -/
inductive DurationBody (Number : Char → List Char → Prop) (Choice : List Char → List Char → Prop) :
    List Char → Prop where
  /-- Parts of a date. -/
  | date {units cs : List Char} (hunits : Choice units dateUnits) (hparts : Parts Number units cs)
      (hne : cs ≠ []) : DurationBody Number Choice cs
  /-- Parts of a date, or none, and parts of a time. -/
  | time {units units' cs ds : List Char} (hunits : Choice units dateUnits)
      (hparts : Parts Number units cs) (hunits' : Choice units' timeUnits)
      (hparts' : Parts Number units' ds) (hne : ds ≠ []) :
      DurationBody Number Choice (cs ++ 'T' :: ds)

/-- The durations for what counts as a number of a unit and as a choice of units. -/
inductive Duration (Number : Char → List Char → Prop) (Choice : List Char → List Char → Prop) :
    List Char → Prop where
  /-- A time span onwards. -/
  | onwards {cs : List Char} (hbody : DurationBody Number Choice cs) :
      Duration Number Choice ('P' :: cs)
  /-- A time span backwards. -/
  | backwards {cs : List Char} (hbody : DurationBody Number Choice cs) :
      Duration Number Choice ('-' :: 'P' :: cs)

/-- The proper numbers: digits, and among the seconds digits on both sides of a point. -/
inductive IsAmount : Char → List Char → Prop where
  /-- Digits. -/
  | whole {unit : Char} {cs : List Char} (hdigits : IsDigits cs) (hne : cs ≠ []) : IsAmount unit cs
  /-- Seconds with a fraction. -/
  | pointed {cs ds : List Char} (hwhole : IsDigits cs) (hne : cs ≠ []) (hfraction : IsDigits ds)
      (hne' : ds ≠ []) : IsAmount 'S' (cs ++ '.' :: ds)

/-- The proper durations, with units chosen in their order. -/
def IsDuration : List Char → Prop := Duration IsAmount List.Sublist

/-- The numbers that are read, whatever the unit: digits with at most one point. -/
def IsReadAmount (_ : Char) (cs : List Char) : Prop := Unsigned cs

/-- The durations that are read, with units chosen in any way. -/
def IsReadDuration : List Char → Prop :=
  Duration IsReadAmount fun chosen units => chosen ⊆ units

/-- The durations that are read with their units in order, each once at most. -/
def IsOrderedDuration : List Char → Prop := Duration IsReadAmount List.Sublist

/-- The durations that are read with proper numbers. -/
def IsPreciseDuration : List Char → Prop :=
  Duration IsAmount fun chosen units => chosen ⊆ units

/-! ## Proper durations -/

/-- Parts stay parts if more counts as a number. -/
theorem Parts.mono (hnumber : ∀ unit number, Number unit number → Number' unit number)
    (h : Parts Number units cs) : Parts Number' units cs := by
  induction h with
  | nil => exact .nil
  | cons h _ ih => exact .cons (hnumber _ _ h) ih

/-- Durations stay durations if more counts as a number and as a choice. -/
theorem Duration.mono (hnumber : ∀ unit number, Number unit number → Number' unit number)
    (hchoice : ∀ chosen units, Choice chosen units → Choice' chosen units)
    (h : Duration Number Choice cs) : Duration Number' Choice' cs := by
  have hbody : ∀ {cs}, DurationBody Number Choice cs → DurationBody Number' Choice' cs := by
    rintro _ (⟨hunits, hparts, hne⟩ | ⟨hunits, hparts, hunits', hparts', hne⟩)
    · exact .date (hchoice _ _ hunits) (hparts.mono hnumber) hne
    · exact .time (hchoice _ _ hunits) (hparts.mono hnumber) (hchoice _ _ hunits')
        (hparts'.mono hnumber) hne
  cases h with
  | onwards h => exact .onwards (hbody h)
  | backwards h => exact .backwards (hbody h)

/-- A proper number is read. -/
theorem IsAmount.isReadAmount (h : IsAmount unit number) : IsReadAmount unit number := by
  cases h with
  | whole hdigits hne => exact Unsigned.whole hdigits hne
  | pointed hwhole hne hfraction _ => exact Unsigned.pointed hwhole hfraction (.inl hne)

/-- Durations with their units in order are read. -/
theorem isReadDuration_of_isOrderedDuration (h : IsOrderedDuration cs) : IsReadDuration cs :=
  Duration.mono (fun _ _ => id) (fun _ _ => List.Sublist.subset) h

/-! ## Where parts end -/

/-- That a text consists of what numbers consist of. -/
def IsPartDigits (cs : List Char) : Prop := ∀ c ∈ cs, isPartDigit c = true

/-- A number has nothing but digits and a point. -/
theorem IsReadAmount.isPartDigits (h : IsReadAmount unit number) : IsPartDigits number := by
  intro c hc
  rw [isPartDigit, Bool.or_eq_true, beq_iff_eq]
  exact Unsigned.mem h c hc

/-- A number is taken off up to the letter after it. -/
theorem IsPartDigits.takeWhile_append (h : IsPartDigits number) (hunit : isPartDigit unit = false) :
    (number ++ unit :: cs).takeWhile isPartDigit = number := by
  rw [List.takeWhile_append_of_pos h, List.takeWhile_cons, hunit]
  exact List.append_nil number

/-- The first part of a text ends at the first character that is not in a number. -/
theorem Parts.exists_of_append (h : Parts IsReadAmount units (number ++ c :: cs))
    (hunits : ∀ unit ∈ units, isPartDigit unit = false) (hdigits : IsPartDigits number)
    (hc : isPartDigit c = false) :
    ∃ rest, units = c :: rest ∧ Unsigned number ∧ Parts IsReadAmount rest cs := by
  generalize htext : number ++ c :: cs = text at h
  cases h with
  | nil => cases number <;> cases htext
  | @cons unit number' units cs' hnumber hrest =>
    have hsame : number = number' := by
      rw [← hdigits.takeWhile_append hc, htext,
        hnumber.isPartDigits.takeWhile_append (hunits unit List.mem_cons_self)]
    subst hsame
    obtain ⟨rfl, rfl⟩ := List.cons.inj (List.append_cancel_left htext)
    exact ⟨units, rfl, hnumber, hrest⟩

/-- A text has one sequence of parts only. -/
theorem Parts.unique {units' : List Char} (h : Parts IsReadAmount units cs)
    (h' : Parts IsReadAmount units' cs) (hunits : ∀ unit ∈ units, isPartDigit unit = false)
    (hunits' : ∀ unit ∈ units', isPartDigit unit = false) : units = units' := by
  induction h generalizing units' with
  | nil =>
    generalize htext : [] = text at h'
    cases h' with
    | nil => rfl
    | @cons _ number _ _ _ _ => cases number <;> cases htext
  | cons hnumber _ ih =>
    obtain ⟨hunit, hrest⟩ := List.forall_mem_cons.1 hunits
    obtain ⟨rest, rfl, -, hparts⟩ := h'.exists_of_append hunits' hnumber.isPartDigits hunit
    rw [ih hparts hrest (List.forall_mem_cons.1 hunits').2]

/-- Parts have no letters but those of their units. -/
theorem Parts.mem (h : Parts IsReadAmount units cs) :
    ∀ c ∈ cs, isPartDigit c = true ∨ c ∈ units := by
  induction h with
  | nil => exact fun _ hc => nomatch hc
  | cons hnumber _ ih =>
    rw [List.forall_mem_append, List.forall_mem_cons]
    exact ⟨fun c hc => .inl (hnumber.isPartDigits c hc), .inr List.mem_cons_self,
      fun c hc => (ih c hc).imp_right (List.mem_cons_of_mem _)⟩

/-- Parts end with a letter. -/
theorem Parts.eq_nil (h : Parts IsReadAmount units cs)
    (hunits : ∀ unit ∈ units, isPartDigit unit = false) (hdigits : IsPartDigits cs) : cs = [] := by
  cases h with
  | nil => rfl
  | cons _ _ =>
    have hunit := hdigits _ (List.mem_append_right _ List.mem_cons_self)
    rw [hunits _ List.mem_cons_self] at hunit
    cases hunit

/-! ## The scan -/

/-- Letters are not in numbers if none of them is. -/
theorem not_digit_of_all (h : (letters.all fun c => !isPartDigit c) = true) :
    ∀ c ∈ letters, isPartDigit c = false := by
  intro c hc
  have hletter := List.all_eq_true.1 h c hc
  rwa [Bool.not_eq_true'] at hletter

/-- What is not in numbers is in none of them. -/
theorem IsPartDigits.not_mem (h : IsPartDigits number) (hc : isPartDigit c = false) :
    c ∉ number := by
  intro hmem
  rw [h c hmem] at hc
  cases hc

/-- Digits and points have no sign before them. -/
theorem IsPartDigits.bare (h : IsPartDigits number) : Decimal.Bare number := by
  intro c hc
  have hmem := List.mem_of_mem_head? hc
  constructor
  · rintro rfl
    exact h.not_mem (by decide) hmem
  · rintro rfl
    exact h.not_mem (by decide) hmem

/-- Digits with at most one point are what is read of the characters of numbers. -/
theorem isSome_read?_iff_unsigned (h : IsPartDigits number) :
    (Decimal.read? number).isSome = true ↔ Unsigned number := by
  rw [Decimal.isSome_read?, h.bare.readSign, Decimal.isSome_readUnsigned?_iff, Text.mem_mul]
  constructor
  · -- an exponent would start with its letter
    rintro ⟨digits, hdigits, rest, hrest, rfl⟩
    have hnil : rest = [] := by
      cases rest with
      | nil => rfl
      | cons c rest =>
        have hc := not_digit_of_all (by decide) c (Decimal.head_of_mem_exponentForm hrest c rfl)
        exact absurd (List.mem_append_right _ List.mem_cons_self) (h.not_mem hc)
    rw [hnil, List.append_nil]
    exact Decimal.mem_unsignedForm.1 hdigits
  · intro hunsigned
    exact ⟨number, Decimal.mem_unsignedForm.2 hunsigned, [], Text.mem_optional.2 (.inl rfl),
      List.append_nil _⟩

/-- That a scan knows the units of some letters. -/
structure Knows (unit? : Char → Option Float) (letters : List Char) : Prop where
  /-- The units are those of the letters. -/
  isSome_iff : ∀ c, (unit? c).isSome = true ↔ c ∈ letters
  /-- The letters are not in numbers. -/
  not_digit : ∀ c ∈ letters, isPartDigit c = false

/-- The units of dates. -/
theorem knows_dateUnits : Knows dateUnit? dateUnits where
  isSome_iff c := by
    unfold dateUnit? dateUnits
    grind
  not_digit := not_digit_of_all (by decide)

/-- The units of times. -/
theorem knows_timeUnits : Knows timeUnit? timeUnits where
  isSome_iff c := by
    unfold timeUnit? timeUnits
    grind
  not_digit := not_digit_of_all (by decide)

/-- The scan takes a digit to the number of the part. -/
theorem readParts?_digit (hc : isPartDigit c = true) :
    readParts? unit? sum seen number (c :: cs) = readParts? unit? sum seen (c :: number) cs := by
  rw [readParts?, if_pos hc]

/-- The scan ends a part at the letter of its unit. -/
theorem readParts?_letter (hc : isPartDigit c = false) :
    readParts? unit? sum seen number (c :: cs) =
      (unit? c).bind fun unit => (Decimal.read? number.reverse).bind fun count =>
        readParts? unit? (sum + count * unit) true [] cs := by
  rw [readParts?, hc]
  rfl

/-- A digit more, in reverse. -/
theorem IsPartDigits.reverse_cons (h : IsPartDigits number.reverse) (hc : isPartDigit c = true) :
    IsPartDigits (c :: number).reverse := by
  rw [List.reverse_cons]
  exact List.forall_mem_append.2 ⟨h, List.forall_mem_singleton.2 hc⟩

/-- The number of a part that has not begun. -/
theorem isPartDigits_nil : IsPartDigits ([] : List Char).reverse := List.forall_mem_nil _

/-- **What the scan reads** are parts, and it tells whether there was one. -/
theorem parts_of_readParts? (hknows : Knows unit? letters) (hdigits : IsPartDigits number.reverse)
    (h : readParts? unit? sum seen number cs = some (total, found)) :
    (∃ units, units ⊆ letters ∧ Parts IsReadAmount units (number.reverse ++ cs)) ∧
      found = (seen || !(number.reverse ++ cs).isEmpty) := by
  induction cs generalizing sum seen number with
  | nil =>
    rw [readParts?, Option.ite_none_right_eq_some] at h
    obtain ⟨hempty, h⟩ := h
    obtain ⟨rfl, rfl⟩ := Prod.mk.inj (Option.some.inj h)
    rw [List.isEmpty_iff.1 hempty]
    exact ⟨⟨[], List.nil_subset _, .nil⟩, (Bool.or_false _).symm⟩
  | cons c cs ih =>
    -- a digit joins the number read so far, a letter ends the part
    cases hc : isPartDigit c with
    | true =>
      rw [readParts?_digit hc] at h
      have hread := ih (hdigits.reverse_cons hc) h
      rwa [List.reverse_cons, List.append_assoc] at hread
    | false =>
      rw [readParts?_letter hc] at h
      obtain ⟨size, hunit, h⟩ := Option.bind_eq_some_iff.1 h
      obtain ⟨count, hcount, h⟩ := Option.bind_eq_some_iff.1 h
      obtain ⟨⟨units, hunits, hparts⟩, rfl⟩ := ih isPartDigits_nil h
      have hletter := (hknows.isSome_iff c).1 (Option.isSome_of_eq_some hunit)
      have hnumber := (isSome_read?_iff_unsigned hdigits).1 (Option.isSome_of_eq_some hcount)
      refine ⟨⟨c :: units, List.cons_subset.2 ⟨hletter, hunits⟩, .cons hnumber hparts⟩, ?_⟩
      simp

/-- **Parts are read.** -/
theorem exists_readParts? (hknows : Knows unit? letters) (hunits : units ⊆ letters)
    (hdigits : IsPartDigits number.reverse) (h : Parts IsReadAmount units (number.reverse ++ cs))
    (sum : Float) (seen : Bool) :
    ∃ total found, readParts? unit? sum seen number cs = some (total, found) := by
  have hletters : ∀ unit ∈ units, isPartDigit unit = false := fun unit hunit =>
    hknows.not_digit unit (hunits hunit)
  induction cs generalizing sum seen number units with
  | nil =>
    rw [List.append_nil] at h
    have hnil := List.reverse_eq_nil_iff.1 (h.eq_nil hletters hdigits)
    exact ⟨sum, seen, by rw [hnil]; rfl⟩
  | cons c cs ih =>
    cases hc : isPartDigit c with
    | true =>
      rw [readParts?_digit hc]
      refine ih hunits (hdigits.reverse_cons hc) ?_ sum seen hletters
      rwa [List.reverse_cons, List.append_assoc]
    | false =>
      obtain ⟨rest, rfl, hnumber, hrest⟩ := h.exists_of_append hletters hdigits hc
      obtain ⟨hletter, hunits⟩ := List.cons_subset.1 hunits
      obtain ⟨size, hsize⟩ := Option.isSome_iff_exists.1 ((hknows.isSome_iff c).2 hletter)
      obtain ⟨count, hcount⟩ :=
        Option.isSome_iff_exists.1 ((isSome_read?_iff_unsigned hdigits).2 hnumber)
      rw [readParts?_letter hc, hsize, hcount]
      exact ih hunits isPartDigits_nil hrest _ _ (List.forall_mem_cons.1 hletters).2

/-! ## What is read -/

/-- Dates have no mark of times. -/
theorem mark_not_mem (hunits : units ⊆ dateUnits) (h : Parts IsReadAmount units cs) : 'T' ∉ cs := by
  intro hmem
  rcases h.mem 'T' hmem with hdigit | hunit
  · cases hdigit
  · exact absurd (hunits hunit) (by decide)

/-- What stands after `P` is cut at the mark of times. -/
theorem readDurationBody?_eq_of_cut {ds : List Char} (h : 'T' ∉ cs) :
    readDurationBody? (cs ++ 'T' :: ds) =
      (readParts? dateUnit? 0.0 false [] cs).bind fun (sum, seen) =>
        if ds = [] then none
        else (readParts? timeUnit? sum seen [] ds).bind fun (sum, seen) =>
          if seen then some sum else none := by
  unfold readDurationBody?
  rw [Text.cutAt?_append h]
  cases ds <;> rfl

/-- What stands after `P` is a date if there is no mark of times. -/
theorem readDurationBody?_eq_of_not_mem (h : 'T' ∉ cs) :
    readDurationBody? cs =
      (readParts? dateUnit? 0.0 false [] cs).bind fun (sum, seen) =>
        if seen then some sum else none := by
  have hcut : Text.cutAt? 'T' cs = none := by
    refine Option.eq_none_iff_forall_ne_some.2 fun ⟨before, after⟩ hcut => h ?_
    rw [(Text.cutAt?_eq_some_iff.1 hcut).2]
    exact List.mem_append_right _ List.mem_cons_self
  unfold readDurationBody?
  rw [hcut]
  rfl

/-- What is read after `P` is made of parts. -/
theorem durationBody_of_readDurationBody? {millis : Float}
    (h : readDurationBody? cs = some millis) :
    DurationBody IsReadAmount (fun chosen units => chosen ⊆ units) cs := by
  -- the mark cuts off the parts of time, of which there must be one
  by_cases hmark : 'T' ∈ cs
  · obtain ⟨date, time, rfl, hdate⟩ := List.eq_append_cons_of_mem hmark
    rw [readDurationBody?_eq_of_cut hdate] at h
    obtain ⟨⟨sum, seen⟩, hread, h⟩ := Option.bind_eq_some_iff.1 h
    dsimp only at h
    split at h
    · cases h
    · next hne =>
      obtain ⟨⟨sum', seen'⟩, hread', -⟩ := Option.bind_eq_some_iff.1 h
      obtain ⟨⟨units, hunits, hparts⟩, -⟩ :=
        parts_of_readParts? knows_dateUnits isPartDigits_nil hread
      obtain ⟨⟨units', hunits', hparts'⟩, -⟩ :=
        parts_of_readParts? knows_timeUnits isPartDigits_nil hread'
      exact .time hunits hparts hunits' hparts' hne
  · rw [readDurationBody?_eq_of_not_mem hmark] at h
    obtain ⟨⟨sum, seen⟩, hread, h⟩ := Option.bind_eq_some_iff.1 h
    obtain ⟨⟨units, hunits, hparts⟩, hseen⟩ :=
      parts_of_readParts? knows_dateUnits isPartDigits_nil hread
    obtain ⟨rfl, -⟩ := Option.ite_none_right_eq_some.1 h
    refine .date hunits hparts ?_
    rintro rfl
    cases hseen

/-- What is made of parts is read after `P`. -/
theorem DurationBody.isSome_readDurationBody?
    (h : DurationBody IsReadAmount (fun chosen units => chosen ⊆ units) cs) :
    (readDurationBody? cs).isSome = true := by
  cases h with
  | date hunits hparts hne =>
    obtain ⟨sum, seen, hread⟩ :=
      exists_readParts? knows_dateUnits hunits isPartDigits_nil hparts 0.0 false
    obtain ⟨-, rfl⟩ := parts_of_readParts? knows_dateUnits isPartDigits_nil hread
    rw [readDurationBody?_eq_of_not_mem (mark_not_mem hunits hparts), hread]
    simp [hne]
  | time hunits hparts hunits' hparts' hne =>
    obtain ⟨sum, seen, hread⟩ :=
      exists_readParts? knows_dateUnits hunits isPartDigits_nil hparts 0.0 false
    obtain ⟨sum', seen', hread'⟩ :=
      exists_readParts? knows_timeUnits hunits' isPartDigits_nil hparts' sum seen
    obtain ⟨-, rfl⟩ := parts_of_readParts? knows_timeUnits isPartDigits_nil hread'
    rw [readDurationBody?_eq_of_cut (mark_not_mem hunits hparts), hread, Option.bind_some]
    dsimp only
    rw [if_neg hne, hread']
    simp [hne]

/-- **What is read** are the durations of parts in any order. -/
theorem isSome_readDuration?_iff : (readDuration? cs).isSome = true ↔ IsReadDuration cs := by
  constructor
  · intro h
    unfold readDuration? at h
    split at h
    · rw [Option.isSome_map] at h
      obtain ⟨millis, hread⟩ := Option.isSome_iff_exists.1 h
      exact .backwards (durationBody_of_readDurationBody? hread)
    · obtain ⟨millis, hread⟩ := Option.isSome_iff_exists.1 h
      exact .onwards (durationBody_of_readDurationBody? hread)
    · cases h
  · rintro (hbody | hbody)
    · exact hbody.isSome_readDurationBody?
    · show (Option.map _ (readDurationBody? _)).isSome = true
      rw [Option.isSome_map]
      exact hbody.isSome_readDurationBody?

/-- The units of a text can be told from either kind of numbers. -/
theorem Parts.isAmount {units' : List Char} (h : Parts IsReadAmount units cs)
    (h' : Parts IsAmount units' cs) (hletters : ∀ c ∈ letters, isPartDigit c = false)
    (hunits : units ⊆ letters) (hunits' : units' ⊆ letters) : Parts IsAmount units cs := by
  have hsame := h.unique (h'.mono fun _ _ => IsAmount.isReadAmount)
    (fun unit hunit => hletters unit (hunits hunit))
    fun unit hunit => hletters unit (hunits' hunit)
  rwa [hsame]

/-- A text after `P` with its units in order, and proper numbers, is proper. -/
theorem DurationBody.proper (h : DurationBody IsReadAmount List.Sublist cs)
    (h' : DurationBody IsAmount (fun chosen units => chosen ⊆ units) cs) :
    DurationBody IsAmount List.Sublist cs := by
  cases h with
  | date hunits hparts hne =>
    have hmark := mark_not_mem hunits.subset hparts
    cases h' with
    | date hunits' hparts' _ =>
      exact .date hunits
        (hparts.isAmount hparts' knows_dateUnits.not_digit hunits.subset hunits') hne
    | time _ _ _ _ _ => exact absurd (List.mem_append_right _ List.mem_cons_self) hmark
  | @time units units' date time hunits hparts hunits' hparts' hne =>
    have hmark := mark_not_mem hunits.subset hparts
    generalize htext : date ++ 'T' :: time = text at h'
    cases h' with
    | date hchosen hchosenParts _ =>
      have hmark' := mark_not_mem hchosen
        (hchosenParts.mono fun _ _ => IsAmount.isReadAmount)
      exact absurd (htext ▸ List.mem_append_right _ List.mem_cons_self) hmark'
    | @time _ _ date' time' hchosen hchosenParts hchosen' hchosenParts' _ =>
      -- both readings cut the text at its only mark
      have hmark' := mark_not_mem hchosen
        (hchosenParts.mono fun _ _ => IsAmount.isReadAmount)
      have hcut := Text.cutAt?_append hmark' time'
      rw [← htext, Text.cutAt?_append hmark] at hcut
      obtain ⟨rfl, rfl⟩ := Prod.mk.inj (Option.some.inj hcut)
      exact .time hunits
        (hparts.isAmount hchosenParts knows_dateUnits.not_digit hunits.subset hchosen) hunits'
        (hparts'.isAmount hchosenParts' knows_timeUnits.not_digit hunits'.subset hchosen') hne

/-- **The proper durations** are those that are read with their units in order and with proper
numbers. -/
theorem isDuration_iff : IsDuration cs ↔ IsOrderedDuration cs ∧ IsPreciseDuration cs := by
  constructor
  · intro h
    exact ⟨h.mono (fun _ _ => IsAmount.isReadAmount) fun _ _ => id,
      h.mono (fun _ _ => id) fun _ _ => List.Sublist.subset⟩
  · rintro ⟨h, h'⟩
    cases h with
    | onwards hbody =>
      cases h' with
      | onwards hbody' => exact .onwards (hbody.proper hbody')
    | backwards hbody =>
      cases h' with
      | backwards hbody' => exact .backwards (hbody.proper hbody')

/-- A day and a year are read, although years go before days. -/
theorem not_isDuration_of_readDuration? :
    ¬ ∀ cs, (readDuration? cs).isSome = true ↔ IsDuration cs := by
  intro hall
  have hone : ∀ unit, IsReadAmount unit ['1'] := fun _ =>
    Unsigned.whole (by decide +kernel) (by decide)
  have hparts : Parts IsReadAmount ['D', 'Y'] (['1'] ++ 'D' :: (['1'] ++ 'Y' :: [])) :=
    .cons (hone _) (.cons (hone _) .nil)
  have hunits' : ['D', 'Y'] ⊆ dateUnits := by decide
  have hread : IsReadDuration "P1D1Y".toList := .onwards (.date hunits' hparts (by decide))
  have hproper := (hall _).1 (isSome_readDuration?_iff.2 hread)
  generalize htext : "P1D1Y".toList = text at hproper
  cases hproper with
  | backwards _ => cases htext
  | @onwards cs hbody =>
    have hcs : "1D1Y".toList = cs := (List.cons.inj htext).2
    cases hbody with
    | @date units cs hunits h _ =>
      subst hcs
      have hletters : ∀ unit ∈ dateUnits, isPartDigit unit = false := knows_dateUnits.not_digit
      -- the parts can be taken in one way only, and their units are not in order
      have hsame := (h.mono fun _ _ => IsAmount.isReadAmount).unique hparts
        (fun unit hunit => hletters unit (hunits.subset hunit))
        fun unit hunit => hletters unit (hunits' hunit)
      rw [hsame] at hunits
      exact absurd hunits (by decide)
    | time _ _ _ _ _ =>
      have hmark : 'T' ∈ "1D1Y".toList := hcs ▸ List.mem_append_right _ List.mem_cons_self
      exact absurd hmark (by decide)

end SolutionAlgebra.Calendar
