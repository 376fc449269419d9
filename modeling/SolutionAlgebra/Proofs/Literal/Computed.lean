import SolutionAlgebra.Literal.Operations
import SolutionAlgebra.Proofs.Calendar.Printer
import SolutionAlgebra.Proofs.Literal.NumericType
import SolutionAlgebra.Proofs.Term.ReadBack

/-! # Computed literals read back

A computed literal is written by its class of values, and its RDF text is read by the rules of its
datatype. Both agree on truth values, octets and strings, on numbers as far as their class has a
text for them, and on moments as far as their text tells them; what is left over is written as a
text that the datatype refuses or takes for another value.

* **`Literal.Computed`** — the literals that constructors and operators make, to any depth.
* **`Literal.Unreadable`** — the numbers and moments that are written in a way that loses them.
* **`Literal.readsBack_iff_of_computed`** — all computed literals but these read back. -/

namespace SolutionAlgebra

/-! ## Octets -/

namespace Octets

/-- A hexadecimal digit stands for its number and is not blank. -/
theorem hexValue?_hexDigit : ∀ n : Fin 16,
    Text.hexValue? (hexDigit n) = some n.val ∧ Text.isBlank (hexDigit n) = false := by
  decide

/-- The two digits of an octet. -/
theorem hexValue?_octet (octet : UInt8) :
    Text.hexValue? (hexDigit (octet.toNat / 16)) = some (octet.toNat / 16) ∧
      Text.hexValue? (hexDigit (octet.toNat % 16)) = some (octet.toNat % 16) := by
  have hoctet := octet.toNat_lt
  exact ⟨(hexValue?_hexDigit ⟨octet.toNat / 16, by omega⟩).1,
    (hexValue?_hexDigit ⟨octet.toNat % 16, by omega⟩).1⟩

/-- **Octets read back.** -/
theorem ofHex?_toHex (octets : List UInt8) : ofHex? (toHex octets) = some octets := by
  induction octets with
  | nil => rfl
  | cons octet octets ih =>
    obtain ⟨hhigh, hlow⟩ := hexValue?_octet octet
    have hsum : (16 * (octet.toNat / 16) + octet.toNat % 16).toUInt8 = octet := by
      rw [Nat.div_add_mod]
      exact UInt8.ofNat_toNat
    rw [toHex_cons]
    show (do
      let h ← Text.hexValue? (hexDigit (octet.toNat / 16))
      let l ← Text.hexValue? (hexDigit (octet.toNat % 16))
      let octets ← ofHex? (toHex octets)
      pure ((16 * h + l).toUInt8 :: octets)) = _
    rw [hhigh, hlow, ih]
    exact congrArg (fun o => some (o :: octets)) hsum

/-- Written octets have no blanks. -/
theorem not_blank_toHex (octets : List UInt8) : ∀ c ∈ toHex octets, Text.isBlank c = false := by
  intro c hc
  obtain ⟨octet, -, hc⟩ := List.mem_flatMap.1 hc
  have hoctet := octet.toNat_lt
  obtain rfl | hc := List.mem_cons.1 hc
  · exact (hexValue?_hexDigit ⟨octet.toNat / 16, by omega⟩).2
  · obtain rfl := List.mem_singleton.1 hc
    exact (hexValue?_hexDigit ⟨octet.toNat % 16, by omega⟩).2

end Octets

/-! ## Values that read back -/

/-- That two values are the same: numbers of one class by their value, two undefined ones
counting as the same, moments as points in time, and other values if they are equal. -/
def LiteralKind.Same : LiteralKind → LiteralKind → Prop
  | numeric x s, numeric y t => Decimal.SameNumber x y ∧ s = t
  | date a, date b => a.sameTime b = true
  | a, b => a = b

/-- A value is the same as itself. -/
theorem LiteralKind.Same.refl (kind : LiteralKind) : kind.Same kind := by
  cases kind with
  | numeric value type => exact ⟨.refl value, rfl⟩
  | date m => exact Bool.and_eq_true_iff.2 ⟨beq_self_eq_true _, beq_self_eq_true _⟩
  | string => rfl
  | boolean value => rfl
  | octets octets notatedIn => rfl

namespace Literal

variable {l : Literal}

/-- That the RDF text of a literal is read as a literal of the same datatype, language and value. -/
def ReadsBack (prefixes : Prefixes) (l : Literal) : Prop :=
  ∃ read, Term.parseQuoted prefixes l.rdf.toList = .ok read ∧ read.datatype = l.datatype ∧
    read.language = l.language ∧ read.kind.Same l.kind

/-- A literal with a datatype reads back if and only if its text has its value. -/
theorem readsBack_iff {prefixes : Prefixes} {lexical : String} {datatype : Iri}
    {kind : LiteralKind} (hdatatype : datatype.Accepted) :
    ReadsBack prefixes ⟨lexical, some datatype, none, kind⟩ ↔
      ∃ read, decode? lexical datatype = some read ∧ read.Same kind := by
  unfold ReadsBack
  rw [Term.parseQuoted_rdf_typed hdatatype, typed]
  constructor
  · rintro ⟨read, hread, -, -, hsame⟩
    split at hread
    · next found hfound =>
      cases hread
      exact ⟨found, hfound, hsame⟩
    · cases hread
  · rintro ⟨found, hfound, hsame⟩
    rw [hfound]
    exact ⟨_, rfl, rfl, rfl, hsame⟩

/-- A number reads back if and only if its class has a text for it. -/
theorem readsBack_numeric_iff (prefixes : Prefixes) (value : Float) (type : NumericType) :
    (numeric value type).ReadsBack prefixes ↔ type.Has value := by
  rw [numeric, readsBack_iff type.datatype_accepted, decode?, NumericType.ofDatatype?_datatype]
  dsimp only
  constructor
  · rintro ⟨read, hread, -⟩
    by_contra hnot
    rw [NumericType.read?_format_eq_none hnot] at hread
    cases hread
  · intro h
    obtain ⟨y, hread, hsame⟩ := NumericType.read?_format h
    exact ⟨.numeric y type, by rw [hread]; rfl, hsame, rfl⟩

/-- The datatype of moments is an accepted IRI. -/
theorem dateTime_accepted : Vocabulary.dateTime.Accepted := by
  decide +kernel

/-- The datatype of octets is an accepted IRI. -/
theorem hexBinary_accepted : Vocabulary.hexBinary.Accepted := by
  decide +kernel

/-- A text of the datatype of moments. -/
theorem decode?_dateTime {cs : List Char} (h : ∀ c ∈ cs, Text.isBlank c = false) :
    decode? (String.ofList cs) Vocabulary.dateTime =
      (Calendar.readDateTime? cs).map .date := by
  unfold decode?
  rw [String.toList_ofList, Text.trim_of_no_blank h]
  rfl

/-- A moment reads back if and only if its text tells it. -/
theorem readsBack_dateTime_iff (prefixes : Prefixes) {m : Calendar.Moment} (h : m.Valid) :
    (dateTime m).ReadsBack prefixes ↔ m.Told := by
  rw [dateTime, readsBack_iff dateTime_accepted, decode?_dateTime m.not_blank_chars]
  constructor
  · rintro ⟨read, hread, hsame⟩
    obtain ⟨found, hfound, rfl⟩ := Option.map_eq_some_iff.1 hread
    exact m.told_of_readDateTime? h hfound hsame
  · intro htold
    exact ⟨.date m, by rw [m.readDateTime?_chars h htold]; rfl, .refl _⟩

/-- Octets read back. -/
theorem readsBack_hexBinary (prefixes : Prefixes) (octets : List UInt8) :
    (hexBinary octets).ReadsBack prefixes := by
  refine (readsBack_iff hexBinary_accepted).2 ⟨.octets octets .hexadecimal, ?_, rfl⟩
  unfold decode?
  rw [String.toList_ofList, Text.trim_of_no_blank (Octets.not_blank_toHex octets)]
  show (Octets.ofHex? (Octets.toHex octets)).map _ = _
  rw [Octets.ofHex?_toHex]
  rfl

/-- A literal that is made from texts reads back. -/
theorem Formed.readsBack (prefixes : Prefixes) (h : l.Formed) : l.ReadsBack prefixes :=
  ⟨l, Term.parseQuoted_rdf h, rfl, rfl, .refl _⟩

/-! ## Computed literals -/

/-- The literals that are computed: made from texts, from values, as a string with another text, or
by an operator from computed literals. -/
inductive Computed : Literal → Prop where
  /-- Made from texts. -/
  | built {l : Literal} (h : l.Built) : Computed l
  /-- A number. -/
  | numeric (value : Float) (type : NumericType) : Computed (numeric value type)
  /-- A whole number. -/
  | integer (value : Int) : Computed (integer value)
  /-- A truth value. -/
  | boolean (value : Bool) : Computed (boolean value)
  /-- A moment of the calendar. -/
  | dateTime {m : Calendar.Moment} (h : m.Valid) : Computed (dateTime m)
  /-- Octets in hexadecimal. -/
  | hexBinary (octets : List UInt8) : Computed (hexBinary octets)
  /-- A literal with another text. -/
  | withLexical {l : Literal} (h : Computed l) (lexical : String) : Computed (l.withLexical lexical)
  /-- The value of an operator. -/
  | apply {a b l : Literal} (op : ArithmeticOperator) (ha : Computed a) (hb : Computed b)
      (h : apply op a b = .ok l) : Computed l

/-- The forms that a computed literal has. -/
inductive Origin : Literal → Prop where
  /-- The form of a literal made from texts. -/
  | formed {l : Literal} (h : l.Formed) : Origin l
  /-- A number. -/
  | numeric (value : Float) (type : NumericType) : Origin (numeric value type)
  /-- A moment of the calendar. -/
  | dateTime {m : Calendar.Moment} (h : m.Valid) : Origin (dateTime m)
  /-- Octets in hexadecimal. -/
  | hexBinary (octets : List UInt8) : Origin (hexBinary octets)

/-- What the datatypes make of a text: those that take one text for a string take any text for a
string, and the moments of the others have an offset of less than a day. -/
inductive Decodes (datatype : Iri) : LiteralKind → Prop where
  /-- A number. -/
  | numeric (value : Float) (type : NumericType) : Decodes datatype (.numeric value type)
  /-- A string. -/
  | string (h : ∀ text, decode? text datatype = some .string) : Decodes datatype .string
  /-- A truth value. -/
  | boolean (value : Bool) : Decodes datatype (.boolean value)
  /-- A moment. -/
  | date {m : Calendar.Moment} (h : Calendar.isOffset m.offset = true) : Decodes datatype (.date m)
  /-- Octets. -/
  | octets (octets : List UInt8) (notatedIn : OctetNotation) :
      Decodes datatype (.octets octets notatedIn)

/-- The value of a text is one that the datatype may make of it. -/
theorem decodes_of_decode? {lexical : String} {datatype : Iri} {kind : LiteralKind}
    (h : decode? lexical datatype = some kind) : Decodes datatype kind := by
  have hdate : ∀ {o : Option Calendar.Moment},
      (∀ m, o = some m → Calendar.isOffset m.offset = true) → o.map .date = some kind →
        Decodes datatype kind := by
    intro o ho hmap
    obtain ⟨m, hm, rfl⟩ := Option.map_eq_some_iff.1 hmap
    exact .date (ho m hm)
  unfold decode? at h
  split at h
  · obtain ⟨value, -, rfl⟩ := Option.map_eq_some_iff.1 h
    exact .numeric _ _
  next hnumeric =>
  dsimp only at h
  split at h
  · obtain ⟨value, -, rfl⟩ := Option.map_eq_some_iff.1 h
    exact .boolean value
  next hboolean =>
  split at h
  · exact hdate (fun _ => Calendar.isOffset_of_readDateTime?) h
  next hdateTime =>
  split at h
  · exact hdate (fun _ => Calendar.isOffset_of_readDate?) h
  next hdateOnly =>
  split at h
  · exact hdate (fun _ => Calendar.isOffset_of_readTime?) h
  next htime =>
  split at h
  · refine hdate (fun m hm => ?_) h
    rw [Calendar.offset_of_readDurationMoment? hm]
    decide
  next hduration =>
  split at h
  · obtain ⟨octets, -, rfl⟩ := Option.map_eq_some_iff.1 h
    exact .octets octets _
  next hhexBinary =>
  split at h
  · obtain ⟨octets, -, rfl⟩ := Option.map_eq_some_iff.1 h
    exact .octets octets _
  next hbase64Binary =>
  cases h
  -- what is left does not look at the text
  refine .string fun text => ?_
  unfold decode?
  rw [hnumeric]
  dsimp only
  rw [if_neg hboolean, if_neg hdateTime, if_neg hdateOnly, if_neg htime, if_neg hduration,
    if_neg hhexBinary, if_neg hbase64Binary]

/-- The moment of a literal of one of the forms has an offset of less than a day. -/
theorem Origin.isOffset {m : Calendar.Moment} (h : l.Origin) (hkind : l.kind = .date m) :
    Calendar.isOffset m.offset = true := by
  cases h with
  | formed h =>
    cases h with
    | plain lexical => cases hkind
    | tagged lexical _ => cases hkind
    | typed _ hdecode =>
      have hdecodes := decodes_of_decode? hdecode
      change _ = _ at hkind
      subst hkind
      cases hdecodes with
      | date hoffset => exact hoffset
  | numeric value type => cases hkind
  | dateTime hvalid =>
    cases hkind
    exact hvalid.offset
  | hexBinary octets => cases hkind

/-- A literal with another text is a string again, or a plain one. -/
theorem Origin.withLexical (h : l.Origin) (lexical : String) : (l.withLexical lexical).Origin := by
  cases h with
  | formed h =>
    cases h with
    | plain _ => exact .formed (.plain lexical)
    | tagged _ htag => exact .formed (.tagged lexical htag)
    | @typed _ datatype kind hdatatype hdecode =>
      cases decodes_of_decode? hdecode with
      | string hany => exact .formed (.typed hdatatype (hany lexical))
      | numeric _ _ => exact .formed (.plain lexical)
      | boolean _ => exact .formed (.plain lexical)
      | date _ => exact .formed (.plain lexical)
      | octets _ _ => exact .formed (.plain lexical)
  | numeric _ _ => exact .formed (.plain lexical)
  | dateTime _ => exact .formed (.plain lexical)
  | hexBinary _ => exact .formed (.plain lexical)

/-- A moment that is computed lies in the calendar. -/
theorem valid_of_ofMillis? {millis offset : Int} {m : Calendar.Moment}
    (hoffset : Calendar.isOffset offset = true)
    (h : Calendar.Moment.ofMillis? millis offset = some m) : m.Valid := by
  unfold Calendar.Moment.ofMillis? at h
  dsimp only at h
  split at h
  · next hrange =>
    cases h
    refine ⟨hrange, ?_, hoffset⟩
    show (millis % 1000).toNat * 1000000 < 2 * 1000000000
    omega
  · cases h

/-- An operator on a moment makes a moment with the same offset. -/
theorem exists_of_computeMoment? {op : ArithmeticOperator} {m : Calendar.Moment} {b : Literal}
    (h : computeMoment? op m b = some l) : ∃ millis moment,
      Calendar.Moment.ofMillis? millis m.offset = some moment ∧ dateTime moment = l := by
  have hcontinue : ∀ operand? : Option Float, (operand?.bind fun millis =>
      (Decimal.nearestInt? (op.compute (Decimal.ofInt m.millis) millis)).bind fun result =>
        (Calendar.Moment.ofMillis? result m.offset).bind fun moment => some (dateTime moment)) =
          some l → ∃ millis moment,
            Calendar.Moment.ofMillis? millis m.offset = some moment ∧ dateTime moment = l := by
    intro operand? h
    simp only [Option.bind_eq_some_iff] at h
    obtain ⟨millis, -, result, -, moment, hmoment, h⟩ := h
    exact ⟨result, moment, hmoment, Option.some.inj h⟩
  unfold computeMoment? at h
  -- the kind of the other operand decides only which number is taken
  split at h
  · exact hcontinue (some _) h
  · exact hcontinue (some _) h
  · split at h
    · exact hcontinue (some _) h
    · exact hcontinue none h
  · exact hcontinue none h

/-- The values that an operator may have on a literal and another. -/
inductive Combined (a : Literal) : Literal → Prop where
  /-- A number. -/
  | numeric (value : Float) (type : NumericType) : Combined a (numeric value type)
  /-- A plain string. -/
  | plain (lexical : String) : Combined a (plain lexical)
  /-- A truth value. -/
  | boolean (value : Bool) : Combined a (boolean value)
  /-- A moment with the offset of the left operand. -/
  | dateTime {m moment : Calendar.Moment} {millis : Int} (hkind : a.kind = .date m)
      (h : Calendar.Moment.ofMillis? millis m.offset = some moment) : Combined a (dateTime moment)

/-- The value of an operator is a number, a plain string, a truth value, or a moment with the
offset of the left operand. -/
theorem combined_of_apply {op : ArithmeticOperator} {a b : Literal} (h : apply op a b = .ok l) :
    a.Combined l := by
  unfold apply at h
  split at h
  · next hcompute =>
    cases h
    unfold compute? at hcompute
    split at hcompute
    · -- the kind of the left operand decides
      obtain ⟨operand, -, hnumbers⟩ := Option.bind_eq_some_iff.1 hcompute
      unfold computeNumbers? at hnumbers
      dsimp only at hnumbers
      split at hnumbers
      · cases hnumbers
      · cases hnumbers
        exact .numeric _ _
    · split at hcompute
      · cases hcompute
        exact .plain _
      · cases hcompute
    · obtain ⟨operand, -, rfl⟩ := Option.map_eq_some_iff.1 hcompute
      exact .boolean _
    · next m hkind =>
      obtain ⟨millis, moment, hmoment, rfl⟩ := exists_of_computeMoment? hcompute
      exact .dateTime hkind hmoment
    · cases hcompute
  · cases h

/-- The value of an operator has one of the forms, if the left operand has. -/
theorem origin_of_apply {op : ArithmeticOperator} {a b : Literal} (ha : a.Origin)
    (h : apply op a b = .ok l) : l.Origin := by
  cases combined_of_apply h with
  | numeric value type => exact .numeric value type
  | plain lexical => exact .formed (.plain lexical)
  | boolean value => exact .formed (formed_boolean value)
  | dateTime hkind hmoment => exact .dateTime (valid_of_ofMillis? (ha.isOffset hkind) hmoment)

/-- **A computed literal has one of the forms.** -/
theorem Computed.origin (h : l.Computed) : l.Origin := by
  induction h with
  | built h => exact .formed h.formed
  | numeric value type => exact .numeric value type
  | integer value => exact .numeric _ _
  | boolean value => exact .formed (formed_boolean value)
  | dateTime h => exact .dateTime h
  | hexBinary octets => exact .hexBinary octets
  | withLexical _ lexical ih => exact ih.withLexical lexical
  | apply op _ _ h iha _ => exact origin_of_apply iha h

/-- The literals that are written in a way that loses them: numbers for which their class has no
text, and moments of the calendar that their text does not tell. -/
inductive Unreadable : Literal → Prop where
  /-- A number: an infinite or undefined one of the integers or decimal fractions, or an integer
  that is not whole. -/
  | numeric {value : Float} {type : NumericType} (h : ¬ type.Has value) :
      Unreadable (numeric value type)
  /-- A moment: one whose local year has not four digits, whose offset is no whole number of
  minutes, or a leap second in the middle of a minute. -/
  | dateTime {m : Calendar.Moment} (hvalid : m.Valid) (h : ¬ m.Told) : Unreadable (dateTime m)

/-- **A computed literal reads back if and only if it is not one of the unreadable ones.** -/
theorem readsBack_iff_of_computed (prefixes : Prefixes) (h : l.Computed) :
    l.ReadsBack prefixes ↔ ¬ l.Unreadable := by
  constructor
  · intro hread hunreadable
    cases hunreadable with
    | numeric hnot => exact hnot ((readsBack_numeric_iff prefixes _ _).1 hread)
    | dateTime hvalid hnot => exact hnot ((readsBack_dateTime_iff prefixes hvalid).1 hread)
  · intro hreadable
    cases h.origin with
    | formed h => exact h.readsBack prefixes
    | numeric value type =>
      exact (readsBack_numeric_iff prefixes value type).2
        (Classical.byContradiction fun hnot => hreadable (.numeric hnot))
    | dateTime hvalid =>
      exact (readsBack_dateTime_iff prefixes hvalid).2
        (Classical.byContradiction fun hnot => hreadable (.dateTime hvalid hnot))
    | hexBinary octets => exact readsBack_hexBinary prefixes octets

/-- The quotient of one by four is a decimal fraction that reads back, and the product of two huge
decimal fractions is one that does not. -/
theorem readsBack_iff_of_computed_quotient :
    apply .divide (integer 1) (integer 4) = .ok (numeric 0.25 .decimal) ∧
      (numeric 0.25 .decimal).ReadsBack Prefixes.common ∧
      apply .multiply (numeric 1e308 .decimal) (numeric 10 .decimal) =
        .ok (numeric Decimal.infinity .decimal) ∧
      ¬ (numeric Decimal.infinity .decimal).ReadsBack Prefixes.common := by
  have hquotient : apply .divide (integer 1) (integer 4) = .ok (numeric 0.25 .decimal) := by
    decide +kernel
  have hproduct : apply .multiply (numeric 1e308 .decimal) (numeric 10 .decimal) =
      .ok (numeric Decimal.infinity .decimal) := by
    decide +kernel
  have hreadable : ¬ (numeric 0.25 .decimal).Unreadable := by
    generalize hl : numeric 0.25 .decimal = l
    rintro (hnot | ⟨-, -⟩)
    · obtain ⟨rfl, rfl⟩ := LiteralKind.numeric.inj (congrArg Literal.kind hl)
      exact hnot ⟨by decide +kernel, by decide +kernel⟩
    · exact LiteralKind.noConfusion (congrArg Literal.kind hl)
  have hunreadable : (numeric Decimal.infinity .decimal).Unreadable :=
    .numeric fun hfinite => absurd hfinite.isInf (by decide +kernel)
  refine ⟨hquotient, ?_, hproduct, fun hread => ?_⟩
  · exact (readsBack_iff_of_computed Prefixes.common
      (.apply .divide (.integer 1) (.integer 4) hquotient)).2 hreadable
  · exact (readsBack_iff_of_computed Prefixes.common
      (.apply .multiply (.numeric _ _) (.numeric _ _) hproduct)).1 hread hunreadable

/-- The first moment of the year 10000 is written with a year that is not read. -/
theorem not_readsBack_yearTenThousand :
    ¬ ∀ l : Literal, l.Computed → l.ReadsBack Prefixes.common := by
  intro h
  have hvalid : Calendar.Moment.Valid ⟨253402300800, 0, 0⟩ := ⟨by decide, by decide, by decide⟩
  have htold := (readsBack_dateTime_iff Prefixes.common hvalid).1 (h _ (.dateTime hvalid))
  exact absurd htold.year (by decide)

end Literal

end SolutionAlgebra
