import SolutionAlgebra.Calendar.Moment
import SolutionAlgebra.Calendar.Reader
import SolutionAlgebra.Proofs.Calendar.Civil
import SolutionAlgebra.Proofs.Calendar.Offset
import SolutionAlgebra.Proofs.Decimal.Digits

/-! # Written moments read back

Each field of a written moment has a fixed count of digits, so that the strict form reads field by
field what the local clock showed. The loose form never reads a written moment, as it leaves no
room for the offset. -/

namespace SolutionAlgebra.Calendar

open Decimal

variable {n width : Nat} {rest : List Char}

/-! ## Fields -/

/-- What is read is handed to the reader of the rest. -/
theorem bind_of_eq_some {α β : Type} {x : Option α} {a : α} (h : x = some a) (f : α → Option β) :
    (x >>= f) = f a := by
  rw [h]
  rfl

/-- Digits are read up to where they end, or up to the greatest count. -/
theorem readDigits?_append {least most : Nat} {cs : List Char} (h : IsDigits cs)
    (hleast : least ≤ cs.length) (hmost : cs.length ≤ most)
    (hends : cs.length = most ∨ Ends rest) :
    readDigits? least most (cs ++ rest) = some (digitsValue cs, rest) := by
  have htaken : ((cs ++ rest).take most).takeWhile isDigit = cs := by
    rw [List.take_append, List.take_of_length_le hmost, List.takeWhile_append_of_pos h]
    obtain hfull | hends := hends
    · rw [hfull, Nat.sub_self, List.take_zero, List.takeWhile_nil, List.append_nil]
    · have hnone : (rest.take (most - cs.length)).takeWhile isDigit = [] := by
        cases rest with
        | nil => simp
        | cons c rest =>
          rw [ends_cons] at hends
          cases most - cs.length with
          | zero => rfl
          | succ k => simp [hends]
      rw [hnone, List.append_nil]
  unfold readDigits?
  dsimp only
  rw [htaken, if_neg (by omega), List.drop_left]

/-- Padded digits are digits. -/
theorem isDigits_paddedChars (width n : Nat) : IsDigits (paddedChars width n) :=
  isDigits_append.2 ⟨isDigits_replicate _, isDigits_digitChars n⟩

/-- Padded digits stand for the number. -/
theorem digitsValue_paddedChars (width n : Nat) : digitsValue (paddedChars width n) = n := by
  rw [paddedChars, digitsValue_zeros_append, digitsValue_digitChars]

/-- A number is padded to the width if it has no more digits. -/
theorem length_paddedChars (hwidth : 0 < width) (h : n < 10 ^ width) :
    (paddedChars width n).length = width := by
  have := length_digitChars_le hwidth h
  show (List.replicate (width - (digitChars n).length) '0' ++ digitChars n).length = width
  rw [List.length_append, List.length_replicate]
  omega

/-- A field of fixed width reads back. -/
theorem readDigits?_padded (hwidth : 0 < width) (h : n < 10 ^ width) :
    readDigits? width width (paddedChars width n ++ rest) = some (n, rest) := by
  have hlength := length_paddedChars hwidth h
  rw [readDigits?_append (isDigits_paddedChars width n) hlength.ge hlength.le (.inl hlength),
    digitsValue_paddedChars]

/-- Digits do not start with a blank, nor does what follows them. -/
theorem trimStart_digits {cs : List Char} (h : IsDigits cs) (hne : cs ≠ []) :
    Text.trimStart (cs ++ rest) = cs ++ rest := by
  obtain ⟨c, cs, rfl⟩ := List.exists_cons_of_ne_nil hne
  exact Text.trimStart_cons_of_not_blank (isBlank_of_digit (h c List.mem_cons_self))

/-- Padded digits are not empty. -/
theorem paddedChars_ne_nil (width n : Nat) : paddedChars width n ≠ [] :=
  List.append_ne_nil_of_right_ne_nil _ (digitChars_ne_nil n)

/-- A field of two digits is read loosely, too. -/
theorem readField?_padded (h : n < 100) :
    readField? (paddedChars 2 n ++ rest) = some (n, rest) := by
  have hlength : (paddedChars 2 n).length = 2 := length_paddedChars (by decide) h
  rw [readField?, trimStart_digits (isDigits_paddedChars 2 n) (paddedChars_ne_nil 2 n),
    readDigits?_append (isDigits_paddedChars 2 n) (by omega) (by omega) (.inl hlength),
    digitsValue_paddedChars]

/-- A mark is read. -/
@[simp] theorem readMark?_cons (mark : Char) (rest : List Char) :
    readMark? mark (mark :: rest) = some rest := by
  simp [readMark?]

/-- A year of four digits. -/
theorem yearChars_of_four {year : Int} (h : 0 ≤ year ∧ year ≤ 9999) :
    yearChars year = paddedChars 4 year.natAbs := by
  rw [yearChars, if_pos (by simpa using h), show year.toNat = year.natAbs by omega]

/-- Any other year has a sign. -/
theorem yearChars_of_sign {year : Int} (h : ¬ (0 ≤ year ∧ year ≤ 9999)) :
    yearChars year = (if year < 0 then '-' else '+') :: paddedChars 4 year.natAbs := by
  rw [yearChars, if_neg (by simpa using h)]

/-- A year of four digits is read loosely. -/
theorem readYear?_padded (h : n < 10 ^ 4) :
    readYear? (paddedChars 4 n ++ rest) = some ((n : Int), rest) := by
  have hdigits := isDigits_paddedChars 4 n
  have hlength : (paddedChars 4 n).length = 4 := length_paddedChars (by decide) h
  have hread : readDigits? 1 4 (paddedChars 4 n ++ rest) = some (n, rest) := by
    rw [readDigits?_append hdigits (by omega) (by omega) (.inl hlength), digitsValue_paddedChars]
  unfold readYear?
  rw [trimStart_digits hdigits (paddedChars_ne_nil 4 n)]
  obtain ⟨c, cs, hcs⟩ := List.exists_cons_of_ne_nil (paddedChars_ne_nil 4 n)
  rw [hcs] at hdigits hread ⊢
  have hc := hdigits c List.mem_cons_self
  -- a digit is neither of the two signs
  split
  · next heq =>
    cases heq
    exact absurd hc (by decide)
  · next heq =>
    cases heq
    exact absurd hc (by decide)
  · rw [hread]
    rfl

/-- A year is read loosely, also with a sign. -/
theorem readYear?_yearChars (year : Int) (rest : List Char) :
    readYear? (yearChars year ++ '-' :: rest) = some (year, '-' :: rest) := by
  by_cases hyear : 0 ≤ year ∧ year ≤ 9999
  · rw [yearChars_of_four hyear, readYear?_padded (by omega)]
    congr 2
    omega
  · -- after a sign as many digits are read as there are
    have hpos := List.length_pos_iff.2 (paddedChars_ne_nil 4 year.natAbs)
    have hread : readDigits? 1 (paddedChars 4 year.natAbs ++ '-' :: rest).length
        (paddedChars 4 year.natAbs ++ '-' :: rest) = some (year.natAbs, '-' :: rest) := by
      rw [readDigits?_append (isDigits_paddedChars 4 _) hpos
        (by rw [List.length_append]; omega) (.inr (ends_cons.2 (by decide))),
        digitsValue_paddedChars]
    rw [yearChars_of_sign hyear]
    split
    · show (readDigits? 1 (_ ++ '-' :: rest).length (_ ++ '-' :: rest)).map _ = _
      rw [hread]
      show some (-(year.natAbs : Int), '-' :: rest) = _
      rw [show -(year.natAbs : Int) = year by omega]
    · show (readDigits? 1 (_ ++ '-' :: rest).length (_ ++ '-' :: rest)).map _ = _
      rw [hread]
      show some ((year.natAbs : Int), '-' :: rest) = _
      rw [show (year.natAbs : Int) = year by omega]

/-- A fraction of any fixed count of digits reads back. -/
theorem readFraction?_padded {nanos : Nat} (hwidth : 0 < width) (hmost : width ≤ 9)
    (h : n < 10 ^ width) (hnanos : n * 10 ^ (9 - width) = nanos) (hends : Ends rest) :
    readFraction? ('.' :: paddedChars width n ++ rest) = some (nanos, rest) := by
  have hlength := length_paddedChars hwidth h
  have hdrop : rest.dropWhile isDigit = rest := by
    cases rest with
    | nil => rfl
    | cons c rest => simp [ends_cons.1 hends]
  have hread : readDigits? 1 9 (paddedChars width n ++ rest) = some (n, rest) := by
    rw [readDigits?_append (isDigits_paddedChars width n) (by omega) (by omega) (.inr hends),
      digitsValue_paddedChars]
  rw [List.cons_append, readFraction?, hread]
  show some (n * 10 ^ (9 - ((paddedChars width n ++ rest).length - rest.length)),
    rest.dropWhile isDigit) = _
  rw [hdrop, List.length_append, hlength, Nat.add_sub_cancel, hnanos]

/-- The fraction of a second reads back. -/
theorem readFraction?_fractionChars (h : n < secondNanos) (hends : Ends rest)
    (hpoint : rest.head? ≠ some '.') :
    readFraction? (fractionChars n ++ rest) = some (n, rest) := by
  have hnanos : n < 1000000000 := h
  unfold fractionChars
  simp only [beq_iff_eq]
  -- milliseconds, microseconds and nanoseconds have three, six and nine digits
  split
  · next hzero =>
    rw [hzero, List.nil_append]
    unfold readFraction?
    split
    · exact absurd rfl hpoint
    · rfl
  · split
    · exact readFraction?_padded (by decide) (by decide) (by omega) (by omega) hends
    · split
      · exact readFraction?_padded (by decide) (by decide) (by omega) (by omega) hends
      · exact readFraction?_padded (by decide) (by decide) (by omega) (by omega) hends

/-! ## Characters -/

/-- Padded digits are not blank. -/
theorem not_blank_paddedChars (width n : Nat) :
    ∀ c ∈ paddedChars width n, Text.isBlank c = false :=
  fun c hc => isBlank_of_digit (isDigits_paddedChars width n c hc)

/-- A year has no blanks. -/
theorem not_blank_yearChars (year : Int) : ∀ c ∈ yearChars year, Text.isBlank c = false := by
  unfold yearChars
  split
  · exact not_blank_paddedChars _ _
  · refine List.forall_mem_cons.2 ⟨?_, not_blank_paddedChars _ _⟩
    split <;> decide

/-- The fraction of a second has no blanks. -/
theorem not_blank_fractionChars (nanos : Nat) :
    ∀ c ∈ fractionChars nanos, Text.isBlank c = false := by
  have hpoint : Text.isBlank '.' = false := by decide
  unfold fractionChars
  repeat' split
  · exact fun _ hc => nomatch hc
  · exact List.forall_mem_cons.2 ⟨hpoint, not_blank_paddedChars _ _⟩
  · exact List.forall_mem_cons.2 ⟨hpoint, not_blank_paddedChars _ _⟩
  · exact List.forall_mem_cons.2 ⟨hpoint, not_blank_paddedChars _ _⟩

/-- An offset has no blanks. -/
theorem not_blank_offsetChars (offset : Int) :
    ∀ c ∈ offsetChars offset, Text.isBlank c = false := by
  unfold offsetChars
  refine List.forall_mem_append.2 ⟨List.forall_mem_cons.2 ⟨?_, not_blank_paddedChars _ _⟩,
    List.forall_mem_cons.2 ⟨by decide, not_blank_paddedChars _ _⟩⟩
  split <;> decide

/-! ## Offsets -/

/-- An offset rounded to the nearest minute. -/
def roundedOffset (offset : Int) : Int :=
  let minutes : Nat := (offset.natAbs + 30) / 60
  if offset < 0 then -(minutes * 60 : Int) else minutes * 60

/-- An offset is rounded to itself if it is a whole number of minutes. -/
theorem roundedOffset_eq_iff (offset : Int) :
    roundedOffset offset = offset ↔ offset % 60 = 0 := by
  unfold roundedOffset
  dsimp only
  split <;> omega

/-- An offset is written with a sign. -/
theorem ends_offsetChars (offset : Int) : Ends (offsetChars offset) ∧
    (offsetChars offset).head? ≠ some '.' ∧ offsetChars offset ≠ [] := by
  unfold offsetChars
  dsimp only
  split <;> exact ⟨ends_cons.2 (by decide), by simp, List.cons_ne_nil _ _⟩

/-- Hours and minutes of two digits read back. -/
theorem readAfterSign?_padded (sign : Int) {hours minutes : Nat} (hhours : hours < 100)
    (hminutes : minutes ≤ 59) :
    readAfterSign? sign (paddedChars 2 hours ++ ':' :: paddedChars 2 minutes) =
      if isOffset (sign * (hours * 3600 + minutes * 60)) then
        some (sign * (hours * 3600 + minutes * 60)) else none := by
  have hfirst : readDigits? 2 2 (paddedChars 2 hours ++ ':' :: paddedChars 2 minutes) =
      some (hours, ':' :: paddedChars 2 minutes) :=
    readDigits?_padded (by decide) (by omega)
  have hsecond : readDigits? 2 2 (paddedChars 2 minutes) = some (minutes, []) := by
    have := @readDigits?_padded minutes 2 [] (by decide) (by omega)
    rwa [List.append_nil] at this
  simp [readAfterSign?, hfirst, hsecond, hminutes]

/-- What stands after a plus sign. -/
theorem readStrictOffset?_plus (cs : List Char) :
    readStrictOffset? ('+' :: cs) = readAfterSign? 1 cs :=
  rfl

/-- What stands after a minus sign. -/
theorem readStrictOffset?_minus (cs : List Char) :
    readStrictOffset? ('-' :: cs) = readAfterSign? (-1) cs :=
  rfl

/-- **An offset is read as it was rounded, if that is still an offset.** -/
theorem readStrictOffset?_offsetChars {offset : Int} (h : isOffset offset = true) :
    readStrictOffset? (offsetChars offset) =
      if isOffset (roundedOffset offset) then some (roundedOffset offset) else none := by
  rw [isOffset, Bool.and_eq_true, decide_eq_true_iff, decide_eq_true_iff, daySeconds] at h
  unfold offsetChars roundedOffset
  dsimp only
  have hminutes : (offset.natAbs + 30) / 60 ≤ 1440 := by omega
  generalize (offset.natAbs + 30) / 60 = minutes at hminutes
  have hsplit : ((minutes / 60 : Nat) : Int) * 3600 + (minutes % 60 : Nat) * 60 = minutes * 60 := by
    omega
  split
  · rw [List.cons_append, readStrictOffset?_minus, readAfterSign?_padded _ (by omega) (by omega),
      hsplit, Int.neg_one_mul]
  · rw [List.cons_append, readStrictOffset?_plus, readAfterSign?_padded _ (by omega) (by omega),
      hsplit, Int.one_mul]

/-! ## Clocks and calendars -/

namespace Fields

/-- The time and the offset of a written moment. -/
def clockChars (f : Fields) (offset : Int) : List Char :=
  paddedChars 2 f.hour ++ ':' :: (paddedChars 2 f.minute ++ ':' :: (paddedChars 2 f.second ++
    (fractionChars f.nanos ++ offsetChars offset)))

/-- The fields of a clock and calendar as a written moment. -/
def chars (f : Fields) (offset : Int) : List Char :=
  yearChars f.date.year ++ '-' :: (paddedChars 2 f.date.month ++ '-' :: (paddedChars 2 f.date.day ++
    'T' :: f.clockChars offset))

/-- The fields that a written moment has room for. -/
structure Fits (f : Fields) : Prop where
  /-- The month has at most two digits. -/
  month : f.date.month < 100
  /-- The day has at most two digits. -/
  day : f.date.day < 100
  /-- The hour has at most two digits. -/
  hour : f.hour < 100
  /-- The minute has at most two digits. -/
  minute : f.minute < 100
  /-- The second has at most two digits. -/
  second : f.second < 100
  /-- The fraction is less than a second. -/
  nanos : f.nanos < secondNanos

variable {f : Fields}

/-- The strict form reads the fields of a year of four digits. -/
theorem readStrict?_chars (h : f.Fits) (hyear : 0 ≤ f.date.year ∧ f.date.year ≤ 9999)
    (offset : Int) :
    readStrict? (f.chars offset) = (readStrictOffset? (offsetChars offset)).bind f.moment? := by
  obtain ⟨⟨⟨year, month, day⟩, hour, minute, second, nanos⟩, rfl⟩ : ∃ g, g = f := ⟨f, rfl⟩
  obtain ⟨hmonth, hday, hhour, hminute, hsecond, hnanos⟩ := h
  dsimp only at hyear hmonth hday hhour hminute hsecond hnanos
  obtain ⟨hends, hpoint, -⟩ := ends_offsetChars offset
  have htwo : ∀ (n : Nat) (rest : List Char), n < 100 →
      readDigits? 2 2 (paddedChars 2 n ++ rest) = some (n, rest) :=
    fun _ _ hn => readDigits?_padded (by decide) hn
  have hfour : ∀ rest, readDigits? 4 4 (yearChars year ++ rest) = some (year.natAbs, rest) := by
    intro rest
    rw [yearChars_of_four hyear, readDigits?_padded (by decide) (by omega)]
  have hyear' : (year.natAbs : Int) = year := by omega
  unfold readStrict? chars clockChars
  -- each field is handed on before the readers of the rest are looked at
  simp only [↓bind_of_eq_some (hfour _), ↓bind_of_eq_some (readMark?_cons _ _),
    ↓bind_of_eq_some (htwo _ _ hmonth), ↓bind_of_eq_some (htwo _ _ hday),
    ↓bind_of_eq_some (htwo _ _ hhour), ↓bind_of_eq_some (htwo _ _ hminute),
    ↓bind_of_eq_some (htwo _ _ hsecond), ↓bind_of_eq_some (rfl : some _ = some _),
    ↓bind_of_eq_some (readFraction?_fractionChars hnanos hends hpoint), beq_self_eq_true,
    Bool.true_or, if_true, hyear']
  rfl

/-- The strict form reads no year with a sign. -/
theorem readStrict?_chars_of_sign (hyear : ¬ (0 ≤ f.date.year ∧ f.date.year ≤ 9999))
    (offset : Int) : readStrict? (f.chars offset) = none := by
  have hnone : ∀ rest, readDigits? 4 4 (yearChars f.date.year ++ rest) = none := by
    intro rest
    rw [yearChars_of_sign hyear]
    split <;> rfl
  unfold readStrict? chars
  rw [hnone]
  rfl

/-- The loose form reads no offset. -/
theorem readLoose?_chars (h : f.Fits) (offset : Int) : readLoose? (f.chars offset) = none := by
  obtain ⟨hends, hpoint, hne⟩ := ends_offsetChars offset
  have hempty : (offsetChars offset).isEmpty = false := List.isEmpty_eq_false_iff.2 hne
  unfold readLoose? readCivil? readClock? chars clockChars
  simp only [↓bind_of_eq_some (readYear?_yearChars _ _), ↓bind_of_eq_some (readMark?_cons _ _),
    ↓bind_of_eq_some (readField?_padded h.month), ↓bind_of_eq_some (readField?_padded h.day),
    ↓bind_of_eq_some (readField?_padded h.hour), ↓bind_of_eq_some (readField?_padded h.minute),
    ↓bind_of_eq_some (readField?_padded h.second), ↓bind_of_eq_some (rfl : some _ = some _),
    ↓bind_of_eq_some (readFraction?_fractionChars h.nanos hends hpoint), hempty,
    Bool.false_eq_true, if_false]
  rfl

end Fields

/-! ## Moments -/

namespace Moment

variable {m : Moment}

/-- The moments of the calendar: in its range, with less than two seconds of nanoseconds and an
offset of less than a day. -/
structure Valid (m : Moment) : Prop where
  /-- The calendar reaches the moment. -/
  inRange : inRange m.seconds = true
  /-- A leap second is at most one second long. -/
  nanos : m.nanos < 2 * secondNanos
  /-- The offset is less than a day. -/
  offset : isOffset m.offset = true

/-- The moments that their text tells: the local year has four digits, the offset is a whole number
of minutes, and a leap second repeats the last second of a minute. -/
structure Told (m : Moment) : Prop where
  /-- The local year has four digits. -/
  year : 0 ≤ m.date.year ∧ m.date.year ≤ 9999
  /-- The offset is a whole number of minutes. -/
  offset : m.offset % 60 = 0
  /-- A leap second repeats the last second of a minute. -/
  leap : secondNanos ≤ m.nanos → m.second = 59

/-- What the local clock shows; a leap second is shown as the second after the one it repeats. -/
def shown (m : Moment) : Fields where
  date := m.date
  hour := m.hour
  minute := m.minute
  second := if secondNanos ≤ m.nanos then m.second + 1 else m.second
  nanos := if secondNanos ≤ m.nanos then m.nanos - secondNanos else m.nanos

/-- A moment is written as its local clock shows it. -/
theorem chars_eq (m : Moment) : m.chars = m.shown.chars m.offset := by
  unfold chars Fields.chars Fields.clockChars shown
  dsimp only
  split <;> simp only [List.append_assoc, List.cons_append]

/-- The hour, the minute and the second of a day. -/
theorem clock_bounds (m : Moment) : m.hour < 24 ∧ m.minute < 60 ∧ m.second < 60 ∧
    (m.hour * 3600 + m.minute * 60 + m.second : Int) = m.localSeconds % daySeconds := by
  unfold hour minute second secondOfDay daySeconds
  omega

/-- What the clock of a moment shows fits into its text. -/
theorem fits_shown (h : m.Valid) : m.shown.Fits := by
  obtain ⟨hhour, hminute, hsecond, -⟩ := m.clock_bounds
  obtain ⟨hmonth, hmonth', hday, hday'⟩ := Civil.ofDays_bounds (m.localSeconds / daySeconds)
  have hlength := Civil.daysInMonth_le m.date.year m.date.month
  have hnanos := h.nanos
  refine ⟨?_, ?_, ?_, ?_, ?_, ?_⟩
  · show m.date.month < 100
    exact lt_of_le_of_lt hmonth' (by decide)
  · exact lt_of_le_of_lt (hday'.trans hlength) (by decide)
  · show m.hour < 100
    omega
  · show m.minute < 100
    omega
  · show (if secondNanos ≤ m.nanos then m.second + 1 else m.second) < 100
    split <;> omega
  · show (if secondNanos ≤ m.nanos then m.nanos - secondNanos else m.nanos) < secondNanos
    split <;> omega

/-- The date, hour and minute of a moment together with any second make up a moment. -/
theorem moment?_of_second (hyear : 0 ≤ m.date.year ∧ m.date.year ≤ 9999) {second nanos : Nat}
    (hsecond : second ≤ 60) (offset : Int) :
    (Fields.mk m.date m.hour m.minute second nanos).moment? offset =
      ofLocal? (m.localSeconds - m.second + (min second 59 : Nat))
        (if second == 60 then secondNanos + nanos else nanos) offset := by
  obtain ⟨hhour, hminute, -, hclock⟩ := m.clock_bounds
  have hvalid : m.date.isValid = true :=
    Civil.isValid_ofDays ⟨le_trans (by decide) hyear.1, le_trans hyear.2 (by decide)⟩
  have hdays : m.date.toDays = m.localSeconds / daySeconds := Civil.toDays_ofDays _
  have hseconds : m.date.toDays * daySeconds + m.hour * 3600 + m.minute * 60 +
      (min second 59 : Nat) = m.localSeconds - m.second + (min second 59 : Nat) := by
    unfold daySeconds at hdays hclock ⊢
    omega
  unfold Fields.moment?
  rw [if_pos]
  · show ofLocal? (m.date.toDays * daySeconds + m.hour * 3600 + m.minute * 60 +
      (min second 59 : Nat)) _ offset = _
    rw [hseconds]
  · simp only [hvalid, Bool.true_and, Bool.and_eq_true, decide_eq_true_iff]
    omega

/-- What the local clock shows makes up the moment, if a leap second repeats the last second of a
minute. -/
theorem moment?_shown (hyear : 0 ≤ m.date.year ∧ m.date.year ≤ 9999)
    (hleap : secondNanos ≤ m.nanos → m.second = 59) (offset : Int) :
    m.shown.moment? offset = ofLocal? m.localSeconds m.nanos offset := by
  obtain ⟨-, -, hsecond, -⟩ := m.clock_bounds
  unfold shown
  rw [moment?_of_second hyear (by split <;> omega)]
  by_cases hnanos : secondNanos ≤ m.nanos
  · rw [if_pos hnanos, if_pos hnanos, hleap hnanos, if_pos (by decide),
      Nat.add_sub_cancel' hnanos, show min (59 + 1) 59 = 59 by decide, sub_add_cancel]
  · have hsixty : (m.second == 60) = false := beq_eq_false_iff_ne.2 (by omega)
    rw [if_neg hnanos, if_neg hnanos, hsixty, show min m.second 59 = m.second by omega,
      sub_add_cancel, if_neg (by decide)]

/-- Any other leap second is taken for the second after the one it repeats. -/
theorem moment?_shown_of_ahead (hyear : 0 ≤ m.date.year ∧ m.date.year ≤ 9999)
    (hnanos : secondNanos ≤ m.nanos) (hlast : m.second ≠ 59) (offset : Int) :
    m.shown.moment? offset =
      ofLocal? (m.localSeconds + 1) (m.nanos - secondNanos) offset := by
  obtain ⟨-, -, hsecond, -⟩ := m.clock_bounds
  have hsixty : (m.second + 1 == 60) = false := beq_eq_false_iff_ne.2 (by omega)
  unfold shown
  rw [moment?_of_second hyear (by split <;> omega), if_pos hnanos, if_pos hnanos, hsixty,
    show min (m.second + 1) 59 = m.second + 1 by omega,
    show m.localSeconds - m.second + (m.second + 1 : Nat) = m.localSeconds + 1 by omega,
    if_neg (by decide)]

/-- A written moment has no blanks. -/
theorem not_blank_chars (m : Moment) : ∀ c ∈ m.chars, Text.isBlank c = false := by
  have htwo := not_blank_paddedChars 2
  have hmarks : Text.isBlank '-' = false ∧ Text.isBlank 'T' = false ∧ Text.isBlank ':' = false := by
    decide
  rw [chars_eq]
  simp only [Fields.chars, Fields.clockChars, List.forall_mem_append, List.forall_mem_cons]
  exact ⟨not_blank_yearChars _, hmarks.1, htwo _, hmarks.1, htwo _, hmarks.2.1, htwo _,
    hmarks.2.2, htwo _, hmarks.2.2, htwo _, not_blank_fractionChars _, not_blank_offsetChars _⟩

/-- **A moment that its text tells reads back.** -/
theorem readDateTime?_chars (h : m.Valid) (htold : m.Told) : readDateTime? m.chars = some m := by
  have hoffset := (roundedOffset_eq_iff m.offset).2 htold.offset
  rw [readDateTime?, chars_eq, Fields.readStrict?_chars (fits_shown h) htold.year,
    readStrictOffset?_offsetChars h.offset, hoffset, if_pos h.offset, Option.bind_some,
    moment?_shown htold.year htold.leap]
  unfold ofLocal?
  rw [show m.localSeconds - m.offset = m.seconds by unfold localSeconds; omega, if_pos h.inRange]
  rfl

/-- **Any other moment is read as another point in time, if at all.** -/
theorem told_of_readDateTime? (h : m.Valid) {read : Moment}
    (hread : readDateTime? m.chars = some read) (hsame : read.sameTime m = true) : m.Told := by
  have hfits := fits_shown h
  rw [readDateTime?, chars_eq, Fields.readLoose?_chars hfits, Option.or_none] at hread
  have hyear : 0 ≤ m.date.year ∧ m.date.year ≤ 9999 := by
    by_contra hyear
    rw [Fields.readStrict?_chars_of_sign hyear] at hread
    cases hread
  rw [Fields.readStrict?_chars hfits hyear, readStrictOffset?_offsetChars h.offset] at hread
  rw [sameTime, Bool.and_eq_true, beq_iff_eq, beq_iff_eq] at hsame
  split at hread
  · rw [Option.bind_some] at hread
    -- a leap second is written only as the last one of a minute; elsewhere it is taken for the next
    by_cases hleap : secondNanos ≤ m.nanos → m.second = 59
    · rw [moment?_shown hyear hleap] at hread
      obtain rfl := eq_of_ofLocal? hread
      have hseconds : m.seconds + m.offset - roundedOffset m.offset = m.seconds := hsame.1
      exact ⟨hyear, (roundedOffset_eq_iff _).1 (by omega), hleap⟩
    · obtain ⟨hnanos, hlast⟩ := Classical.not_imp.1 hleap
      rw [moment?_shown_of_ahead hyear hnanos hlast] at hread
      obtain rfl := eq_of_ofLocal? hread
      have hfraction : m.nanos - secondNanos = m.nanos := hsame.2
      have hpos : 0 < secondNanos := by decide
      omega
  · cases hread

end Moment

end SolutionAlgebra.Calendar
