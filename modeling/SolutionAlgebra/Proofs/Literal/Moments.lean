import SolutionAlgebra.Literal.Basic
import SolutionAlgebra.Proofs.Calendar.Durations
import SolutionAlgebra.Proofs.Calendar.Zones

/-! # The literals of dates, times and durations

A text is taken under one of these datatypes if the calendar reads it, blanks around it aside, and
every other text is refused as one that the datatype does not have. What ends a date or a time has
to be a time zone, and what is a duration has to be made of parts.

* **`Literal.reads_zones`** — which time zones are read, and the dates and times without one.
* **`Literal.reads_durations`** — which durations are read, and the literals of anything else. -/

namespace SolutionAlgebra

namespace Calendar

variable {cs : List Char}

/-- The end of a time from its time zone on, which starts past the eighth character. -/
def zoneOfTime (cs : List Char) : List Char :=
  (cs.drop 8).dropWhile fun c => !(c == 'Z' || c == '+' || c == '-')

/-- What is not a time zone is not read. -/
theorem readOffset?_eq_none (h : ∀ offset, ¬ Zone IsReadClock cs offset) : readOffset? cs = none :=
  Option.eq_none_iff_forall_ne_some.2 fun offset hread => h offset (readOffset?_eq_some_iff.1 hread)

/-- A date whose time zone is not read is not read. -/
theorem readDate?_eq_none {written rest : List Char}
    (hcut : cutOctets? 10 cs = some (written, rest)) (h : readOffset? rest = none) :
    readDate? cs = none := by
  simp only [readDate?, Option.bind_eq_bind, hcut, Option.bind_some, h, Option.bind_none, ite_self,
    Option.bind_fun_none]

/-- A time whose time zone is not read is not read. -/
theorem readTime?_eq_none (h : readOffset? (zoneOfTime cs) = none) : readTime? cs = none := by
  rw [zoneOfTime] at h
  simp only [readTime?, Option.bind_eq_bind, h, Option.bind_none, Option.bind_fun_none]

/-- What is not a duration is not read. -/
theorem readDurationMoment?_eq_none (h : ¬ IsReadDuration cs) : readDurationMoment? cs = none := by
  rw [← isSome_readDuration?_iff, Option.not_isSome_iff_eq_none] at h
  rw [readDurationMoment?, h]
  rfl

end Calendar

namespace Literal

open Calendar

variable {lexical : String} {datatype : Iri}

/-- A text that the datatype does not read is refused. -/
theorem make_eq_error (h : decode? lexical datatype = none) :
    make lexical (some datatype) none = .error (.literal lexical datatype) := by
  show typed lexical datatype = _
  rw [typed, h]

/-- A text of the datatype of dates. -/
theorem decode?_date (lexical : String) : decode? lexical Vocabulary.date =
    (readDate? (Text.trim lexical.toList)).map .date := rfl

/-- A text of the datatype of times. -/
theorem decode?_time (lexical : String) : decode? lexical Vocabulary.time =
    (readTime? (Text.trim lexical.toList)).map .date := rfl

/-- A text of the datatype of durations. -/
theorem decode?_duration (lexical : String) : decode? lexical Vocabulary.duration =
    (readDurationMoment? (Text.trim lexical.toList)).map .date := rfl

/-! ## Time zones -/

/-- **Time zones.** What is read are the time zones with a clock that is read, and the proper ones
are those among them whose digits stand in pairs. A date is refused if anything else follows its
first ten octets, and a time if anything else ends it. -/
theorem reads_zones (cs : List Char) (offset : Int) :
    (readOffset? cs = some offset ↔ Zone IsReadClock cs offset) ∧
    (Zone IsClock cs offset ↔ Zone IsReadClock cs offset ∧ IsPaired cs) ∧
    ((∀ offset, ¬ Zone IsReadClock cs offset) →
      (∀ (lexical : String) (written : List Char),
        cutOctets? 10 (Text.trim lexical.toList) = some (written, cs) →
          make lexical (some Vocabulary.date) none = .error (.literal lexical Vocabulary.date)) ∧
      (∀ lexical : String, zoneOfTime (Text.trim lexical.toList) = cs →
        make lexical (some Vocabulary.time) none =
          .error (.literal lexical Vocabulary.time))) := by
  refine ⟨readOffset?_eq_some_iff, zone_isClock_iff, fun hzone => ⟨?_, ?_⟩⟩
  · intro lexical written hcut
    refine make_eq_error ?_
    rw [decode?_date, readDate?_eq_none hcut (readOffset?_eq_none hzone), Option.map_none]
  · rintro lexical rfl
    refine make_eq_error ?_
    rw [decode?_time, readTime?_eq_none (readOffset?_eq_none hzone), Option.map_none]

/-- A date and a time whose time zones have no minutes. -/
theorem reads_zones_short :
    (∀ offset, ¬ Zone IsReadClock "+05".toList offset) ∧
      make "2021-03-04+05" (some Vocabulary.date) none =
        .error (.literal "2021-03-04+05" Vocabulary.date) ∧
      make "10:11:12+05" (some Vocabulary.time) none =
        .error (.literal "10:11:12+05" Vocabulary.time) := by
  have hzone : ∀ offset, ¬ Zone IsReadClock "+05".toList offset := by
    intro offset h
    have hread : readOffset? "+05".toList = none := by decide
    exact Option.some_ne_none _ ((readOffset?_eq_some_iff.2 h).symm.trans hread)
  have hcut : cutOctets? 10 (Text.trim "2021-03-04+05".toList) =
      some ("2021-03-04".toList, "+05".toList) := by decide
  have htime : zoneOfTime (Text.trim "10:11:12+05".toList) = "+05".toList := by decide
  obtain ⟨hdate, htime'⟩ := (reads_zones "+05".toList 0).2.2 hzone
  exact ⟨hzone, hdate _ _ hcut, htime' _ htime⟩

/-! ## Durations -/

/-- **Durations.** What is read are the durations of parts in any order, and the proper ones are
those that are read with their units in order and with proper numbers. A literal of anything else
than what is read is refused. -/
theorem reads_durations (cs : List Char) :
    ((readDuration? cs).isSome = true ↔ IsReadDuration cs) ∧
    (IsDuration cs ↔ IsReadDuration cs ∧ IsOrderedDuration cs ∧ IsPreciseDuration cs) ∧
    (¬ IsReadDuration cs → ∀ lexical : String, Text.trim lexical.toList = cs →
      make lexical (some Vocabulary.duration) none =
        .error (.literal lexical Vocabulary.duration)) := by
  refine ⟨isSome_readDuration?_iff, ?_, ?_⟩
  · rw [isDuration_iff]
    exact ⟨fun h => ⟨isReadDuration_of_isOrderedDuration h.1, h⟩, And.right⟩
  · rintro hnot lexical rfl
    refine make_eq_error ?_
    rw [decode?_duration, readDurationMoment?_eq_none hnot, Option.map_none]

/-- An hour without the mark of times is no duration. -/
theorem reads_durations_hour :
    ¬ IsReadDuration "P1H".toList ∧ Text.trim " P1H".toList = "P1H".toList ∧
      make " P1H" (some Vocabulary.duration) none =
        .error (.literal " P1H" Vocabulary.duration) := by
  have hnot : ¬ IsReadDuration "P1H".toList := by
    rw [← isSome_readDuration?_iff]
    decide
  have htrim : Text.trim " P1H".toList = "P1H".toList := by decide
  exact ⟨hnot, htrim, (reads_durations "P1H".toList).2.2 hnot _ htrim⟩

end Literal

end SolutionAlgebra
