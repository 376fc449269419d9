import SolutionAlgebra.Calendar.Reader

/-! # Offsets that are read

Whatever the form of a date or time, the offset of the moment that is read is less than a day.

* **`isOffset_of_readDateTime?`**, **`isOffset_of_readDate?`**, **`isOffset_of_readTime?`**,
  **`offset_of_readDurationMoment?`** — for each of the forms. -/

namespace SolutionAlgebra.Calendar

variable {m : Moment} {offset : Int} {cs : List Char}

/-! ## Offsets -/

/-- The offset, in seconds, after a sign that is given as a factor. -/
def readAfterSign? (sign : Int) (cs : List Char) : Option Int := do
  let (hours, cs) ← readDigits? 2 2 cs
  let cs ← readMark? ':' cs
  let (minutes, cs) ← readDigits? 2 2 cs
  let offset := sign * (hours * 3600 + minutes * 60)
  if cs.isEmpty && minutes ≤ 59 && isOffset offset then some offset else none

/-- Hours and minutes after a sign make up less than a day. -/
theorem isOffset_of_readAfterSign? {sign : Int} (h : readAfterSign? sign cs = some offset) :
    isOffset offset = true := by
  simp only [readAfterSign?, Option.bind_eq_bind, Option.bind_eq_some_iff, Prod.exists] at h
  obtain ⟨hours, rest, -, rest', -, minutes, rest'', -, h⟩ := h
  split at h
  · next hoffset =>
    cases h
    exact (Bool.and_eq_true_iff.1 hoffset).2
  · cases h

/-- An offset in the strict form is less than a day. -/
theorem isOffset_of_readStrictOffset? (h : readStrictOffset? cs = some offset) :
    isOffset offset = true := by
  unfold readStrictOffset? at h
  split at h
  · cases h
    decide
  · cases h
    decide
  · -- what stands after the sign is read in the same way for either sign
    split at h
    · exact isOffset_of_readAfterSign? h
    · split at h
      · exact isOffset_of_readAfterSign? h
      · cases h
  · cases h

/-- An offset in the loose form is less than a day. -/
theorem isOffset_of_readHoursMinutes? {sign : Int}
    (h : readHoursMinutes? sign cs = some offset) : isOffset offset = true := by
  simp only [readHoursMinutes?, Option.bind_eq_bind, Option.bind_eq_some_iff, Prod.exists] at h
  obtain ⟨hours, minutes, -, n, -, k, -, h⟩ := h
  split at h
  · next hoffset =>
    cases h
    exact hoffset
  · cases h

/-- An offset at the end of a date or time is less than a day. -/
theorem isOffset_of_readOffset? (h : readOffset? cs = some offset) : isOffset offset = true := by
  unfold readOffset? at h
  split at h
  · cases h
    decide
  · cases h
    decide
  · exact isOffset_of_readHoursMinutes? h
  · exact isOffset_of_readHoursMinutes? h
  · cases h

/-! ## Moments -/

/-- A moment made of local seconds. -/
theorem Moment.eq_of_ofLocal? {seconds : Int} {nanos : Nat}
    (h : ofLocal? seconds nanos offset = some m) : m = ⟨seconds - offset, nanos, offset⟩ := by
  unfold ofLocal? at h
  split at h
  · exact (Option.some_inj.1 h).symm
  · cases h

/-- A moment made of fields has the offset of the clock that shows them. -/
theorem offset_of_moment? {f : Fields} (h : f.moment? offset = some m) : m.offset = offset := by
  unfold Fields.moment? at h
  split at h
  · rw [Moment.eq_of_ofLocal? h]
  · cases h

/-- The strict form ends with an offset, which is that of the moment. -/
theorem isOffset_of_readStrict? (h : readStrict? cs = some m) : isOffset m.offset = true := by
  simp only [readStrict?, Option.bind_eq_bind, Option.bind_eq_some_iff] at h
  obtain ⟨year, -, _, -, month, -, _, -, day, -, h⟩ := h
  -- the mark before the time has several forms
  split at h
  · split at h
    · simp only [Option.bind_some, Option.bind_eq_some_iff] at h
      obtain ⟨hour, -, _, -, minute, -, _, -, second, -, nanos, -, offset, hoffset, h⟩ := h
      rw [offset_of_moment? h]
      exact isOffset_of_readStrictOffset? hoffset
    · cases h
  · cases h

/-- A date and time has an offset of less than a day. -/
theorem isOffset_of_readDateTime? (h : readDateTime? cs = some m) : isOffset m.offset = true := by
  obtain hstrict | ⟨-, hloose⟩ := Option.or_eq_some_iff.1 h
  · exact isOffset_of_readStrict? hstrict
  · simp only [readLoose?, Option.bind_eq_bind, Option.bind_eq_some_iff] at hloose
    obtain ⟨_, -, _, -, _, -, hloose⟩ := hloose
    rw [offset_of_moment? hloose]
    decide

/-- A date has an offset of less than a day. -/
theorem isOffset_of_readDate? (h : readDate? cs = some m) : isOffset m.offset = true := by
  simp only [readDate?, Option.bind_eq_bind, Option.bind_eq_some_iff] at h
  obtain ⟨_, -, _, -, h⟩ := h
  split at h
  · obtain ⟨offset, hoffset, h⟩ := Option.bind_eq_some_iff.1 h
    rw [offset_of_moment? h]
    exact isOffset_of_readOffset? hoffset
  · cases h

/-- A time has an offset of less than a day. -/
theorem isOffset_of_readTime? (h : readTime? cs = some m) : isOffset m.offset = true := by
  simp only [readTime?, Option.bind_eq_bind, Option.bind_eq_some_iff] at h
  obtain ⟨_, -, offset, hoffset, h⟩ := h
  rw [offset_of_moment? h]
  exact isOffset_of_readOffset? hoffset

/-- A duration is a moment of universal time. -/
theorem offset_of_readDurationMoment? (h : readDurationMoment? cs = some m) : m.offset = 0 := by
  simp only [readDurationMoment?, Option.bind_eq_bind, Option.bind_eq_some_iff] at h
  obtain ⟨_, -, _, -, h⟩ := h
  unfold Moment.ofMillis? at h
  dsimp only at h
  split at h
  · cases h
    rfl
  · cases h

end SolutionAlgebra.Calendar
