import Mathlib.Data.List.Basic
import SolutionAlgebra.Calendar.Reader
import SolutionAlgebra.Proofs.Decimal.Digits

/-! # The grammar of time zones

A time zone is nothing, `Z`, or a sign and a clock: hours and minutes with a colon between them. The
grammar is the same whatever counts as a clock. A proper clock has two digits for the hours and two
for the minutes. A clock that is read may have any number of digits, and signs of its own, in both;
its minutes may be beyond an hour, and what its seconds exceed 32 bits by is lost.

* **`Zone`** — the time zones, for the clocks `IsClock` and `IsReadClock`.
* **`readOffset?_eq_some_iff`** — what is read are the time zones with a clock that is read.
* **`isClock_iff`**, **`zone_isClock_iff`** — which of these clocks, and so which time zones, are
  proper.
* **`not_zone_of_readOffset?`** — a time zone that is read although its clock is not proper. -/

namespace SolutionAlgebra.Calendar

open Decimal (IsDigits digitsValue)

variable {c mark : Char} {cs hours minutes : List Char} {sign n offset seconds : Int}

/-! ## Signs and counts -/

/-- The signs, each with the factor that it stands for. -/
inductive IsSign : Char → Int → Prop where
  /-- Ahead of universal time. -/
  | plus : IsSign '+' 1
  /-- Behind universal time. -/
  | minus : IsSign '-' (-1)

/-- The counts that are read: any number of digits, after a sign or without one. -/
inductive IsCount : List Char → Int → Prop where
  /-- Digits. -/
  | bare {cs : List Char} (hdigits : IsDigits cs) (hne : cs ≠ []) : IsCount cs (digitsValue cs)
  /-- A sign and digits. -/
  | signed {mark : Char} {sign : Int} {cs : List Char} (hsign : IsSign mark sign)
      (hdigits : IsDigits cs) (hne : cs ≠ []) : IsCount (mark :: cs) (sign * digitsValue cs)

/-- That an integer fits 32 bits. -/
def FitsWord (n : Int) : Prop := -2147483648 ≤ n ∧ n ≤ 2147483647

instance (n : Int) : Decidable (FitsWord n) := inferInstanceAs (Decidable (_ ∧ _))

/-- Digits and nothing else are read as the number that they stand for. -/
theorem readNat?_eq_some_iff {n : Nat} :
    Decimal.readNat? cs = some n ↔ IsDigits cs ∧ cs ≠ [] ∧ digitsValue cs = n := by
  rw [Decimal.readNat?, Option.ite_none_right_eq_some, List.all_eq_true, and_comm (a := cs ≠ []),
    and_assoc, Option.some_inj]
  exact Iff.rfl

/-- Integers are read with a sign or without one. -/
theorem readInt?_eq_some_iff : Decimal.readInt? cs = some n ↔ IsCount cs n := by
  rw [Decimal.readInt?_eq, Option.map_eq_some_iff]
  simp only [readNat?_eq_some_iff]
  constructor
  · rintro ⟨k, ⟨hdigits, hne, rfl⟩, rfl⟩
    generalize hsigned : Decimal.readSign cs = signed at hdigits hne ⊢
    unfold Decimal.readSign at hsigned
    split at hsigned <;> subst hsigned
    · have hcount := IsCount.signed .minus hdigits hne
      rwa [neg_one_mul] at hcount
    · have hcount := IsCount.signed .plus hdigits hne
      rwa [one_mul] at hcount
    · exact .bare hdigits hne
  · rintro (⟨hdigits, hne⟩ | ⟨hsign, hdigits, hne⟩)
    · rw [Decimal.readSign_of_digits hdigits]
      exact ⟨_, ⟨hdigits, hne, rfl⟩, rfl⟩
    · cases hsign with
      | plus => exact ⟨_, ⟨hdigits, hne, rfl⟩, (one_mul _).symm⟩
      | minus => exact ⟨_, ⟨hdigits, hne, rfl⟩, (neg_one_mul _).symm⟩

/-- A count is an integer that fits 32 bits. -/
theorem readCount?_eq_some_iff : readCount? cs = some n ↔ IsCount cs n ∧ FitsWord n := by
  rw [readCount?, Option.filter_eq_some_iff, readInt?_eq_some_iff, FitsWord, Bool.and_eq_true,
    decide_eq_true_iff, decide_eq_true_iff]

/-! ## Time zones -/

/-- The time zones for what counts as a clock, each with its seconds. -/
inductive Zone (Clock : List Char → List Char → Int → Prop) : List Char → Int → Prop where
  /-- Nothing is universal time. -/
  | unstated : Zone Clock [] 0
  /-- The letter of universal time. -/
  | universal : Zone Clock ['Z'] 0
  /-- A sign and a clock. -/
  | shifted {mark : Char} {sign seconds : Int} {hours minutes : List Char}
      (hsign : IsSign mark sign) (hclock : Clock hours minutes seconds) :
      Zone Clock (mark :: (hours ++ ':' :: minutes)) (sign * seconds)

/-- Two digits. -/
def IsPair (cs : List Char) : Prop := IsDigits cs ∧ cs.length = 2

/-- The proper clocks: two digits for the hours and two for the minutes, which are less than 60, and
less than a day in all. -/
inductive IsClock : List Char → List Char → Int → Prop where
  /-- The seconds of the hours and minutes. -/
  | mk {hours minutes : List Char} (hhours : IsPair hours) (hminutes : IsPair minutes)
      (hhour : digitsValue minutes < 60)
      (hday : digitsValue hours * 60 + digitsValue minutes < 24 * 60) :
      IsClock hours minutes (digitsValue hours * 3600 + digitsValue minutes * 60)

/-- The clocks that are read: two counts that fit 32 bits, with seconds of less than a day as 32
bits keep them. -/
inductive IsReadClock : List Char → List Char → Int → Prop where
  /-- The seconds of the hours and minutes. -/
  | mk {hours minutes : List Char} {h m : Int} (hhours : IsCount hours h) (hfits : FitsWord h)
      (hminutes : IsCount minutes m) (hfits' : FitsWord m)
      (hday : isOffset (inWord (h * 3600 + m * 60)) = true) :
      IsReadClock hours minutes (inWord (h * 3600 + m * 60))

/-- The hours of a clock that is read end before the colon. -/
theorem IsCount.colon_not_mem (h : IsCount cs n) : ':' ∉ cs := by
  have hdigits : ∀ {ds : List Char}, IsDigits ds → ':' ∉ ds := fun hds hmem =>
    absurd (hds _ hmem) (by decide)
  cases h with
  | bare hds _ => exact hdigits hds
  | signed hsign hds _ =>
    rw [List.mem_cons, not_or]
    refine ⟨?_, hdigits hds⟩
    cases hsign <;> decide

/-- A clock that is read has its colon after the hours. -/
theorem IsReadClock.colon_not_mem (h : IsReadClock hours minutes seconds) : ':' ∉ hours := by
  cases h with
  | mk hhours _ _ _ _ => exact hhours.colon_not_mem

/-- An offset to the east is one as well as that to the west. -/
theorem IsSign.isOffset_mul (h : IsSign mark sign) : isOffset (sign * n) = isOffset n := by
  rw [Bool.eq_iff_iff]
  simp only [isOffset, Bool.and_eq_true, decide_eq_true_iff]
  cases h <;> omega

/-- What is read after a sign is a clock. -/
theorem readHoursMinutes?_eq_some_iff (hsign : IsSign mark sign) :
    readHoursMinutes? sign cs = some offset ↔
      ∃ hours minutes seconds, IsReadClock hours minutes seconds ∧
        cs = hours ++ ':' :: minutes ∧ offset = sign * seconds := by
  simp only [readHoursMinutes?, Option.bind_eq_bind, Option.bind_eq_some_iff, Prod.exists,
    Text.cutAt?_eq_some_iff, readCount?_eq_some_iff, Option.ite_none_right_eq_some,
    Option.some_inj, hsign.isOffset_mul]
  constructor
  · rintro ⟨hours, minutes, ⟨-, rfl⟩, h, ⟨hhours, hfits⟩, m, ⟨hminutes, hfits'⟩, hday, rfl⟩
    exact ⟨hours, minutes, _, .mk hhours hfits hminutes hfits' hday, rfl, rfl⟩
  · rintro ⟨_, _, _, ⟨hhours, hfits, hminutes, hfits', hday⟩, rfl, rfl⟩
    exact ⟨_, _, ⟨hhours.colon_not_mem, rfl⟩, _, ⟨hhours, hfits⟩, _, ⟨hminutes, hfits'⟩, hday, rfl⟩

/-- **What is read** are the time zones with a clock that is read. -/
theorem readOffset?_eq_some_iff : readOffset? cs = some offset ↔ Zone IsReadClock cs offset := by
  constructor
  · intro h
    -- one case for each form, and the texts that start with none of them
    unfold readOffset? at h
    split at h
    · cases h
      exact .unstated
    · cases h
      exact .universal
    · obtain ⟨_, _, _, hclock, rfl, rfl⟩ := (readHoursMinutes?_eq_some_iff .plus).1 h
      exact .shifted .plus hclock
    · obtain ⟨_, _, _, hclock, rfl, rfl⟩ := (readHoursMinutes?_eq_some_iff .minus).1 h
      exact .shifted .minus hclock
    · cases h
  · rintro (_ | _ | ⟨hsign, hclock⟩)
    · rfl
    · rfl
    · have hread := (readHoursMinutes?_eq_some_iff hsign).2 ⟨_, _, _, hclock, rfl, rfl⟩
      cases hsign <;> exact hread

/-! ## Proper clocks -/

/-- The value of two digits is less than a hundred. -/
theorem IsPair.digitsValue_lt (h : IsPair cs) : digitsValue cs < 100 := by
  obtain ⟨hdigits, hlength⟩ := h
  obtain ⟨a, b, rfl⟩ := List.length_eq_two.1 hlength
  have hle : ∀ c ∈ [a, b], c.toNat - 48 ≤ 9 := by
    intro c hc
    have hdigit := hdigits c hc
    rw [Decimal.isDigit, Bool.and_eq_true, decide_eq_true_iff, decide_eq_true_iff] at hdigit
    have hhigh : c.toNat ≤ 57 := hdigit.2
    omega
  have ha := hle a (by simp)
  have hb := hle b (by simp)
  show 10 * (10 * 0 + (a.toNat - 48)) + (b.toNat - 48) < 100
  omega

/-- Two digits are a count. -/
theorem IsPair.isCount (h : IsPair cs) : IsCount cs (digitsValue cs) :=
  .bare h.1 (List.ne_nil_of_length_pos (by rw [h.2]; decide))

/-- Digits are no other count than the number that they stand for. -/
theorem IsCount.eq_of_isPair (h : IsCount cs n) (hpair : IsPair cs) : n = digitsValue cs := by
  cases h with
  | bare _ _ => rfl
  | signed hsign _ _ =>
    have hdigit := hpair.1 _ List.mem_cons_self
    cases hsign <;> exact absurd hdigit (by decide)

/-- Small integers are kept as they are. -/
theorem inWord_of_lt (hlow : 0 ≤ n) (hhigh : n < 2147483648) : inWord n = n :=
  Int.bmod_eq_of_le (by omega) (by omega)

/-- **The proper clocks** are those of two digits each, and minutes within the hour, among the
clocks that are read. -/
theorem isClock_iff : IsClock hours minutes seconds ↔
    IsReadClock hours minutes seconds ∧
      IsPair hours ∧ IsPair minutes ∧ digitsValue minutes < 60 := by
  have hword : IsPair hours → IsPair minutes →
      inWord (digitsValue hours * 3600 + digitsValue minutes * 60) =
        digitsValue hours * 3600 + digitsValue minutes * 60 := by
    intro hhours hminutes
    have hh := hhours.digitsValue_lt
    have hm := hminutes.digitsValue_lt
    exact inWord_of_lt (by omega) (by omega)
  constructor
  · -- two digits are far from where the seconds wrap around
    rintro ⟨hhours, hminutes, hhour, hday⟩
    have hh := hhours.digitsValue_lt
    refine ⟨?_, hhours, hminutes, hhour⟩
    rw [← hword hhours hminutes]
    refine .mk hhours.isCount ⟨by omega, by omega⟩ hminutes.isCount ⟨by omega, by omega⟩ ?_
    rw [hword hhours hminutes, isOffset, daySeconds, Bool.and_eq_true, decide_eq_true_iff,
      decide_eq_true_iff]
    omega
  · rintro ⟨⟨hh, -, hm, -, hday⟩, hhours, hminutes, hhour⟩
    obtain rfl := hh.eq_of_isPair hhours
    obtain rfl := hm.eq_of_isPair hminutes
    rw [hword hhours hminutes] at hday ⊢
    rw [isOffset, daySeconds, Bool.and_eq_true, decide_eq_true_iff, decide_eq_true_iff] at hday
    exact .mk hhours hminutes hhour (by omega)

/-- That the first colon after a sign stands between two digits and two digits, and that the
minutes are within the hour. -/
def IsPaired (cs : List Char) : Prop :=
  ∀ mark hours minutes, cs = mark :: (hours ++ ':' :: minutes) → ':' ∉ hours →
    IsPair hours ∧ IsPair minutes ∧ digitsValue minutes < 60

/-- **The time zones with a proper clock** are those among the ones that are read whose digits stand
in pairs. -/
theorem zone_isClock_iff :
    Zone IsClock cs offset ↔ Zone IsReadClock cs offset ∧ IsPaired cs := by
  constructor
  · rintro (_ | _ | ⟨hsign, hclock⟩)
    · exact ⟨.unstated, fun _ _ _ hcs => nomatch hcs⟩
    · refine ⟨.universal, fun _ hours minutes hcs => ?_⟩
      cases hours <;> cases hcs
    · obtain ⟨hread, hhours, hpaired⟩ := isClock_iff.1 hclock
      refine ⟨.shifted hsign hread, fun mark' hours' minutes' hcs hcolon => ?_⟩
      have hcut := Text.cutAt?_append hcolon minutes'
      rw [← (List.cons.inj hcs).2, Text.cutAt?_append hread.colon_not_mem] at hcut
      obtain ⟨rfl, rfl⟩ := Prod.mk.inj (Option.some.inj hcut)
      exact ⟨hhours, hpaired⟩
  · rintro ⟨_ | _ | ⟨hsign, hclock⟩, hpaired⟩
    · exact .unstated
    · exact .universal
    · have hpairs := hpaired _ _ _ rfl hclock.colon_not_mem
      exact .shifted hsign (isClock_iff.2 ⟨hclock, hpairs⟩)

/-- Half an hour behind universal time is read from a clock of minus one hour and 30 minutes after a
plus sign. -/
theorem not_zone_of_readOffset? :
    ¬ ∀ (hours minutes : List Char) (h m offset : Int),
      IsCount hours h → FitsWord h → IsCount minutes m → FitsWord m →
        (readOffset? ('+' :: (hours ++ ':' :: minutes)) = some offset ↔
          Zone IsClock ('+' :: (hours ++ ':' :: minutes)) offset) := by
  intro hall
  have hhours : IsCount ['-', '1'] (-1) := .signed .minus (by decide +kernel) (by decide)
  have hminutes : IsCount ['3', '0'] 30 := .bare (by decide +kernel) (by decide)
  have hread : readOffset? ('+' :: (['-', '1'] ++ ':' :: ['3', '0'])) = some (-1800) := by
    decide +kernel
  have hzone := (hall _ _ _ _ _ hhours (by decide) hminutes (by decide)).1 hread
  generalize hcs : '+' :: (['-', '1'] ++ ':' :: ['3', '0']) = cs at hzone
  generalize (-1800 : Int) = offset at hzone
  cases hzone with
  | unstated => cases hcs
  | universal => cases hcs
  | @shifted _ _ _ hours minutes _ hclock =>
    -- the hours of a proper clock end at the only colon there is
    have hproper := (isClock_iff.1 hclock).2.1
    have hcut := Text.cutAt?_append (isClock_iff.1 hclock).1.colon_not_mem minutes
    rw [← (List.cons.inj hcs).2] at hcut
    obtain ⟨rfl, -⟩ := Prod.mk.inj (Option.some.inj hcut)
    exact absurd hproper.1 (by decide +kernel)

end SolutionAlgebra.Calendar
