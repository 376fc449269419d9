import Mathlib.Data.List.Basic
import SolutionAlgebra.Octets

/-! # Characters among octets

The octets of a character start with one that is no later octet of any character, and they tell
where they end. So the octets of a text that is not empty occur among those of another text only
where the text itself occurs.

* **`Octets.exists_of_append_utf8_append`** — occurrences of octets are occurrences of texts. -/

namespace SolutionAlgebra.Octets

variable {c d : Char} {cs token : List Char} {xs ys : List UInt8}

/-- The letters of ASCII come after its digits. -/
theorem toNat_bounds_of_isAlpha (h : c.isAlpha = true) : 65 ≤ c.toNat ∧ c.toNat ≤ 122 := by
  obtain hupper | hlower := Bool.or_eq_true_iff.1 h
  · have hbounds : 65 ≤ c.toNat ∧ c.toNat ≤ 90 := of_decide_eq_true hupper
    omega
  · obtain ⟨hfirst, hlast⟩ := Bool.and_eq_true_iff.1 hlower
    have hlow : 97 ≤ c.toNat := of_decide_eq_true hfirst
    exact ⟨by omega, of_decide_eq_true hlast⟩

/-- The code points of the digits. -/
theorem toNat_bounds_of_isDigit (h : c.isDigit = true) : 48 ≤ c.toNat ∧ c.toNat ≤ 57 := by
  obtain ⟨hfirst, hlast⟩ := Bool.and_eq_true_iff.1 h
  exact ⟨of_decide_eq_true hfirst, of_decide_eq_true hlast⟩

/-- The octets of a character tell the character and where they end. -/
theorem utf8EncodeChar_append_inj :
    String.utf8EncodeChar c ++ xs = String.utf8EncodeChar d ++ ys ↔ c = d ∧ xs = ys := by
  constructor
  · intro h
    have hbytes := congrArg (fun octets => octets.toByteArray.utf8DecodeChar? 0) h
    simp only [List.toByteArray_append, ByteArray.utf8DecodeChar?_utf8EncodeChar_append,
      Option.some.injEq] at hbytes
    obtain rfl := hbytes
    exact ⟨rfl, List.append_cancel_left h⟩
  · rintro ⟨rfl, rfl⟩
    rfl

/-- Octets that go on with the octets of a text. -/
theorem exists_of_utf8_eq_append (h : utf8 cs = utf8 token ++ ys) :
    ∃ rest, cs = token ++ rest ∧ ys = utf8 rest := by
  induction token generalizing cs with
  | nil => exact ⟨cs, rfl, h.symm⟩
  | cons c token ih =>
    cases cs with
    | nil =>
      have hlength := congrArg List.length h
      simp [String.length_utf8EncodeChar] at hlength
      have := c.utf8Size_pos
      omega
    | cons d cs =>
      rw [utf8_cons, utf8_cons, List.append_assoc, utf8EncodeChar_append_inj] at h
      obtain ⟨rfl, hcs⟩ := h
      obtain ⟨rest, rfl, hys⟩ := ih hcs
      exact ⟨rest, rfl, hys⟩

/-- A part of the octets of a text that starts with the first octet of some character starts with a
character of the text. -/
theorem exists_of_utf8_eq_append_cons {y : UInt8} (hy : y.IsUTF8FirstByte)
    (h : utf8 cs = xs ++ y :: ys) :
    ∃ before after, cs = before ++ after ∧ xs = utf8 before ∧ y :: ys = utf8 after := by
  induction cs generalizing xs with
  | nil => simp at h
  | cons c cs ih =>
    rw [utf8_cons, List.append_eq_append_iff] at h
    obtain ⟨more, rfl, hcs⟩ | ⟨more, hc, hys⟩ := h
    · obtain ⟨before, after, rfl, rfl, hafter⟩ := ih hcs
      exact ⟨c :: before, after, rfl, rfl, hafter⟩
    · cases more with
      | nil => exact ⟨[c], cs, rfl, by simpa using hc.symm, hys⟩
      | cons z more =>
        -- the octet stands within this character, so it is its first one
        obtain ⟨rfl, rfl⟩ : y = z ∧ ys = more ++ utf8 cs := by simpa using hys
        have hlt : xs.length < (String.utf8EncodeChar c).length := by simp [hc]
        have hget : (String.utf8EncodeChar c)[xs.length] = y := by simp [hc]
        rw [← hget, UInt8.isUTF8FirstByte_getElem_utf8EncodeChar] at hy
        obtain rfl := List.length_eq_zero_iff.1 hy
        exact ⟨[], c :: cs, rfl, rfl, by rw [utf8_cons, hc]; rfl⟩

/-- **The octets of a text occur only where the text occurs**, unless it is empty. -/
theorem exists_of_append_utf8_append (hne : token ≠ []) (h : xs ++ utf8 token ++ ys = utf8 cs) :
    ∃ before after, before ++ token ++ after = cs ∧ utf8 before = xs ∧ utf8 after = ys := by
  obtain ⟨c, token, rfl⟩ := List.exists_cons_of_ne_nil hne
  obtain ⟨first, more, hc⟩ : ∃ first more, String.utf8EncodeChar c = first :: more :=
    List.exists_cons_of_length_pos (by simp [c.utf8Size_pos])
  have hfirst : first.IsUTF8FirstByte := by
    have hzero := UInt8.isUTF8FirstByte_getElem_zero_utf8EncodeChar (c := c)
    simpa only [hc, List.getElem_cons_zero] using hzero
  have hcut : utf8 cs = xs ++ first :: (more ++ utf8 token ++ ys) := by
    rw [← h, utf8_cons, hc]
    simp
  obtain ⟨before, tail, rfl, rfl, htail⟩ := exists_of_utf8_eq_append_cons hfirst hcut
  have htoken : utf8 tail = utf8 (c :: token) ++ ys := by
    rw [← htail, utf8_cons, hc]
    simp
  obtain ⟨after, rfl, rfl⟩ := exists_of_utf8_eq_append htoken
  exact ⟨before, after, by simp, rfl, rfl⟩

end SolutionAlgebra.Octets
