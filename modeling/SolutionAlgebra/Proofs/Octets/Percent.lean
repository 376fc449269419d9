import SolutionAlgebra.Proofs.Builtin.Arguments
import SolutionAlgebra.Proofs.Octets.Characters
import SolutionAlgebra.Proofs.Text.Forms

/-! # Percent encoding read back

An encoded text consists of unreserved characters and of triples, which are a percent sign and two
upper-case hexadecimal digits. The percent sign itself is not unreserved, so that every percent sign
starts a triple, and the octets of the text are read back from its encoded form.

* **`Octets.percentForm`**, **`Octets.percentDecode?`** — the form of encoded texts, and how they
  are read.
* **`Octets.percentDecode?_percentEncode`** — encoded texts read as the octets of the texts.
* **`Builtin.exists_encoded`** — what is answered about any literal. -/

namespace SolutionAlgebra

namespace Octets

/-- The unreserved characters of a URI. -/
def unreserved : List Char :=
  "ABCDEFGHIJKLMNOPQRSTUVWXYZabcdefghijklmnopqrstuvwxyz0123456789-._~".toList

/-- The hexadecimal digits in upper case, by value. -/
def upperHexDigits : List Char := "0123456789ABCDEF".toList

/-- A percent sign and two digits. -/
def tripleForm : RegularExpression Char :=
  Text.word ['%'] * (Text.oneOf upperHexDigits * Text.oneOf upperHexDigits)

/-- The form of an encoded text. -/
def percentForm : RegularExpression Char := (Text.oneOf unreserved + tripleForm).star

/-- The value of an upper-case hexadecimal digit. -/
def upperHexValue? (c : Char) : Option Nat := upperHexDigits.idxOf? c

/-- The octets that an encoded text stands for: those of its unreserved characters, and one for each
triple. Other characters are refused. -/
def percentDecode? : List Char → Option (List UInt8)
  | [] => some []
  | '%' :: high :: low :: cs => do
    let h ← upperHexValue? high
    let l ← upperHexValue? low
    let octets ← percentDecode? cs
    return UInt8.ofNat (16 * h + l) :: octets
  | c :: cs =>
    if c ∈ unreserved then (percentDecode? cs).map (String.utf8EncodeChar c ++ ·) else none

variable {c : Char} {cs piece : List Char}

/-! ## Characters and digits -/

/-- Unreserved characters are one octet long. -/
theorem toNat_lt_of_isUnreserved (h : isUnreserved c = true) : c.toNat < 128 := by
  simp only [isUnreserved, Bool.or_eq_true, beq_iff_eq] at h
  rcases h with (((h | rfl) | rfl) | rfl) | rfl
  · obtain hletter | hdigit := Bool.or_eq_true_iff.1 h
    · have := toNat_bounds_of_isAlpha hletter
      omega
    · have := toNat_bounds_of_isDigit hdigit
      omega
  all_goals decide

/-- The unreserved characters, one by one. -/
theorem isUnreserved_iff : isUnreserved c = true ↔ c ∈ unreserved := by
  have hascii : ∀ n < 128, isUnreserved (Char.ofNat n) = true → Char.ofNat n ∈ unreserved := by
    decide +kernel
  have hlisted : ∀ c ∈ unreserved, isUnreserved c = true := List.all_eq_true.1 (by decide)
  refine ⟨fun h => ?_, hlisted c⟩
  have hlow := toNat_lt_of_isUnreserved h
  rw [← Char.ofNat_toNat c] at h ⊢
  exact hascii c.toNat hlow h

/-- What a number below sixteen is written as is a digit. -/
theorem upperHexDigit_mem : ∀ n < 16, upperHexDigit n ∈ upperHexDigits := by decide

/-- The digit of a number below sixteen is read as the number. -/
theorem upperHexValue?_upperHexDigit : ∀ n < 16, upperHexValue? (upperHexDigit n) = some n := by
  decide

/-- The upper half of an octet. -/
theorem toNat_div_lt (octet : UInt8) : octet.toNat / 16 < 16 := by
  have := octet.toNat_lt
  omega

/-- The lower half of an octet. -/
theorem toNat_mod_lt (octet : UInt8) : octet.toNat % 16 < 16 := Nat.mod_lt _ (by decide)

/-! ## The form -/

/-- An octet is written as a triple. -/
theorem percentOctet_mem (octet : UInt8) : percentOctet octet ∈ tripleForm.matches' := by
  have hhigh : [upperHexDigit (octet.toNat / 16)] ∈ (Text.oneOf upperHexDigits).matches' :=
    Text.mem_oneOf.2 ⟨_, upperHexDigit_mem _ (toNat_div_lt octet), rfl⟩
  have hlow : [upperHexDigit (octet.toNat % 16)] ∈ (Text.oneOf upperHexDigits).matches' :=
    Text.mem_oneOf.2 ⟨_, upperHexDigit_mem _ (toNat_mod_lt octet), rfl⟩
  exact Text.mem_mul.2 ⟨_, Text.mem_word.2 rfl, _, Text.mem_mul.2 ⟨_, hhigh, _, hlow, rfl⟩, rfl⟩

/-- The pieces of an encoded text, each of which is an unreserved character or a triple. -/
def percentPieces (c : Char) : List (List Char) :=
  if isUnreserved c then [[c]] else (String.utf8EncodeChar c).map percentOctet

/-- The pieces of a character make up what it is written as. -/
theorem flatten_percentPieces (c : Char) : (percentPieces c).flatten = percentChar c := by
  unfold percentPieces percentChar
  split
  · exact List.flatten_singleton
  · rw [List.flatMap_def]

/-- Each piece is an unreserved character or a triple. -/
theorem mem_of_mem_percentPieces (h : piece ∈ percentPieces c) :
    piece ∈ (Text.oneOf unreserved + tripleForm).matches' := by
  rw [Text.mem_add]
  unfold percentPieces at h
  split at h
  · next hc =>
    obtain rfl := List.mem_singleton.1 h
    exact .inl (Text.mem_oneOf.2 ⟨c, isUnreserved_iff.1 hc, rfl⟩)
  · obtain ⟨octet, -, rfl⟩ := List.mem_map.1 h
    exact .inr (percentOctet_mem octet)

/-- **An encoded text consists of unreserved characters and triples.** -/
theorem percentEncode_mem (cs : List Char) : percentEncode cs ∈ percentForm.matches' := by
  rw [percentForm, RegularExpression.matches'_star, Language.mem_kstar]
  refine ⟨cs.flatMap percentPieces, ?_, fun piece hpiece => ?_⟩
  · rw [percentEncode, ← List.flatMap_id, List.flatMap_assoc]
    exact List.flatMap_congr fun c _ => by rw [List.flatMap_id, flatten_percentPieces]
  · obtain ⟨c, -, hpiece⟩ := List.mem_flatMap.1 hpiece
    exact mem_of_mem_percentPieces hpiece

/-- A character is left as it is exactly if it is unreserved. -/
theorem percentChar_eq_singleton_iff : percentChar c = [c] ↔ c ∈ unreserved := by
  rw [← isUnreserved_iff]
  refine ⟨fun h => ?_, fun h => if_pos h⟩
  by_contra hc
  -- any other character is written as a triple for each octet, so in three characters or more
  obtain ⟨octet, octets, hoctets⟩ : ∃ octet octets, String.utf8EncodeChar c = octet :: octets :=
    List.exists_cons_of_length_pos (by simp [c.utf8Size_pos])
  rw [percentChar, if_neg hc, hoctets] at h
  cases h

/-! ## Reading -/

/-- The triple of an octet is read as the octet. -/
theorem percentDecode?_percentOctet (octet : UInt8) (cs : List Char) :
    percentDecode? (percentOctet octet ++ cs) = (percentDecode? cs).map (octet :: ·) := by
  have hoctet : UInt8.ofNat (16 * (octet.toNat / 16) + octet.toNat % 16) = octet := by
    rw [Nat.div_add_mod]
    exact UInt8.ofNat_toNat
  show percentDecode? ('%' :: _ :: _ :: cs) = _
  rw [percentDecode?, upperHexValue?_upperHexDigit _ (toNat_div_lt octet),
    upperHexValue?_upperHexDigit _ (toNat_mod_lt octet)]
  dsimp only [bind, Option.bind]
  rw [hoctet]
  cases percentDecode? cs <;> rfl

/-- So are the triples of several. -/
theorem percentDecode?_triples (octets : List UInt8) (cs : List Char) :
    percentDecode? (octets.flatMap percentOctet ++ cs) = (percentDecode? cs).map (octets ++ ·) := by
  induction octets with
  | nil => exact Option.map_id'.symm
  | cons octet octets ih =>
    rw [List.flatMap_cons, List.append_assoc, percentDecode?_percentOctet, ih, Option.map_map]
    rfl

/-- What a character is written as is read as the octets of the character. -/
theorem percentDecode?_percentChar (c : Char) (cs : List Char) :
    percentDecode? (percentChar c ++ cs) =
      (percentDecode? cs).map (String.utf8EncodeChar c ++ ·) := by
  unfold percentChar
  split
  · next hc =>
    have hpercent : c ≠ '%' := by
      rintro rfl
      exact absurd hc (by decide)
    rw [List.singleton_append, percentDecode?, if_pos (isUnreserved_iff.1 hc)]
    exact fun _ _ _ h => absurd h hpercent
  · exact percentDecode?_triples _ cs

/-- **Encoded texts read as the octets of the texts.** -/
theorem percentDecode?_percentEncode (cs : List Char) :
    percentDecode? (percentEncode cs) = some (utf8 cs) := by
  induction cs with
  | nil => rfl
  | cons c cs ih =>
    rw [percentEncode_cons, percentDecode?_percentChar, ih]
    rfl

example : percentDecode? "%E2%82%AC~".toList = some (utf8 "€~".toList) := by decide +kernel

/-- The octets of a text are valid, and read as the text. -/
theorem fromUTF8?_utf8 (s : String) : String.fromUTF8? (utf8 s.toList).toByteArray = some s := by
  have hvalid : (utf8 s.toList).toByteArray.IsValidUTF8 := .intro s.toList rfl
  rw [String.fromUTF8?, dif_pos hvalid]
  exact congrArg some (String.toByteArray_inj.1 String.utf8Encode_toList)

end Octets

namespace Builtin

open Octets

variable (present : Calendar.Moment) (draw : Unit → Nat)

/-- That a text is the encoded form of a literal. -/
structure Encoded (l : Literal) (text : String) : Prop where
  /-- It is computed. -/
  computed : apply present draw .encodeForUri (.ofLiterals [l]) = .ok (plainTerm text)
  /-- It consists of unreserved characters and triples. -/
  form : text.toList ∈ percentForm.matches'
  /-- It has a piece for each character, which is the character itself exactly if that is
  unreserved, and else has the octets of the character. -/
  pieces : ∃ pieces : List (List Char), pieces.flatten = text.toList ∧
    List.Forall₂ (fun c piece => (piece = [c] ↔ c ∈ unreserved) ∧
      percentDecode? piece = some (String.utf8EncodeChar c)) l.chars pieces
  /-- Its octets are those of the literal. -/
  reads : ∃ octets, percentDecode? text.toList = some octets ∧
    String.fromUTF8? octets.toByteArray = some l.lexical
  /-- No other characters have the same encoded form. -/
  unique : ∀ other : Literal,
    apply present draw .encodeForUri (.ofLiterals [other]) = .ok (plainTerm text) →
      other.lexical = l.lexical

/-- `encodeForUri` answers the encoded text as a plain literal. -/
theorem apply_encodeForUri (l : Literal) : apply present draw .encodeForUri (.ofLiterals [l]) =
    .ok (plainTerm (String.ofList (percentEncode l.chars))) := rfl

/-- Literals with the same answer have the same text. -/
theorem eq_of_apply_encodeForUri {l other : Literal}
    (h : apply present draw .encodeForUri (.ofLiterals [other]) =
      .ok (plainTerm (String.ofList (percentEncode l.chars)))) : other.lexical = l.lexical := by
  have htext :
      String.ofList (percentEncode other.chars) = String.ofList (percentEncode l.chars) := by
    simpa [apply_encodeForUri, plainTerm, Literal.plain] using h
  have hencoded := String.ofList_injective htext
  have hoctets : utf8 other.chars = utf8 l.chars := by
    rw [← Option.some_inj, ← percentDecode?_percentEncode, hencoded, percentDecode?_percentEncode]
  have hread := fromUTF8?_utf8 other.lexical
  rw [← Literal.chars, hoctets, Literal.chars, fromUTF8?_utf8] at hread
  exact (Option.some_inj.1 hread).symm

/-- **Encoding a literal is reversible**, whatever its characters are. -/
theorem exists_encoded (l : Literal) : ∃ text, Encoded present draw l text := by
  refine ⟨_, apply_encodeForUri present draw l, ?_, ?_, ?_, fun other =>
    eq_of_apply_encodeForUri present draw⟩
  · rw [String.toList_ofList]
    exact percentEncode_mem l.chars
  · refine ⟨l.chars.map percentChar, ?_, ?_⟩
    · rw [String.toList_ofList, ← List.flatMap_def]
      rfl
    · rw [List.forall₂_map_right_iff, List.forall₂_same]
      intro c _
      have hread := percentDecode?_percentChar c []
      rw [List.append_nil] at hread
      exact ⟨percentChar_eq_singleton_iff, by simpa [percentDecode?] using hread⟩
  · rw [String.toList_ofList]
    exact ⟨_, percentDecode?_percentEncode l.chars, fromUTF8?_utf8 l.lexical⟩

end Builtin

end SolutionAlgebra
