import SolutionAlgebra.Decimal.Notation
import SolutionAlgebra.Proofs.Decimal.Rounding

/-! # Floating-point numbers and their magnitudes

The bits of a floating-point number are its sign, its exponent and its mantissa. A finite number
other than zero is made of its sign and its magnitude, and every sign and canonical magnitude make
up such a number.

* **`ofMagnitude`** — the number of a sign and a magnitude.
* **`Dyadic.Canonical.magnitude_ofMagnitude`**, **`ofMagnitude_magnitude`** — the magnitude of a
  number and the number of a magnitude.
* **`unpack_eq`** — a finite number as the operations take it apart.
* **`eq_zero`**, **`eq_infinity`** — the other numbers. -/

namespace SolutionAlgebra.Decimal

open Float.Model Float.Model.UnpackedFloat

/-! ## Bits -/

/-- The bits of a sign, an exponent and a mantissa. -/
theorem toNat_packComponents (s : Sign) (e : BitVec 11) (m : BitVec 52) :
    (packComponents Format.binary64 s e m).toNat =
      s.toBitVec.toNat * 2 ^ 63 + e.toNat * 2 ^ 52 + m.toNat := by
  unfold packComponents
  rw [BitVec.toNat_append, ← Nat.shiftLeft_add_eq_or_of_lt m.isLt, BitVec.toNat_append,
    ← Nat.shiftLeft_add_eq_or_of_lt e.isLt, Nat.shiftLeft_eq, Nat.shiftLeft_eq]
  ring

/-- The bits of the mantissa. -/
theorem toNat_unpackMantissa (b : BitVec 64) :
    (@unpackMantissa Format.binary64 b).toNat = b.toNat % 2 ^ 52 := by
  unfold unpackMantissa
  rw [BitVec.toNat_cast, BitVec.extractLsb_toNat]
  rfl

/-- The bits of the exponent. -/
theorem toNat_unpackExponent (b : BitVec 64) :
    (@unpackExponent Format.binary64 b).toNat = b.toNat / 2 ^ 52 % 2048 := by
  unfold unpackExponent
  rw [BitVec.toNat_cast, BitVec.extractLsb_toNat, Nat.shiftRight_eq_div_pow]
  rfl

/-- The bit of the sign. -/
theorem toNat_unpackSign (b : BitVec 64) :
    (@unpackSign Format.binary64 b).toNat = b.toNat / 2 ^ 63 := by
  have hb := b.isLt
  unfold unpackSign
  rw [BitVec.toNat_cast, BitVec.extractLsb_toNat, Nat.shiftRight_eq_div_pow]
  show b.toNat / 2 ^ 63 % 2 ^ 1 = _
  omega

/-- The sign that a bit says. -/
def signOf (negative : Bool) : Sign := if negative then .negative else .positive

/-- The sign of a bit vector is the one that its bit says. -/
theorem ofBitVec_eq (b : BitVec 1) : Sign.ofBitVec b = signOf (b.toNat == 1) := by
  obtain rfl | rfl : b = 0#1 ∨ b = 1#1 := by
    have hb := b.isLt
    rw [← BitVec.toNat_inj, ← BitVec.toNat_inj]
    show b.toNat = 0 ∨ b.toNat = 1
    omega
  · rfl
  · rfl

/-- The mantissa of a normal number has a further bit in front. -/
theorem toNat_implicit (m : BitVec 52) : (1#1 ++ m).toNat = m.toNat + 2 ^ 52 := by
  rw [BitVec.toNat_append, ← Nat.shiftLeft_add_eq_or_of_lt m.isLt, Nat.shiftLeft_eq]
  show 1 * 2 ^ 52 + m.toNat = _
  omega

/-! ## Finite numbers -/

/-- That a number is neither infinite nor undefined. -/
structure Finite (x : Float) : Prop where
  /-- It is not undefined. -/
  isNaN : x.isNaN = false
  /-- It is not infinite. -/
  isInf : x.isInf = false

/-- The exponent bits of a number. -/
def biased (x : Float) : Nat := x.toBits.toNat / 2 ^ 52 % 2048

/-- The mantissa bits of a number. -/
def fraction (x : Float) : Nat := x.toBits.toNat % 2 ^ 52

/-- The magnitude by the bits of a number. -/
theorem magnitude_eq (x : Float) : magnitude x =
    if biased x = 0 then ⟨fraction x, -1074⟩
    else ⟨fraction x + 2 ^ 52, (biased x : Int) - 1075⟩ := by
  unfold magnitude biased fraction
  simp only [beq_iff_eq]
  rfl

variable {x y : Float}

/-- Numbers with the same bits are the same. -/
theorem eq_of_bits (hsign : isNegative x = isNegative y) (hbiased : biased x = biased y)
    (hfraction : fraction x = fraction y) : x = y := by
  have hx := x.toBits.toNat_lt
  have hy := y.toBits.toNat_lt
  unfold isNegative at hsign
  unfold biased at hbiased
  unfold fraction at hfraction
  have hsign' : x.toBits.toNat / 2 ^ 63 = y.toBits.toNat / 2 ^ 63 := by
    rw [Bool.eq_iff_iff, beq_iff_eq, beq_iff_eq] at hsign
    change x.toBits.toNat / 2 ^ 63 = 1 ↔ y.toBits.toNat / 2 ^ 63 = 1 at hsign
    omega
  have hbits : x.toBits.toNat = y.toBits.toNat := by omega
  -- a number is nothing but its bits
  obtain ⟨⟨bits, valid⟩⟩ := x
  obtain ⟨⟨bits', valid'⟩⟩ := y
  have : bits = bits' := UInt64.toNat_inj.1 hbits
  subst this
  rfl

/-- Numbers with the same sign and magnitude are the same. -/
theorem eq_of_magnitude (hsign : isNegative x = isNegative y)
    (hmagnitude : magnitude x = magnitude y) : x = y := by
  have hx : fraction x < 2 ^ 52 := Nat.mod_lt _ (by decide)
  have hy : fraction y < 2 ^ 52 := Nat.mod_lt _ (by decide)
  rw [magnitude_eq, magnitude_eq] at hmagnitude
  -- the mantissa tells whether the exponent bits are zero
  refine eq_of_bits hsign ?_ ?_ <;>
    split at hmagnitude <;> split at hmagnitude <;> rw [Dyadic.mk.injEq] at hmagnitude <;> omega

/-- What the operations take a number apart into, by its bits. -/
inductive Unpacks (x : Float) : UnpackedFloat → Prop where
  /-- An infinite number. -/
  | infinity (hbiased : biased x = 2047) (hfraction : fraction x = 0) :
      Unpacks x (.infinity (signOf (isNegative x)))
  /-- The undefined number. -/
  | undefined (hbiased : biased x = 2047) (hfraction : fraction x ≠ 0) : Unpacks x .notANumber
  /-- Zero. -/
  | zero (hbiased : biased x = 0) (hfraction : fraction x = 0) :
      Unpacks x (.zero (signOf (isNegative x)))
  /-- Any other number, with its magnitude. -/
  | finite {m : Nat} {e : Int} {h : 0 < m} (hbiased : biased x ≠ 2047)
      (hmagnitude : magnitude x = ⟨m, e⟩) : Unpacks x (.finite (signOf (isNegative x)) m e h)

/-- The operations take a number apart by its bits. -/
theorem unpacks (x : Float) : Unpacks x x.toModel.unpack := by
  have hmantissa := toNat_unpackMantissa x.toBits.toBitVec
  have hexponent := toNat_unpackExponent x.toBits.toBitVec
  change _ = fraction x at hmantissa
  change _ = biased x at hexponent
  have hsign : Sign.ofBitVec (@unpackSign Format.binary64 x.toBits.toBitVec) =
      signOf (isNegative x) := by
    rw [ofBitVec_eq, toNat_unpackSign]
    rfl
  show Unpacks x (UnpackedFloat.unpack Format.binary64 x.toBits.toBitVec)
  unfold UnpackedFloat.unpack
  dsimp only
  rw [hsign]
  -- the exponent bits that are all set or all clear are those of the special numbers
  by_cases htop : @unpackExponent Format.binary64 x.toBits.toBitVec = -1#11
  · have hbiased : biased x = 2047 := by rw [← hexponent, htop]; rfl
    rw [if_pos htop]
    by_cases hnone : @unpackMantissa Format.binary64 x.toBits.toBitVec = 0#52
    · have hfraction : fraction x = 0 := by rw [← hmantissa, hnone]; rfl
      rw [if_pos hnone]
      exact .infinity hbiased hfraction
    · rw [if_neg hnone]
      refine .undefined hbiased fun hfraction => hnone (BitVec.eq_of_toNat_eq ?_)
      rw [hmantissa, hfraction]
      rfl
  · have hbiased : biased x ≠ 2047 := fun hbiased => htop (BitVec.eq_of_toNat_eq (by
      rw [hexponent, hbiased]
      rfl))
    rw [if_neg htop]
    by_cases hbottom : @unpackExponent Format.binary64 x.toBits.toBitVec = 0#11
    · have hbiased' : biased x = 0 := by rw [← hexponent, hbottom]; rfl
      rw [if_pos hbottom]
      by_cases hnone : @unpackMantissa Format.binary64 x.toBits.toBitVec = 0#52
      · have hfraction : fraction x = 0 := by rw [← hmantissa, hnone]; rfl
        rw [dif_pos hnone]
        exact .zero hbiased' hfraction
      · rw [dif_neg hnone]
        refine .finite hbiased ?_
        rw [magnitude_eq, if_pos hbiased', hmantissa, hexponent, hbiased']
        rfl
    · have hbiased' : biased x ≠ 0 := fun hbiased' => hbottom (BitVec.eq_of_toNat_eq (by
        rw [hexponent, hbiased']
        rfl))
      rw [if_neg hbottom]
      refine .finite hbiased ?_
      rw [magnitude_eq, if_neg hbiased', toNat_implicit, hmantissa, hexponent]
      rfl

/-- The exponent bits of a finite number do not take the greatest value. -/
theorem Finite.biased_ne (h : Finite x) : biased x ≠ 2047 := by
  have hx := unpacks x
  have hundefined := h.isNaN
  have hinfinite := h.isInf
  change x.toModel.unpack.isNaN = false at hundefined
  change x.toModel.unpack.isInf = false at hinfinite
  generalize x.toModel.unpack = u at hx hundefined hinfinite
  cases hx with
  | infinity => cases hinfinite
  | undefined => cases hundefined
  | zero hbiased => omega
  | finite hbiased => exact hbiased

/-- The magnitude of a finite number other than zero is canonical. -/
theorem Finite.canonical (h : Finite x) (hx : (magnitude x).mantissa ≠ 0) :
    (magnitude x).Canonical := by
  have hbiased := h.biased_ne
  have hlt : biased x < 2048 := Nat.mod_lt _ (by decide)
  have hfraction : fraction x < 2 ^ 52 := Nat.mod_lt _ (by decide)
  rw [magnitude_eq] at hx ⊢
  split at hx
  · next hzero =>
    rw [if_pos hzero]
    refine ⟨Nat.pos_of_ne_zero hx, ?_, le_rfl, ?_, .inr rfl⟩
    · show fraction x < _
      omega
    · show (-1074 : Int) ≤ _
      omega
  · next hzero =>
    rw [if_neg hzero]
    refine ⟨?_, ?_, ?_, ?_, .inl ?_⟩ <;> dsimp only <;> omega

/-! ## Numbers of magnitudes -/

/-- The number of a sign and a magnitude. -/
def ofMagnitude (negative : Bool) (d : Dyadic) (h : 0 < d.mantissa) : Float :=
  .ofModel (.pack (.finite (signOf negative) d.mantissa d.exponent h))

namespace Dyadic.Canonical

variable {d : Dyadic}

/-- The bits of the number of a magnitude. -/
theorem toNat_toBits_ofMagnitude (hd : d.Canonical) (negative : Bool) :
    (ofMagnitude negative d hd.pos).toBits.toNat = negative.toNat * 2 ^ 63 +
      (if 2 ^ 52 ≤ d.mantissa then (d.exponent + 1075).toNat else 0) * 2 ^ 52 +
      d.mantissa % 2 ^ 52 := by
  have hsign : (signOf negative).toBitVec.toNat = negative.toNat := by
    cases negative <;> rfl
  have hgreatest := hd.greatest
  have hleast := hd.least
  show (UnpackedFloat.pack Format.binary64 (.finite _ _ _ hd.pos)).toNat = _
  unfold UnpackedFloat.pack
  dsimp only
  have hbias : (d.exponent + (Format.binary64.exponentBias : Int) + (52 : Nat)).toNat =
      (d.exponent + 1075).toNat := by
    show (d.exponent + (1023 : Int) + 52).toNat = _
    omega
  rw [hbias, if_neg (by omega)]
  -- the first bit of a full mantissa is not stored: the exponent bits tell that it is there
  have hlog : d.mantissa.log2 + 1 = Format.binary64.mantissaBits ↔ 2 ^ 52 ≤ d.mantissa := by
    show d.mantissa.log2 + 1 = 53 ↔ _
    have hlt : d.mantissa.log2 < 53 := (Nat.log2_lt hd.pos.ne').2 hd.lt
    rw [← Nat.le_log2 hd.pos.ne']
    omega
  split
  · next hfull =>
    rw [if_pos (hlog.1 hfull), toNat_packComponents, hsign, BitVec.toNat_ofNat, BitVec.toNat_ofNat,
      Nat.mod_eq_of_lt (by omega)]
  · next hfull =>
    rw [if_neg fun h => hfull (hlog.2 h), toNat_packComponents, hsign, BitVec.toNat_ofNat]
    rfl

/-- The exponent bits of a magnitude. -/
theorem biased_lt (hd : d.Canonical) :
    (if 2 ^ 52 ≤ d.mantissa then (d.exponent + 1075).toNat else 0) < 2047 := by
  have hgreatest := hd.greatest
  split <;> omega

/-- The sign of the number of a magnitude. -/
theorem isNegative_ofMagnitude (hd : d.Canonical) (negative : Bool) :
    isNegative (ofMagnitude negative d hd.pos) = negative := by
  have hbiased := hd.biased_lt
  have hbits := hd.toNat_toBits_ofMagnitude negative
  generalize (if 2 ^ 52 ≤ d.mantissa then (d.exponent + 1075).toNat else 0) = k at hbiased hbits
  show (_ / 2 ^ 63 == 1) = negative
  have hsign : (ofMagnitude negative d hd.pos).toBits.toNat / 2 ^ 63 = negative.toNat := by omega
  rw [hsign]
  cases negative <;> rfl

/-- The exponent bits of the number of a magnitude. -/
theorem biased_ofMagnitude (hd : d.Canonical) (negative : Bool) :
    biased (ofMagnitude negative d hd.pos) =
      if 2 ^ 52 ≤ d.mantissa then (d.exponent + 1075).toNat else 0 := by
  have hbiased := hd.biased_lt
  have hbits := hd.toNat_toBits_ofMagnitude negative
  generalize (if 2 ^ 52 ≤ d.mantissa then (d.exponent + 1075).toNat else 0) = k at hbiased hbits ⊢
  have hsign := negative.toNat_le
  show _ / 2 ^ 52 % 2048 = k
  omega

/-- The magnitude of the number of a magnitude. -/
theorem magnitude_ofMagnitude (hd : d.Canonical) (negative : Bool) :
    magnitude (ofMagnitude negative d hd.pos) = d := by
  have hfraction : fraction (ofMagnitude negative d hd.pos) = d.mantissa % 2 ^ 52 := by
    have hbits := hd.toNat_toBits_ofMagnitude negative
    show _ % 2 ^ 52 = _
    omega
  have hleast := hd.least
  have hlt := hd.lt
  have hfull := hd.full
  rw [magnitude_eq, hfraction, hd.biased_ofMagnitude]
  obtain ⟨m, e⟩ := d
  dsimp only at hleast hlt hfull ⊢
  split
  · rw [if_neg (by omega), Dyadic.mk.injEq]
    omega
  · rw [if_pos rfl, Dyadic.mk.injEq]
    omega

/-- The operations take the number of a magnitude apart into its sign and the magnitude. -/
theorem unpack_ofMagnitude (hd : d.Canonical) (negative : Bool) :
    (ofMagnitude negative d hd.pos).toModel.unpack =
      .finite (signOf negative) d.mantissa d.exponent hd.pos := by
  have hbiased := hd.biased_lt
  rw [← hd.biased_ofMagnitude negative] at hbiased
  have hmagnitude := hd.magnitude_ofMagnitude negative
  have hsign := hd.isNegative_ofMagnitude negative
  have h := unpacks (ofMagnitude negative d hd.pos)
  generalize (ofMagnitude negative d hd.pos).toModel.unpack = u at h
  cases h with
  | infinity htop => omega
  | undefined htop => omega
  | zero hbottom hfraction =>
      rw [magnitude_eq, if_pos hbottom, hfraction] at hmagnitude
      exact absurd (congrArg Dyadic.mantissa hmagnitude).symm hd.pos.ne'
  | finite _ hmagnitude' =>
      rw [hmagnitude] at hmagnitude'
      subst hmagnitude'
      rw [hsign]

/-- The negative of the number of a magnitude. -/
theorem neg_ofMagnitude (hd : d.Canonical) (negative : Bool) :
    -ofMagnitude negative d hd.pos = ofMagnitude (!negative) d hd.pos := by
  show Float.ofModel (.pack (ofMagnitude negative d hd.pos).toModel.unpack.neg) = _
  rw [hd.unpack_ofMagnitude]
  cases negative <;> rfl

end Dyadic.Canonical

/-- **A finite number other than zero is the number of its magnitude.** -/
theorem ofMagnitude_magnitude (h : Finite x) (hx : 0 < (magnitude x).mantissa) :
    ofMagnitude (isNegative x) (magnitude x) hx = x :=
  have hd := h.canonical hx.ne'
  eq_of_magnitude (hd.isNegative_ofMagnitude _) (hd.magnitude_ofMagnitude _)

/-! ## Zero, infinity and the undefined number -/

/-- Zero has the sign that is given to it. -/
theorem isNegative_withSign_zero (negative : Bool) :
    isNegative (withSign negative 0) = negative := by
  cases negative <;> rfl

/-- Zero has no mantissa. -/
theorem magnitude_withSign_zero (negative : Bool) :
    magnitude (withSign negative 0) = ⟨0, -1074⟩ := by
  cases negative <;> rfl

/-- A number without mantissa is zero. -/
theorem eq_zero (hx : (magnitude x).mantissa = 0) : x = withSign (isNegative x) 0 := by
  refine eq_of_magnitude (isNegative_withSign_zero _).symm ?_
  rw [magnitude_withSign_zero]
  rw [magnitude_eq] at hx ⊢
  split at hx
  · next hbiased => rw [if_pos hbiased, Dyadic.mk.injEq]; exact ⟨hx, rfl⟩
  · next hbiased => exact absurd hx (Nat.succ_ne_zero _)

/-- Infinity has the sign that is given to it. -/
theorem isNegative_withSign_infinity (negative : Bool) :
    isNegative (withSign negative Decimal.infinity) = negative := by
  cases negative <;> rfl

/-- An infinite number is infinity with its sign. -/
theorem eq_infinity (h : x.isInf = true) : x = withSign (isNegative x) Decimal.infinity := by
  have hx := unpacks x
  change x.toModel.unpack.isInf = true at h
  refine eq_of_magnitude (isNegative_withSign_infinity _).symm ?_
  have hinfinity : magnitude (withSign (isNegative x) Decimal.infinity) = ⟨2 ^ 52, 972⟩ := by
    cases isNegative x <;> rfl
  generalize x.toModel.unpack = u at hx h
  cases hx with
  | infinity hbiased hfraction =>
      rw [hinfinity, magnitude_eq, hbiased, hfraction]
      rfl
  | undefined => cases h
  | zero => cases h
  | finite => cases h

end SolutionAlgebra.Decimal
