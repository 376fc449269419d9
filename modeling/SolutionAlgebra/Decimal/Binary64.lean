/-! # Binary floating-point numbers as dyadic fractions

A finite `Float` is a sign and a magnitude `mantissa * 2 ^ exponent`. Everything that has to be
exact, such as rounding to whole numbers or choosing digits, is computed on this form in integer
arithmetic. -/

namespace SolutionAlgebra.Decimal

/-- The magnitude of a finite floating-point number: `mantissa * 2 ^ exponent`. -/
structure Dyadic where
  /-- The integer factor, below `2 ^ 53`. -/
  mantissa : Nat
  /-- The exponent of two, at least `-1074`. -/
  exponent : Int
deriving DecidableEq, Repr

/-- The sign bit of a number; it is set for negative zero. -/
def isNegative (x : Float) : Bool := x.toBits.toNat / Nat.pow 2 63 == 1

/-- The magnitude of a finite number. -/
def magnitude (x : Float) : Dyadic :=
  let bits := x.toBits.toNat
  let biased : Nat := bits / Nat.pow 2 52 % 2048
  let fraction : Nat := bits % Nat.pow 2 52
  if biased == 0 then ⟨fraction, -1074⟩ else ⟨fraction + Nat.pow 2 52, (biased : Int) - 1075⟩

/-- A number with the sign of another. -/
def withSign (negative : Bool) (x : Float) : Float := if negative then -x else x

namespace Dyadic

/-- The whole part of a magnitude. -/
def whole (d : Dyadic) : Nat :=
  if 0 ≤ d.exponent then d.mantissa * Nat.pow 2 d.exponent.toNat
  else d.mantissa / Nat.pow 2 (-d.exponent).toNat

/-- The part of a magnitude past the point, as a numerator over `unit`. -/
def remainder (d : Dyadic) : Nat :=
  if 0 ≤ d.exponent then 0 else d.mantissa % Nat.pow 2 (-d.exponent).toNat

/-- The denominator of `remainder`. -/
def unit (d : Dyadic) : Nat :=
  if 0 ≤ d.exponent then 1 else Nat.pow 2 (-d.exponent).toNat

/-- Whole part and remainder make up the magnitude. -/
theorem whole_mul_unit_add_remainder (d : Dyadic) (h : d.exponent < 0) :
    d.whole * d.unit + d.remainder = d.mantissa := by
  have h' : ¬ 0 ≤ d.exponent := by omega
  simp [whole, unit, remainder, h', Nat.div_add_mod']

end Dyadic

/-- Whether a finite number has no fractional part. -/
def isWhole (x : Float) : Bool := (magnitude x).remainder == 0

/-- The number moved to a whole number next to it: its magnitude is cut off and, where `bump` says
so of the sign, the remainder and the unit, raised by one. Numbers without a fraction, infinities
and the undefined number stay, and so does the sign. -/
def roundWith (bump : Bool → Nat → Nat → Bool) (x : Float) : Float :=
  if x.isNaN || x.isInf || isWhole x then x
  else
    let d := magnitude x
    let negative := isNegative x
    withSign negative
      (Float.ofNat (if bump negative d.remainder d.unit then d.whole + 1 else d.whole))

/-- The greatest whole number that is not above. -/
def floor (x : Float) : Float := roundWith (fun negative _ _ => negative) x

/-- The least whole number that is not below. -/
def ceil (x : Float) : Float := roundWith (fun negative _ _ => !negative) x

/-- The nearest whole number, as an integer; halves go away from zero. `none` unless the number is
finite. -/
def nearestInt? (x : Float) : Option Int :=
  if x.isNaN || x.isInf then none
  else
    let d := magnitude x
    let n := if d.unit ≤ 2 * d.remainder then d.whole + 1 else d.whole
    some (if isNegative x then -(n : Int) else n)

/-- The number nearest to an integer. -/
def ofInt (n : Int) : Float := withSign (n < 0) (Float.ofNat n.natAbs)

/-! ## Shortest decimal digits

The decimal form of a floating-point number uses the fewest digits that still read back as the same
number, and of those the digits nearest to the number; of two equally near ones, the greater.

The reals that read back as `mantissa * 2 ^ exponent` form an interval around it, whose ends belong
to it if the mantissa is even. For each count of digits the two neighbours of the number on the
decimal grid of that many digits are tried; a coarser grid is tried first. -/

/-- A positive decimal number `digits * 10 ^ exponent`. -/
structure Scaled where
  /-- The digits as a number. -/
  digits : Nat
  /-- The exponent of ten. -/
  exponent : Int
deriving DecidableEq, Repr

/-- The interval of reals that read back as a number, in quarters of its last binary place. -/
structure Interval where
  /-- The lower end. -/
  low : Nat
  /-- The number itself. -/
  value : Nat
  /-- The upper end. -/
  high : Nat
  /-- Whether the ends belong to the interval. -/
  closed : Bool
  /-- The exponent of two of one quarter. -/
  exponent : Int

/-- The interval that reads back as `d`. Below a power of two the numbers lie twice as close. -/
def Dyadic.interval (d : Dyadic) : Interval where
  low := 4 * d.mantissa - (if d.mantissa == Nat.pow 2 52 && d.exponent != -1074 then 1 else 2)
  value := 4 * d.mantissa
  high := 4 * d.mantissa + 2
  closed := d.mantissa % 2 == 0
  exponent := d.exponent - 2

/-- `n * 2 ^ two / 10 ^ ten` as a numerator and a denominator. -/
def ratio (n : Nat) (two ten : Int) : Nat × Nat :=
  (n * Nat.pow 2 two.toNat * Nat.pow 10 (-ten).toNat,
    Nat.pow 2 (-two).toNat * Nat.pow 10 ten.toNat)

namespace Interval

/-- Whether a point of the grid of step `10 ^ ten` lies in the interval. -/
def holds (i : Interval) (ten : Int) (point : Nat) : Bool :=
  let (low, unit) := ratio i.low i.exponent ten
  let (high, _) := ratio i.high i.exponent ten
  if i.closed then low ≤ point * unit && point * unit ≤ high
  else low < point * unit && point * unit < high

/-- The neighbour of the value on the grid of step `10 ^ ten` that reads back, the nearer of two. -/
def pointOn? (i : Interval) (ten : Int) : Option Nat :=
  let (value, unit) := ratio i.value i.exponent ten
  let below := value / unit
  match i.holds ten below && below != 0, i.holds ten (below + 1) with
  | true, true => some (if 2 * (value % unit) < unit then below else below + 1)
  | true, false => some below
  | false, true => some (below + 1)
  | false, false => none

end Interval

/-- The number of decimal digits of a positive number. -/
def digitCount (n : Nat) : Nat := (Nat.toDigits 10 n).length

/-- The least `k` such that the magnitude lies below `10 ^ k`, for a positive magnitude. -/
def Dyadic.decimalExponent (d : Dyadic) : Int :=
  if d.unit ≤ d.mantissa then digitCount d.whole
  else
    let (scaled, unit) := ratio d.mantissa d.exponent (-400)
    (digitCount (scaled / unit) : Int) - 400

/-- The grid point `10 * 10 ^ k` written as `1 * 10 ^ (k + 1)`; other points as they are. A number
just below a power of ten has that power as its upper neighbour on the coarsest grid. -/
def Scaled.ofPoint (point : Nat) (ten : Int) : Scaled :=
  if point == 10 then ⟨1, ten + 1⟩ else ⟨point, ten⟩

/-- The most digits that a floating-point number ever needs. -/
def maxDigits : Nat := 17

/-- The shortest decimal number that reads back as a positive magnitude. -/
def Dyadic.shortest (d : Dyadic) : Scaled :=
  let i := d.interval
  let top := d.decimalExponent
  let found := (List.range maxDigits).findSome? fun (n : Nat) =>
    let ten := top - ((n : Int) + 1)
    (i.pointOn? ten).map fun point => Scaled.ofPoint point ten
  found.getD ⟨d.mantissa, 0⟩

end SolutionAlgebra.Decimal
