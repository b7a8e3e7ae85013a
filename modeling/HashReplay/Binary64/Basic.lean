/-!
# Binary floating point, 64 bits

The magnitudes that binary floating point can hold are the rationals `m * 2 ^ e` with `m < 2 ^ 53` and
`-1074 ≤ e ≤ 971`.  An operation computes the exact rational result and rounds it to the nearest such
magnitude; of two that are equally near, to the one with even `m`.  Numbers are kept as a sign and a
magnitude, since a negative zero is told from a positive one.

## Main definitions

* `roundEven` — the nearest natural number, a tie to the even one.
* `unitExponent` — the exponent of the unit in which a magnitude is counted.
* `round`, `round?` — the nearest magnitude, without and with the upper limit.
-/

namespace HashReplay.Binary64

/-! ### Rounding to whole numbers -/

/-- The natural number nearest to `x ≥ 0`; of two that are equally near, the even one. -/
def roundEven (x : Rat) : Nat :=
  let n := x.floor.toNat
  let rest := x - n
  if rest < 1 / 2 then n
  else if 1 / 2 < rest then n + 1
  else if n % 2 = 0 then n else n + 1

/-- The natural number nearest to `x ≥ 0`; of two that are equally near, the greater one. -/
def roundHalfUp (x : Rat) : Nat := (x + 1 / 2).floor.toNat

/-! ### Rounding to magnitudes -/

/-- For `x > 0`, the greatest `k` with `2 ^ k ≤ x`. -/
def log2 (x : Rat) : Int :=
  let k : Int := Nat.log2 x.num.toNat - Nat.log2 x.den
  if (2 : Rat) ^ k ≤ x then k else k - 1

/-- The least exponent of a unit. -/
def minExponent : Int := -1074

/-- The exponent of the unit in which a magnitude near `x` is counted, so that the count has 53 binary
digits, or fewer at the lower limit. -/
def unitExponent (x : Rat) : Int :=
  if x = 0 then minExponent else max minExponent (log2 x - 52)

/-- The least count of units that has 53 binary digits. -/
def leastNormal : Nat := 4503599627370496

/-- How many of its units the magnitude nearest to `x ≥ 0` has. -/
def units (x : Rat) : Nat := roundEven (x / (2 : Rat) ^ unitExponent x)

/-- The magnitude nearest to `x ≥ 0` when there is no upper limit. -/
def round (x : Rat) : Rat := (units x : Rat) * (2 : Rat) ^ unitExponent x

/-- The least power of two that is too large to be held. -/
def limit : Rat := (2 : Rat) ^ (1024 : Int)

/-- The magnitude nearest to `x ≥ 0`, unless it is too large to be held. -/
def round? (x : Rat) : Option Rat :=
  let r := round x
  if r < limit then some r else none

/-! ### Numbers -/

/-- A finite number: a sign and a magnitude. -/
structure Number where
  negative : Bool
  magnitude : Rat
  deriving DecidableEq, Repr

end HashReplay.Binary64
