import HashReplay.Binary64.Basic

/-!
# The shortest decimal of a magnitude

A decimal stands for a magnitude if rounding the decimal gives the magnitude back.  For one digit, then
two, and so on, the two decimals of so many digits that enclose the magnitude are tried; the first
number of digits for which one of them stands for it gives the shortest decimal.  If both do, the
nearer one is taken; what happens to two that are equally near is a choice of the layout.  Seventeen
digits are always enough.

## Main definitions

* `Decimal` — a whole number times a power of ten.
* `Tie` — which of two equally near decimals is taken.
* `shortest` — the shortest decimal of a magnitude.
-/

namespace HashReplay.Binary64

/-- A whole number times a power of ten. -/
structure Decimal where
  digits : Nat
  exponent : Int
  deriving DecidableEq, Repr

/-- The value of a decimal. -/
def Decimal.value (d : Decimal) : Rat := (d.digits : Rat) * (10 : Rat) ^ d.exponent

/-- Which of two equally near decimals is taken. -/
inductive Tie where
  /-- The one with the even last digit. -/
  | toEven
  /-- The greater one. -/
  | toGreater
  deriving DecidableEq, Repr

/-- For `x > 0`, the greatest `k` with `10 ^ k ≤ x`. -/
def log10 (x : Rat) : Int :=
  if 1 ≤ x then ((Nat.toDigits 10 x.floor.toNat).length : Int) - 1
  else
    let c := (x.den + x.num.toNat - 1) / x.num.toNat
    let n := (Nat.toDigits 10 c).length
    if c = Nat.pow 10 (n - 1) then -((n : Int) - 1) else -(n : Int)

/-- Whether rounding `y ≥ 0` gives the magnitude `x > 0` back: `y` is nearer to `x` than to its
neighbours, or half way to one of them while `x` has an even number of units.  Below a power of two
the neighbour is only half as far. -/
def standsFor (x y : Rat) : Bool :=
  let e := unitExponent x
  let unit := (2 : Rat) ^ e
  let m := units x
  let below := if m = leastNormal ∧ minExponent < e then unit / 4 else unit / 2
  let lower := x - below
  let upper := x + unit / 2
  if m % 2 = 0 then decide (lower ≤ y) && decide (y ≤ upper)
  else decide (lower < y) && decide (y < upper)

/-- The better of the two decimals of `n` digits that enclose `x`, if one of them stands for `x`;
`k` is the decimal exponent of `x`. -/
def candidate (tie : Tie) (x : Rat) (k : Int) (n : Nat) : Option Decimal :=
  let e := k - n + 1
  let grid := (10 : Rat) ^ e
  let c := (x / grid).floor.toNat
  let low : Decimal := ⟨c, e⟩
  let high : Decimal := ⟨c + 1, e⟩
  match standsFor x low.value, standsFor x high.value with
  | false, false => none
  | true, false => some low
  | false, true => some high
  | true, true =>
    let toLow := x - low.value
    let toHigh := high.value - x
    if toLow < toHigh then some low
    else if toHigh < toLow then some high
    else if tie = .toEven ∧ c % 2 = 0 then some low else some high

/-- A decimal without trailing zeros; zero itself is left alone. -/
def Decimal.trim (d : Decimal) : Decimal :=
  if d.digits ≠ 0 ∧ d.digits % 10 = 0 then Decimal.trim ⟨d.digits / 10, d.exponent + 1⟩ else d
termination_by d.digits
decreasing_by omega

/-- The shortest decimal of a magnitude. -/
def shortest (tie : Tie) (x : Rat) : Decimal :=
  if x = 0 then ⟨0, 0⟩
  else
    let k := log10 x
    (((List.range 17).findSome? fun n => candidate tie x k (n + 1)).getD ⟨0, 0⟩).trim

end HashReplay.Binary64
