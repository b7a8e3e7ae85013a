import HashReplay.Binary64.Shortest
import HashReplay.Programs.Format.Numeral
import HashReplay.Text.Numeral

/-!
# Notations for fractions

Three ways to write a magnitude with a given number of digits: with so many places after the point; with
one digit before the point and a power of ten; and whichever of these two suits the magnitude.  The
decimal that is written is the nearest one, and of two that are equally near the even one.

## Main definitions

* `fixed`, `scientific`, `general` — the three notations.
-/

namespace HashReplay.Programs.Format

/-- A power of ten. -/
def tenPower (n : Nat) : Rat := Rat.ofInt (Int.ofNat (Nat.pow 10 n))

/-- Digits with a point before the last `places` of them; the point is left out after the last digit
unless `point` is set. -/
def pointed (places : Nat) (point : Bool) (ds : Bytes) : Bytes :=
  let whole := ds.take (ds.length - places)
  if places = 0 && !point then whole else whole ++ '.' :: ds.drop (ds.length - places)

/-- A magnitude with so many places after the point. -/
def fixed (places : Nat) (point : Bool) (x : Rat) : Bytes :=
  let ds := Text.decimal (Binary64.roundEven (x * tenPower places))
  pointed places point (List.replicate (places + 1 - ds.length) '0' ++ ds)

/-- The digits of a magnitude, one more than `places` of them, and the power of ten of the first. -/
def leading (places : Nat) (x : Rat) : Nat × Int :=
  if x = 0 then (0, 0)
  else
    let e := Binary64.log10 x
    let up := Int.ofNat places - e
    let scaled := if 0 ≤ up then x * tenPower up.toNat else x / tenPower (-up).toNat
    let n := Binary64.roundEven scaled
    if n = Nat.pow 10 (places + 1) then (Nat.pow 10 places, e + 1) else (n, e)

/-- The text of a power of ten: a sign and at least two digits. -/
def exponentText (e : Int) : Bytes :=
  let ds := Text.decimal e.natAbs
  ['e', if e < 0 then '-' else '+'] ++ List.replicate (2 - ds.length) '0' ++ ds

/-- The digits of a whole number with zeros in front, so many that there is one more than `places`. -/
def paddedDigits (places n : Nat) : Bytes :=
  let ds := Text.decimal n
  List.replicate (places + 1 - ds.length) '0' ++ ds

/-- A magnitude with one digit before the point, so many places after it, and a power of ten. -/
def scientific (places : Nat) (point : Bool) (x : Rat) : Bytes :=
  let (n, e) := leading places x
  pointed places point (paddedDigits places n) ++ exponentText e

/-- Digits with a point among them, without the zeros at their end. -/
def trimmed (s : Bytes) : Bytes :=
  if s.contains '.' then
    match s.reverse.dropWhile (· == '0') with
    | '.' :: t => t.reverse
    | t => t.reverse
  else s

/-- A magnitude with so many digits in the notation that suits it: with a power of ten if that is below
minus four or not below the number of digits.  Zeros at the end are left out unless `point` is set. -/
def general (digits : Nat) (point : Bool) (x : Rat) : Bytes :=
  let places := digits - 1
  let (n, e) := leading places x
  if e < -4 ∨ Int.ofNat places < e then
    let ds := pointed places point (paddedDigits places n)
    (if point then ds else trimmed ds) ++ exponentText e
  else
    let ds := fixed (Int.ofNat places - e).toNat point x
    if point then ds else trimmed ds

end HashReplay.Programs.Format
