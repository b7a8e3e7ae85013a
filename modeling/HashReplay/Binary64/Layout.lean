import HashReplay.Binary64.Shortest
import HashReplay.Text.Numeral

/-!
# Layouts of decimals

Two ways to write the shortest decimal of a number.  Records use the layout with an exponent for very
large and very small numbers, and always show that the number is no integer; of two equally near
decimals they take the even one.  Messages use the positional layout, which never has an exponent and
shows whole numbers as such; of two equally near decimals it takes the greater magnitude.

## Main definitions

* `recordText` — the layout of records: `1500.0`, `1e+18`, `3e-6`.
* `positionalText` — the layout of messages: `4`, `0.000000001`.
-/

namespace HashReplay.Binary64

open Text (decimal)

/-- The positional layout of a decimal; `whole` is appended if it has no fraction. -/
def positional (whole : List Char) (d : Decimal) : List Char :=
  let ds := decimal d.digits
  let point : Int := ds.length + d.exponent
  if 0 ≤ d.exponent then ds ++ List.replicate d.exponent.toNat '0' ++ whole
  else if 0 < point then ds.take point.toNat ++ '.' :: ds.drop point.toNat
  else ['0', '.'] ++ List.replicate (-point).toNat '0' ++ ds

/-- The layout of a decimal with an exponent, which always has its sign. -/
def scientific (d : Decimal) : List Char :=
  let ds := decimal d.digits
  let exponent : Int := ds.length + d.exponent - 1
  let mantissa :=
    match ds with
    | [] => []
    | [c] => [c]
    | c :: cs => c :: '.' :: cs
  mantissa ++ ['e', if exponent < 0 then '-' else '+'] ++ decimal exponent.natAbs

/-- The layout of records: positional with at least one decimal place from `1e-5` up to below `1e16`,
and for zero; with an exponent elsewhere. -/
def magnitudeText (x : Rat) : List Char :=
  let d := shortest .toEven x
  let point : Int := (decimal d.digits).length + d.exponent
  if x = 0 ∨ (-5 < point ∧ point ≤ 16) then positional ['.', '0'] d else scientific d

/-- A sign in front of a text. -/
def signed (negative : Bool) (s : List Char) : List Char := if negative then '-' :: s else s

/-- A number in the layout of records. -/
def recordText (x : Number) : List Char := signed x.negative (magnitudeText x.magnitude)

/-- A number in the layout of messages. -/
def positionalText (x : Number) : List Char :=
  signed x.negative (positional [] (shortest .toGreater x.magnitude))

end HashReplay.Binary64
