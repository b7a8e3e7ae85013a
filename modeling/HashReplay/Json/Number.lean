import HashReplay.Binary64.Layout
import HashReplay.Json.Text

/-!
# JSON numbers

A number is read in two steps.  First its parts are told apart: sign, whole digits, fraction and
exponent.  Then its value is taken: a number without fraction and exponent is an integer if it fits 64
bits, and every other number is floating point.

The value of a floating-point number is computed from its first digits only, as many as fit a 64-bit
word: that integer is rounded, and then multiplied or divided by one rounded power of ten.

## Main definitions

* `Lexeme`, `Lexeme.read` — the parts of a number.
* `Numeral`, `Lexeme.numeral?` — the value of a number.
* `Numeral.toNumber` — any number as floating point.
-/

namespace HashReplay.Json

open Binary64 (Number)

/-! ### The parts of a number -/

/-- The parts of a number, its digits as characters. -/
structure Lexeme where
  negative : Bool
  whole : List Char
  /-- The digits after the point; none if there is no point. -/
  fraction : List Char
  /-- The exponent; none if it is not written. -/
  exponent : Option Int
  deriving DecidableEq, Repr

/-- The fault of a missing digit before `s`. -/
def missingDigit (s : List Char) : Fault := if s.isEmpty then .truncated else .malformed

/-- Read the whole digits: a single zero, or digits that do not start with one. -/
def readWhole (s : List Char) : Except Fault (List Char × List Char) :=
  let digits := s.takeWhile Char.isDigit
  let rest := s.dropWhile Char.isDigit
  match digits with
  | [] => .error (missingDigit s)
  | ['0'] => .ok (['0'], rest)
  | '0' :: _ => .error .malformed
  | _ => .ok (digits, rest)

/-- Read a point and the digits after it, if there is a point. -/
def readFraction : List Char → Except Fault (List Char × List Char)
  | '.' :: s =>
    let digits := s.takeWhile Char.isDigit
    if digits.isEmpty then .error (missingDigit s) else .ok (digits, s.dropWhile Char.isDigit)
  | s => .ok ([], s)

/-- The number of a list of digits. -/
def digitsValue (digits : List Char) : Nat :=
  digits.foldl (fun n c => n * 10 + (c.toNat - '0'.toNat)) 0

/-- Read the digits of an exponent. -/
def readExponentDigits (negative : Bool) (s : List Char) :
    Except Fault (Option Int × List Char) :=
  let digits := s.takeWhile Char.isDigit
  if digits.isEmpty then .error (missingDigit s)
  else
    let n : Int := digitsValue digits
    .ok (some (if negative then -n else n), s.dropWhile Char.isDigit)

/-- Read an exponent, if there is one. -/
def readExponent : List Char → Except Fault (Option Int × List Char)
  | [] => .ok (none, [])
  | c :: s =>
    if c = 'e' ∨ c = 'E' then
      match s with
      | '+' :: t => readExponentDigits false t
      | '-' :: t => readExponentDigits true t
      | t => readExponentDigits false t
    else .ok (none, c :: s)

/-- Read the parts of a number after its sign. -/
def Lexeme.readUnsigned (negative : Bool) (s : List Char) : Except Fault (Lexeme × List Char) :=
  match readWhole s with
  | .error e => .error e
  | .ok (whole, s) =>
    match readFraction s with
    | .error e => .error e
    | .ok (fraction, s) =>
      match readExponent s with
      | .error e => .error e
      | .ok (exponent, s) => .ok (⟨negative, whole, fraction, exponent⟩, s)

/-- Read the parts of a number. -/
def Lexeme.read : List Char → Except Fault (Lexeme × List Char)
  | '-' :: s => Lexeme.readUnsigned true s
  | s => Lexeme.readUnsigned false s

/-- Pass over a number.  One that ends too early is as malformed as any other. -/
def skipNumber (s : List Char) : Except Fault (List Char) :=
  match Lexeme.read s with
  | .error _ => .error .malformed
  | .ok (_, rest) => .ok rest

/-! ### The value of a number -/

/-- The value of a number. -/
inductive Numeral where
  /-- An integer from zero on, of 64 bits. -/
  | natural (n : Nat)
  /-- The integer `-n`, of 64 bits with its sign; `n` is not zero. -/
  | negative (n : Nat)
  | float (x : Number)
  deriving DecidableEq, Repr

/-- The greatest 64-bit word. -/
def maxWord : Nat := 18446744073709551615

/-- The first digits of a number as a word, and the power of ten that the others stand for. -/
structure Significand where
  value : Nat
  /-- How many whole digits were left out. -/
  exponent : Int
  /-- Whether a digit was left out; all after it are left out too. -/
  full : Bool
  deriving DecidableEq, Repr

/-- Take one more digit; `shift` is what the exponent changes by if the digit is used, and `skip` if it
is left out. -/
def Significand.push (shift skip : Int) (s : Significand) (c : Char) : Significand :=
  let next := s.value * 10 + (c.toNat - '0'.toNat)
  if !s.full && next ≤ maxWord then ⟨next, s.exponent + shift, false⟩
  else ⟨s.value, s.exponent + skip, true⟩

/-- The first digits of a number: a whole digit that is left out makes the exponent greater, a decimal
place that is used makes it smaller.  Decimal places are used as long as the word has room for them, even
if a whole digit was left out. -/
def Lexeme.significand (l : Lexeme) : Significand :=
  let whole := l.whole.foldl (Significand.push 0 1) ⟨0, 0, false⟩
  let all := l.fraction.foldl (Significand.push (-1) 0) { whole with full := false }
  { all with full := whole.full || all.full }

/-- The greatest exponent of a power of ten that can be held. -/
def maxTen : Int := 308

/-- A power of ten as floating point. -/
def tenPower (e : Int) : Rat := Binary64.round ((10 : Rat) ^ e)

/-- The magnitude `f` times ten to the power `e`.  A great power is out of range; by a small one the
magnitude is divided in steps, until it vanishes or the rest of the power can be held. -/
def scale (f : Rat) (e : Int) : Option Rat :=
  if 0 ≤ e then
    if e ≤ maxTen then Binary64.round? (f * tenPower e) else if f = 0 then some 0 else none
  else if -maxTen ≤ e then some (Binary64.round (f / tenPower (-e)))
  else if f = 0 then some 0
  else scale (Binary64.round (f / tenPower maxTen)) (e + maxTen)
termination_by (-e).toNat
decreasing_by simp only [maxTen] at *; omega

/-- The value of a number; none if it is too large. -/
def Lexeme.numeral? (l : Lexeme) : Option Numeral :=
  let s := l.significand
  if l.fraction = [] ∧ l.exponent = none ∧ !s.full then
    if !l.negative then some (.natural s.value)
    else if s.value = 0 ∨ 9223372036854775808 < s.value then
      some (.float ⟨true, Binary64.round s.value⟩)
    else some (.negative s.value)
  else
    (scale (Binary64.round s.value) (s.exponent + l.exponent.getD 0)).map fun x =>
      .float ⟨l.negative, x⟩

/-- Any number as floating point. -/
def Numeral.toNumber : Numeral → Number
  | .natural n => ⟨false, Binary64.round n⟩
  | .negative n => ⟨true, Binary64.round n⟩
  | .float x => x

end HashReplay.Json
