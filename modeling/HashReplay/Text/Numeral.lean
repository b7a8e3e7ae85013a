/-!
# Decimal numerals

Whole numbers as text.  A numeral is written with the least number of ASCII digits.  It is read
digit by digit from the left against a bound, so the first fault met decides the error: a character
that is no digit, or a value that has passed the bound.

## Main definitions

* `decimal` — the numeral of a number.
* `readNat` — the number of a numeral, at most a bound.
* `NumeralError` — why a text is no such numeral.
-/

namespace HashReplay.Text

/-- The digits of a number. -/
def decimal (n : Nat) : List Char := Nat.toDigits 10 n

/-- The value of a decimal digit. -/
def digitValue? (c : Char) : Option Nat :=
  if c.isDigit then some (c.toNat - '0'.toNat) else none

/-- Why a text is not a numeral within the bounds. -/
inductive NumeralError where
  /-- There is no text at all. -/
  | empty
  /-- A character is no digit, or there is a sign with no digit after it. -/
  | invalidDigit
  /-- The value is above the upper bound. -/
  | tooLarge
  /-- The value is below the lower bound. -/
  | tooSmall
  deriving DecidableEq, Repr

/-- The wording of a numeral error. -/
def NumeralError.message : NumeralError → String
  | .empty => "cannot parse integer from empty string"
  | .invalidDigit => "invalid digit found in string"
  | .tooLarge => "number too large to fit in target type"
  | .tooSmall => "number too small to fit in target type"

/-- Read digits onto the value `acc` of those before them; the value must stay within `bound`, and
`excess` is the error when it does not. -/
def readDigits (bound : Nat) (excess : NumeralError) : Nat → List Char → Except NumeralError Nat
  | acc, [] => .ok acc
  | acc, c :: s =>
    match digitValue? c with
    | none => .error .invalidDigit
    | some d =>
      if acc * 10 + d ≤ bound then readDigits bound excess (acc * 10 + d) s else .error excess

/-- Read an unsigned numeral of value at most `bound`: an optional plus sign and at least one
digit. -/
def readNat (bound : Nat) : List Char → Except NumeralError Nat
  | [] => .error .empty
  | ['+'] => .error .invalidDigit
  | '+' :: s => readDigits bound .tooLarge 0 s
  | s => readDigits bound .tooLarge 0 s

/-- Read a numeral with an optional sign of value from `-(bound + 1)` to `bound`. -/
def readInt (bound : Nat) : List Char → Except NumeralError Int
  | [] => .error .empty
  | ['+'] => .error .invalidDigit
  | ['-'] => .error .invalidDigit
  | '+' :: s => (readDigits bound .tooLarge 0 s).map fun n => (n : Int)
  | '-' :: s => (readDigits (bound + 1) .tooSmall 0 s).map fun n => -(n : Int)
  | s => (readDigits bound .tooLarge 0 s).map fun n => (n : Int)

end HashReplay.Text
