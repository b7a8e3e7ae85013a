import HashReplay.Binary64.Basic
import HashReplay.Programs.Basic

/-!
# Numbers in arguments

How an argument is read as a number.  Blanks and a sign may stand in front; a whole number is decimal,
octal after a zero, or hexadecimal after a zero and an x.  A quote in front stands for the code of the
character after it.

## Main definitions

* `ArgumentFault` — why an argument is no number.
* `signedOf`, `wordOf` — an argument as a whole number.
* `fractionOf` — an argument as a decimal fraction.
-/

namespace HashReplay.Programs.Format

/-- Why an argument is no number. -/
inductive ArgumentFault where
  /-- It does not even start like one. -/
  | noNumber
  /-- Something follows the number. -/
  | notAllNumber
  | outOfRange
  deriving DecidableEq, Repr

/-! ### Digits -/

/-- An octal digit. -/
def isOctal (c : Char) : Bool := '0' ≤ c && c ≤ '7'

/-- The value of octal digits. -/
def octalValue (s : List Char) : Nat := s.foldl (fun n c => n * 8 + (c.toNat - '0'.toNat)) 0

/-- A hexadecimal digit. -/
def isHex (c : Char) : Bool := c.isDigit || ('a' ≤ c.toLower && c.toLower ≤ 'f')

/-- The value of hexadecimal digits. -/
def hexValue (s : List Char) : Nat :=
  s.foldl (fun n c =>
    n * 16 + if c.isDigit then c.toNat - '0'.toNat else c.toLower.toNat - 'a'.toNat + 10) 0

/-- The value of decimal digits. -/
def decimalValue (s : List Char) : Nat := s.foldl (fun n c => n * 10 + (c.toNat - '0'.toNat)) 0

/-! ### Whole numbers -/

/-- A blank in front of a number. -/
def isBlank (c : Char) : Bool := c == ' ' || (0x09 ≤ c.toNat && c.toNat ≤ 0x0D)

/-- Whether a minus sign stands in front, and what follows the blanks and the sign. -/
def splitSign (arg : Bytes) : Bool × Bytes :=
  match arg.dropWhile isBlank with
  | '-' :: s => (true, s)
  | '+' :: s => (false, s)
  | s => (false, s)

/-- The magnitude at the start of a text, and what follows it. -/
def magnitude (s : Bytes) : Nat × Bytes :=
  match s with
  | '0' :: x :: t =>
    if (x = 'x' ∨ x = 'X') ∧ (t.head?.map isHex).getD false then
      (hexValue (t.takeWhile isHex), t.dropWhile isHex)
    else (octalValue (s.takeWhile isOctal), s.dropWhile isOctal)
  | _ => (decimalValue (s.takeWhile Char.isDigit), s.dropWhile Char.isDigit)

/-- What is wrong with an argument of which, after its sign, `rest` was not read. -/
def faultOf (arg digits rest : Bytes) (outOfRange : Bool) : Option ArgumentFault :=
  if !arg.isEmpty && rest.length = digits.length then some .noNumber
  else if !rest.isEmpty then some .notAllNumber
  else if outOfRange then some .outOfRange
  else none

/-- The code of the character after a quote. -/
def quotedCode? (arg : Bytes) : Option Nat :=
  match arg with
  | '"' :: c :: _ => some c.toNat
  | '\'' :: c :: _ => some c.toNat
  | _ => none

/-- An argument as a number with a sign. -/
def signedOf (arg : Bytes) : Int × Option ArgumentFault :=
  match quotedCode? arg with
  | some n => (Int.ofNat n, none)
  | none =>
    let (negative, s) := splitSign arg
    let (n, rest) := magnitude s
    let greatest := if negative then 9223372036854775808 else 9223372036854775807
    let clamped := Int.ofNat (min n greatest)
    (if negative then -clamped else clamped, faultOf arg s rest (greatest < n))

/-- An argument as a word of 64 bits; a negative number stands for the word that it is kept in. -/
def wordOf (arg : Bytes) : Nat × Option ArgumentFault :=
  match quotedCode? arg with
  | some n => (n, none)
  | none =>
    let (negative, s) := splitSign arg
    let (n, rest) := magnitude s
    let greatest := 18446744073709551615
    let opposite := (greatest + 1 - n) % (greatest + 1)
    let word := if greatest < n then greatest else if negative then opposite else n
    (word, faultOf arg s rest (greatest < n))

/-! ### Decimal fractions -/

/-- The size of a number that may be no finite one. -/
inductive Size where
  | finite (x : Rat)
  | infinite
  | undefined

/-- A decimal fraction at the start of a text, perhaps with a power of ten, and what follows it. -/
def decimalAt (s : Bytes) : Rat × Bytes :=
  let whole := s.takeWhile Char.isDigit
  let (places, rest) :=
    match s.dropWhile Char.isDigit with
    | '.' :: t =>
      if whole.isEmpty && !(t.head?.map Char.isDigit).getD false then ([], '.' :: t)
      else (t.takeWhile Char.isDigit, t.dropWhile Char.isDigit)
    | t => ([], t)
  let x : Rat :=
    Rat.ofInt (Int.ofNat (decimalValue (whole ++ places))) /
      Rat.ofInt (Int.ofNat (Nat.pow 10 places.length))
  let scaled (negative : Bool) (t : Bytes) : Rat × Bytes :=
    let digits := t.takeWhile Char.isDigit
    let power := Rat.ofInt (Int.ofNat (Nat.pow 10 (min 5000 (decimalValue digits))))
    if digits.isEmpty then (x, rest)
    else (if negative then x / power else x * power, t.drop digits.length)
  if whole.isEmpty && places.isEmpty then (0, s)
  else
    match rest with
    | e :: '-' :: t => if e = 'e' ∨ e = 'E' then scaled true t else (x, rest)
    | e :: '+' :: t => if e = 'e' ∨ e = 'E' then scaled false t else (x, rest)
    | e :: t => if e = 'e' ∨ e = 'E' then scaled false t else (x, rest)
    | [] => (x, [])

/-- The words for what is no finite number, the longer ones first. -/
def sizeWords : List (String × Size) :=
  [("infinity", .infinite), ("inf", .infinite), ("nan", .undefined)]

/-- An argument as a fraction: whether it is negative, its size, and what is wrong with it. -/
def fractionOf (arg : Bytes) : Bool × Size × Option ArgumentFault :=
  match quotedCode? arg with
  | some n => (false, .finite (Rat.ofInt (Int.ofNat n)), none)
  | none =>
    let (negative, s) := splitSign arg
    match sizeWords.find? fun (w, _) => w.toList.isPrefixOf (s.map Char.toLower) with
    | some (w, size) => (negative, size, faultOf arg s (s.drop w.length) false)
    | none =>
      let (x, rest) :=
        match s with
        | '0' :: 'x' :: _ => let (n, rest) := magnitude s; (Rat.ofInt (Int.ofNat n), rest)
        | _ => decimalAt s
      match Binary64.round? x with
      | some y => (negative, .finite y, faultOf arg s rest false)
      | none => (negative, .infinite, faultOf arg s rest true)

end HashReplay.Programs.Format
