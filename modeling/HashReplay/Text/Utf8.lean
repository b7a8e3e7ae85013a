/-!
# UTF-8

A byte sequence is read from left to right as *units*: each unit is a character, or a longest run of
bytes that starts a character but cannot be continued to one (at least one byte).  Reading strictly
refuses a sequence with such a run; reading leniently puts one replacement character in its place.

## Main definitions

* `units` — the units of a byte sequence; `none` stands for an ill-formed run.
* `decode?` — the strict reading.
* `decodeLossy` — the lenient reading.
* `encode` — the bytes of a text.
-/

namespace HashReplay.Text.Utf8

/-! ### Byte classes -/

/-- A byte that continues a character: `0x80` to `0xBF`. -/
def isTail (b : UInt8) : Bool := 0x80 ≤ b && b ≤ 0xBF

/-- Whether `b` may follow the first byte `a` of a three-byte character.  After `0xE0` the overlong
forms are excluded, after `0xED` the surrogates. -/
def isSecondOfThree (a b : UInt8) : Bool :=
  if a == 0xE0 then 0xA0 ≤ b && b ≤ 0xBF
  else if a == 0xED then 0x80 ≤ b && b ≤ 0x9F
  else isTail b

/-- Whether `b` may follow the first byte `a` of a four-byte character.  After `0xF0` the overlong
forms are excluded, after `0xF4` what lies beyond the last code point. -/
def isSecondOfFour (a b : UInt8) : Bool :=
  if a == 0xF0 then 0x90 ≤ b && b ≤ 0xBF
  else if a == 0xF4 then 0x80 ≤ b && b ≤ 0x8F
  else isTail b

/-- The six payload bits of a continuation byte. -/
def payload (b : UInt8) : Nat := b.toNat % 64

/-! ### Reading -/

/-- The units of a byte sequence: its characters, with `none` for each longest ill-formed run. -/
def units : List UInt8 → List (Option Char)
  | [] => []
  | a :: s =>
    if a < 0x80 then
      some (Char.ofNat a.toNat) :: units s
    else if 0xC2 ≤ a && a ≤ 0xDF then
      match s with
      | [] => [none]
      | b :: t =>
        if isTail b then some (Char.ofNat (a.toNat % 32 * 64 + payload b)) :: units t
        else none :: units (b :: t)
    else if 0xE0 ≤ a && a ≤ 0xEF then
      match s with
      | [] => [none]
      | b :: t =>
        if isSecondOfThree a b then
          match t with
          | [] => [none]
          | c :: u =>
            if isTail c then
              some (Char.ofNat (a.toNat % 16 * 4096 + payload b * 64 + payload c)) :: units u
            else none :: units (c :: u)
        else none :: units (b :: t)
    else if 0xF0 ≤ a && a ≤ 0xF4 then
      match s with
      | [] => [none]
      | b :: t =>
        if isSecondOfFour a b then
          match t with
          | [] => [none]
          | c :: u =>
            if isTail c then
              match u with
              | [] => [none]
              | d :: v =>
                if isTail d then
                  some (Char.ofNat (a.toNat % 8 * 262144 + payload b * 4096 + payload c * 64
                    + payload d)) :: units v
                else none :: units (d :: v)
            else none :: units (c :: u)
        else none :: units (b :: t)
    else none :: units s

/-- The replacement character, U+FFFD. -/
def replacement : Char := '\uFFFD'

/-- The text of a byte sequence that is well formed as a whole. -/
def decode? (bytes : List UInt8) : Option (List Char) := (units bytes).mapM id

/-- The text of any byte sequence, each ill-formed run read as one replacement character. -/
def decodeLossy (bytes : List UInt8) : List Char := (units bytes).map (·.getD replacement)

/-! ### Writing -/

/-- The bytes of a text. -/
def encode (s : List Char) : List UInt8 := s.flatMap String.utf8EncodeChar

@[simp] theorem encode_nil : encode [] = [] := rfl

@[simp] theorem encode_append (s t : List Char) : encode (s ++ t) = encode s ++ encode t := by
  simp [encode]

end HashReplay.Text.Utf8
