/-!
# JSON texts

A JSON text stands between double quotes.  Written, only the quote, the backslash and the controls
below U+0020 are escaped: five controls have an escape of two characters and the others are written by
their code in four hexadecimal digits.

Reading takes every escape of JSON.  A character beyond the basic plane may be written by a pair of
codes; half a pair is an error, unless the text is only skipped.

## Main definitions

* `escape`, `text` — the written form of a character and of a text.
* `Fault` — the two ways in which a text can fail to be JSON.
* `readText`, `skipText` — reading a text, and passing over it, after its opening quote.
-/

namespace HashReplay.Json

/-! ### Writing -/

/-- A lower-case hexadecimal digit. -/
def hexDigit (n : Nat) : Char := Nat.digitChar n

/-- The written form of one character. -/
def escape (c : Char) : List Char :=
  if c = '"' then ['\\', '"']
  else if c = '\\' then ['\\', '\\']
  else if c = '\x08' then ['\\', 'b']
  else if c = '\x0c' then ['\\', 'f']
  else if c = '\n' then ['\\', 'n']
  else if c = '\r' then ['\\', 'r']
  else if c = '\t' then ['\\', 't']
  else if c.toNat < 0x20 then
    ['\\', 'u', '0', '0', hexDigit (c.toNat / 16), hexDigit (c.toNat % 16)]
  else [c]

/-- The written form of a text. -/
def text (s : List Char) : List Char := '"' :: (s.flatMap escape ++ ['"'])

/-! ### Reading -/

/-- How a text fails to be JSON. -/
inductive Fault where
  /-- Something stands where it cannot. -/
  | malformed
  /-- The text ends too early. -/
  | truncated
  deriving DecidableEq, Repr

/-- The value of a hexadecimal digit in either case. -/
def hexValue? (c : Char) : Option Nat :=
  if '0' ≤ c ∧ c ≤ '9' then some (c.toNat - '0'.toNat)
  else if 'a' ≤ c ∧ c ≤ 'f' then some (c.toNat - 'a'.toNat + 10)
  else if 'A' ≤ c ∧ c ≤ 'F' then some (c.toNat - 'A'.toNat + 10)
  else none

/-- The number of four hexadecimal digits. -/
def hexValue4? (a b c d : Char) : Option Nat :=
  match hexValue? a, hexValue? b, hexValue? c, hexValue? d with
  | some a, some b, some c, some d => some (a * 4096 + b * 256 + c * 16 + d)
  | _, _, _, _ => none

/-- The fault of a code that has fewer than four characters after it: the text is cut short if it does
not even have four more bytes. -/
def shortCode (s : List Char) : Fault :=
  if 4 ≤ s.foldl (fun n c => n + c.utf8Size) 0 then .malformed else .truncated

/-- The character of an escape of two characters, by its second one. -/
def shortEscape? (c : Char) : Option Char :=
  if c = '"' then some '"'
  else if c = '\\' then some '\\'
  else if c = '/' then some '/'
  else if c = 'b' then some '\x08'
  else if c = 'f' then some '\x0c'
  else if c = 'n' then some '\n'
  else if c = 'r' then some '\r'
  else if c = 't' then some '\t'
  else none

/-- Whether a code is the first half of a pair. -/
def isHighSurrogate (n : Nat) : Bool := 0xD800 ≤ n && n ≤ 0xDBFF

/-- Whether a code is the second half of a pair. -/
def isLowSurrogate (n : Nat) : Bool := 0xDC00 ≤ n && n ≤ 0xDFFF

/-- The character of a pair of codes. -/
def ofSurrogates (high low : Nat) : Char :=
  Char.ofNat (0x10000 + (high - 0xD800) * 0x400 + (low - 0xDC00))

/-- Put a character in front of a text that was read. -/
def push (c : Char) :
    Except Fault (List Char × List Char) → Except Fault (List Char × List Char)
  | .ok (s, rest) => .ok (c :: s, rest)
  | .error e => .error e

/-- Read a text after its opening quote: its characters, and what follows its closing quote. -/
def readText : List Char → Except Fault (List Char × List Char)
  | [] => .error .truncated
  | c :: s =>
    if c = '"' then .ok ([], s)
    else if c = '\\' then
      match s with
      | [] => .error .truncated
      | 'u' :: t =>
        match t with
        | h₁ :: h₂ :: h₃ :: h₄ :: u =>
          match hexValue4? h₁ h₂ h₃ h₄ with
          | none => .error .malformed
          | some n =>
            if isLowSurrogate n then .error .malformed
            else if isHighSurrogate n then
              match u with
              | [] => .error .truncated
              | ['\\'] => .error .truncated
              | '\\' :: 'u' :: v =>
                match v with
                | l₁ :: l₂ :: l₃ :: l₄ :: w =>
                  match hexValue4? l₁ l₂ l₃ l₄ with
                  | none => .error .malformed
                  | some m =>
                    if isLowSurrogate m then push (ofSurrogates n m) (readText w)
                    else .error .malformed
                | _ => .error (shortCode v)
              | _ => .error .malformed
            else push (Char.ofNat n) (readText u)
        | _ => .error (shortCode t)
      | e :: t =>
        match shortEscape? e with
        | none => .error .malformed
        | some d => push d (readText t)
    else if c.toNat < 0x20 then .error .malformed
    else push c (readText s)

/-- Pass over a text after its opening quote: what follows its closing quote.  Codes need not be those
of characters. -/
def skipText : List Char → Except Fault (List Char)
  | [] => .error .truncated
  | c :: s =>
    if c = '"' then .ok s
    else if c = '\\' then
      match s with
      | [] => .error .truncated
      | 'u' :: t =>
        match t with
        | h₁ :: h₂ :: h₃ :: h₄ :: u =>
          match hexValue4? h₁ h₂ h₃ h₄ with
          | none => .error .malformed
          | some _ => skipText u
        | _ => .error (shortCode t)
      | e :: t =>
        match shortEscape? e with
        | none => .error .malformed
        | some _ => skipText t
    else if c.toNat < 0x20 then .error .malformed
    else skipText s

end HashReplay.Json
