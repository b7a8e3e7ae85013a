import HashReplay.Text.Printable

/-!
# Quoted texts

A text is quoted so that it stays on one line and can be told from every other text: it stands
between double quotes, a few characters have escapes of two characters, and every other character
that is not printable, or that would be drawn onto its neighbour, is written as its code point in
hexadecimal between braces.

## Main definitions

* `escape` — the quoted form of one character.
* `quote` — the quoted form of a text.
* `quoteList` — quoted texts between brackets, separated by a comma and a space.
-/

namespace HashReplay.Text.Quoted

/-- A character by its code point: a backslash, `u`, and the lower-case hexadecimal digits of the
code point, without padding, between braces. -/
def escapeByCode (c : Char) : List Char :=
  ['\\', 'u', '\x7b'] ++ Nat.toDigits 16 c.toNat ++ ['\x7d']

/-- The quoted form of one character. -/
def escape (c : Char) : List Char :=
  if c = '\x00' then ['\\', '0']
  else if c = '\t' then ['\\', 't']
  else if c = '\r' then ['\\', 'r']
  else if c = '\n' then ['\\', 'n']
  else if c = '"' then ['\\', '"']
  else if c = '\\' then ['\\', '\\']
  else if isExtending c || !isPrintable c then escapeByCode c
  else [c]

/-- The quoted form of a text. -/
def quote (s : List Char) : List Char := '"' :: (s.flatMap escape ++ ['"'])

/-- The quoted forms of several texts, as a list between brackets. -/
def quoteList (ss : List (List Char)) : List Char :=
  '[' :: ([',', ' '].intercalate (ss.map quote) ++ [']'])

end HashReplay.Text.Quoted
