import HashReplay.Text.Lines

/-!
# Hash lines

The tool reports the hash of a result on a line of its own, which starts with a fixed label.  The hash
is exactly 32 hexadecimal digits in any case of letters: a longer run of such digits is no hash.  What
follows the hash on its line does not matter, and of several such lines the first one counts.

## Main definitions

* `HashLine.label` — what such a line starts with.
* `HashLine.tokenAt` — the hash of a text that starts with a hash line.
* `HashLine.extract` — the first hash that a text reports.
-/

namespace HashReplay.HashLine

/-- What a hash line starts with. -/
def label : List Char :=
  ['h', 'a', 's', 'h', ' ', 'o', 'f', ' ', 'r', 'e', 's', 'u', 'l', 't', ':', ' ']

/-- The number of digits of a hash. -/
def tokenLength : Nat := 32

/-- An ASCII hexadecimal digit, in either case. -/
def isHexDigit (c : Char) : Bool :=
  ('0' ≤ c && c ≤ '9') || ('a' ≤ c && c ≤ 'f') || ('A' ≤ c && c ≤ 'F')

/-- What is left of `s` after `p`, if `s` starts with `p`. -/
def afterLabel? : List Char → List Char → Option (List Char)
  | [], s => some s
  | _ :: _, [] => none
  | p :: ps, c :: s => if p = c then afterLabel? ps s else none

/-- The hash of a text that starts with a hash line: the hexadecimal digits after the label, if there
are exactly as many as a hash has. -/
def tokenAt (s : List Char) : Option (List Char) :=
  match afterLabel? label s with
  | none => none
  | some r =>
    let token := r.takeWhile isHexDigit
    if token.length = tokenLength then some token else none

/-- Search `s` for a hash line; `atStart` tells whether `s` is at the start of a line. -/
def search : Bool → List Char → Option (List Char)
  | _, [] => none
  | false, c :: s => search (c == '\n') s
  | true, c :: s =>
    match tokenAt (c :: s) with
    | some token => some token
    | none => search (c == '\n') s

/-- The first hash that a text reports, as printed. -/
def extract (s : List Char) : Option (List Char) := search true s

end HashReplay.HashLine
