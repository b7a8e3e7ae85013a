import HashReplay.Fixture.Basic
import HashReplay.Text.Lines

/-!
# Reading fixtures

Blank lines and lines that start with a number sign are noise.  Every other line, without the blanks
around it, is one field; four fields in a row are a test case: arguments, input source, output
destination, expected hash.  A byte-order mark in front of the text is ignored.

The reader goes through the lines once and holds the fields of the case it is in.

## Main definitions

* `Pending` — the fields read so far of the current case.
* `Pending.take` — what one more field does.
* `Fixture.parse` — the fixture of a text.
-/

namespace HashReplay

namespace Fixture

/-- Whether a line, without the blanks around it, carries no field. -/
def isNoise : List Char → Bool
  | [] => true
  | c :: _ => c == '#'

/-- The fields read so far of the current case, with the number of its first line. -/
inductive Pending where
  /-- Between two cases. -/
  | start
  | afterArguments (line : Nat) (arguments : String)
  | afterInput (line : Nat) (arguments inputSource : String)
  | afterOutput (line : Nat) (arguments inputSource outputDestination : String)
  deriving DecidableEq, Repr

/-- Take one more field, from line `n`: the fields that are pending then, and the case that the field
completes. -/
def Pending.take (n : Nat) (field : String) : Pending → Pending × Option TestCase
  | .start => (.afterArguments n field, none)
  | .afterArguments l a => (.afterInput l a field, none)
  | .afterInput l a i => (.afterOutput l a i field, none)
  | .afterOutput l a i o => (.start, some ⟨a, i, o, field, l⟩)

/-- What the end of the text leaves incomplete. -/
def Pending.incomplete : Pending → Option Incomplete
  | .start => none
  | .afterArguments l _ => some ⟨l, .inputSource⟩
  | .afterInput l _ _ => some ⟨l, .outputDestination⟩
  | .afterOutput l _ _ _ => some ⟨l, .expectedHash⟩

/-- Read lines numbered from `n` with `p` pending. -/
def readLines (n : Nat) (p : Pending) : List (List Char) → Fixture
  | [] => ⟨[], p.incomplete⟩
  | l :: ls =>
    let t := Text.trim l
    if isNoise t then readLines (n + 1) p ls
    else
      match p.take n (String.ofList t) with
      | (q, none) => readLines (n + 1) q ls
      | (q, some c) =>
        let rest := readLines (n + 1) q ls
        ⟨c :: rest.cases, rest.incomplete⟩

/-- The byte-order mark, U+FEFF. -/
def byteOrderMark : Char := '\uFEFF'

/-- A text without a byte-order mark in front of it; a second one stays. -/
def stripMark : List Char → List Char
  | [] => []
  | c :: s => if c = byteOrderMark then s else c :: s

/-- The fixture of a text. -/
def parse (text : String) : Fixture :=
  readLines 1 .start (Text.lines (stripMark text.toList))

end Fixture

end HashReplay
