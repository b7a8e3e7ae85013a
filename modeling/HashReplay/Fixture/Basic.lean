/-!
# Fixtures

A fixture is a list of test cases.  A test case says how the tool is run and which hash it has to
report.  The text of a fixture may end inside a test case; what is missing is kept apart from the
complete cases.

## Main definitions

* `TestCase` — one case.
* `MissingField`, `Incomplete` — what the last, incomplete case of a text lacks.
* `Fixture` — the cases of a text.
-/

namespace HashReplay

/-- One test case. -/
structure TestCase where
  /-- Options for the tool, still one text. -/
  arguments : String
  /-- What the tool reads. -/
  inputSource : String
  /-- Where the tool writes. -/
  outputDestination : String
  /-- The hash that the tool has to report, as written in the fixture. -/
  expectedHash : String
  /-- The number of the line that the case starts on; lines count from one. -/
  line : Nat
  deriving DecidableEq, Repr

/-- The first field that an incomplete case lacks.  A case starts with its arguments, so they are
never missing. -/
inductive MissingField where
  | inputSource
  | outputDestination
  | expectedHash
  deriving DecidableEq, Repr

/-- What a field is called in messages. -/
def MissingField.label : MissingField → String
  | .inputSource => "input source"
  | .outputDestination => "output destination"
  | .expectedHash => "expected hash"

/-- A case that the end of the text cut short. -/
structure Incomplete where
  /-- The number of the line that the case starts on. -/
  line : Nat
  /-- The first field that got no line. -/
  missing : MissingField
  deriving DecidableEq, Repr

/-- The cases of a text. -/
structure Fixture where
  /-- The complete cases, in order. -/
  cases : List TestCase
  /-- The case at the end of the text that is not complete, if there is one. -/
  incomplete : Option Incomplete
  deriving DecidableEq, Repr

/-- The cases of a fixture that ends with a complete case; otherwise what its last case lacks. -/
def Fixture.requireComplete (f : Fixture) : Except Incomplete (List TestCase) :=
  match f.incomplete with
  | some i => .error i
  | none => .ok f.cases

end HashReplay
