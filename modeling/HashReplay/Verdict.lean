import HashReplay.HashLine

/-!
# Verdicts

What the output of a tool says about a test case.  Hashes are compared, and kept, in upper case.

## Main definitions

* `Verdict` — the three verdicts.
* `Verdict.check` — the verdict on an output.
-/

namespace HashReplay

/-- What an output says about a case. -/
inductive Verdict where
  /-- The expected hash was reported. -/
  | pass (observed : String)
  /-- Another hash was reported. -/
  | mismatch (observed expected : String)
  /-- No hash was reported. -/
  | malformedOutput (expected : String)
  deriving DecidableEq, Repr

namespace Verdict

/-- Whether the case passed. -/
def isPass : Verdict → Bool
  | .pass _ => true
  | _ => false

/-- The hash that was reported, if any. -/
def observed? : Verdict → Option String
  | .pass o => some o
  | .mismatch o _ => some o
  | .malformedOutput _ => none

/-- A text with the ASCII letters in upper case. -/
def upper (s : List Char) : List Char := s.map Char.toUpper

/-- The verdict on an output for the expected hash, which may have blanks around it. -/
def check (stdout expected : String) : Verdict :=
  let wanted := String.ofList (upper (Text.trim expected.toList))
  match HashLine.extract stdout.toList with
  | none => .malformedOutput wanted
  | some token =>
    let found := String.ofList (upper token)
    if found = wanted then .pass found else .mismatch found wanted

end Verdict

end HashReplay
