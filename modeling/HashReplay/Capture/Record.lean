import HashReplay.Report

/-!
# Capture records

The capture log keeps one record of every case that has been run.

## Main definitions

* `Capture.Outcome`, `Capture.Kind` — how a case went.
* `Capture.Outcome.ofResult` — the outcome that describes the result of a case.
* `Capture.Record` — one entry of the log.
-/

namespace HashReplay.Capture

/-- The kinds of outcome. -/
inductive Kind where
  | passed
  | mismatch
  | malformedOutput
  | launchFailure
  deriving DecidableEq, Repr

namespace Kind

/-- Every kind, in the order in which messages list them. -/
def all : List Kind := [.passed, .mismatch, .malformedOutput, .launchFailure]

/-- The name of a kind. -/
def name : Kind → String
  | .passed => "passed"
  | .mismatch => "mismatch"
  | .malformedOutput => "malformed_output"
  | .launchFailure => "launch_failure"

/-- The kind of a name. -/
def ofName? (s : String) : Option Kind := all.find? fun k => k.name == s

@[simp] theorem ofName?_name (k : Kind) : ofName? k.name = some k := by cases k <;> decide

end Kind

/-- How a case went. -/
inductive Outcome where
  | passed (hash : String)
  | mismatch (observed expected : String)
  | malformedOutput (expected : String)
  | launchFailure (message : String)
  deriving DecidableEq, Repr

namespace Outcome

/-- Whether the case passed. -/
def isPass : Outcome → Bool
  | .passed _ => true
  | _ => false

/-- The kind of an outcome. -/
def kind : Outcome → Kind
  | .passed _ => .passed
  | .mismatch .. => .mismatch
  | .malformedOutput _ => .malformedOutput
  | .launchFailure _ => .launchFailure

/-- The outcome that describes the result of a case.  A run error is kept by its wording. -/
def ofResult : Except RunError Verdict → Outcome
  | .ok (.pass observed) => .passed observed
  | .ok (.mismatch observed expected) => .mismatch observed expected
  | .ok (.malformedOutput expected) => .malformedOutput expected
  | .error e => .launchFailure e.message

/-- An outcome is a pass exactly when the case passed. -/
theorem isPass_ofResult (r : CaseResult) : (ofResult r.outcome).isPass = r.passed := by
  unfold CaseResult.passed
  rcases r.outcome with e | (_ | _ | _) <;> rfl

end Outcome

/-- One entry of the log. -/
structure Record where
  /-- The number of the case. -/
  seq : Nat
  /-- When the case was over. -/
  timestamp : Timestamp
  /-- How long it took. -/
  elapsed : Duration
  /-- The argument vector, program first. -/
  argv : List String
  /-- How it went. -/
  outcome : Outcome
  deriving DecidableEq, Repr

end HashReplay.Capture
