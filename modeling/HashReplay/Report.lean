import HashReplay.Runner
import HashReplay.Summary
import HashReplay.Text.Lines
import HashReplay.Verbosity
import HashReplay.Verdict

/-!
# Reports

The lines that a run prints.  A report is a header, then for each case an echo of its argument vector
and a block about its result, then the summary.  The verbosity only decides which lines are there.

## Main definitions

* `CaseResult` — everything known about a case that has been run.
* `Report.header`, `Report.echo`, `Report.caseBlock`, `Report.closing` — the parts of a report.
* `Report.text` — lines as text.
* `Report.pieces` — the pieces in which lines are handed to a sink.
-/

namespace HashReplay

/-- Everything known about a case that has been run. -/
structure CaseResult where
  /-- The place of the case in its fixture, counted from one. -/
  index : Nat
  invocation : Invocation
  elapsed : Duration
  /-- The verdict, or why there was no output. -/
  outcome : Except RunError Verdict
  /-- What the tool printed, if it ran. -/
  stdout : Option String

/-- Whether the case passed. -/
def CaseResult.passed (r : CaseResult) : Bool :=
  match r.outcome with
  | .ok v => v.isPass
  | .error _ => false

namespace Report

/-- The line that tells whether case `index` passed. -/
def statusLine (index : Nat) (passed : Bool) : String :=
  "Testcase #" ++ toString index ++ (if passed then ": ** OK **" else ": ** FAILURE **")

/-- Why a case failed; nothing for a case that passed. -/
def failureDetail : Except RunError Verdict → Option String
  | .ok (.pass _) => none
  | .ok (.mismatch observed expected) => some ("is:" ++ observed ++ " expected:" ++ expected)
  | .ok (.malformedOutput expected) => some ("no hash line in output, expected:" ++ expected)
  | .error e => some e.message

/-- The announcement of a run. -/
def header (v : Verbosity) (count : Nat) (source : String) : List String :=
  if v.showsProgress then ["Running " ++ toString count ++ " test case(s) from " ++ source] else []

/-- The echo of an argument vector. -/
def echo (v : Verbosity) (i : Invocation) : List String :=
  if v.showsDebug then [i.quoted] else []

/-- The lines of a text, each marked as output of the tool. -/
def dump (stdout : String) : List String :=
  (Text.lines stdout.toList).map fun l => "  | " ++ String.ofList l

/-- The lines about the result of a case. -/
def caseBlock (v : Verbosity) (r : CaseResult) : List String :=
  (if !r.passed && v.showsDetail then (failureDetail r.outcome).toList else []) ++
  (if !r.passed && v.showsDebug then (r.stdout.map dump).getD [] else []) ++
  [statusLine r.index r.passed] ++
  (if v.showsProgress then ["  took " ++ toString r.elapsed.millis ++ " ms"] else [])

/-- The last line of a report. -/
def closing (s : Summary) : List String := [s.line]

/-- Lines as text, each ended by a line feed. -/
def text (ls : List String) : String := String.join (ls.map (· ++ "\n"))

/-- The pieces in which lines are handed to a sink: each line, and then its line feed. -/
def pieces (ls : List String) : List String := ls.flatMap fun l => [l, "\n"]

@[simp] theorem pieces_append (ls ms : List String) : pieces (ls ++ ms) = pieces ls ++ pieces ms :=
  List.flatMap_append

/-- The pieces together are the text. -/
theorem join_pieces (ls : List String) : String.join (pieces ls) = text ls := by
  induction ls with
  | nil => rfl
  | cons l ls ih =>
    simp only [text, pieces, List.flatMap_cons, List.map_cons, List.cons_append, List.nil_append,
      String.join_cons] at ih ⊢
    rw [ih, String.append_assoc]

end Report

end HashReplay
