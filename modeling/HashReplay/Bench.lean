import HashReplay.Capture.Log
import HashReplay.Diagnostic
import HashReplay.Settings
import HashReplay.Sink

/-!
# The bench

The bench replays test cases one after another: it builds the invocation of a case, asks a runner for
the answer, judges it, reports it and records it.  A case that fails is counted and never stops the
run; only a report that cannot be written does, and the bench then stays as it was at that moment.

The order of the steps of one case is: the case is announced as running, its argument vector is
echoed, the tool is launched, a failure is counted, the block of the case is reported, and the case
is recorded.

## Main definitions

* `Bench` — a bench with its report, its log and its counters.
* `Bench.replayCase`, `Bench.replayFrom` — one case, and a list of them.
* `Bench.replay` — a whole run.
-/

namespace HashReplay

/-- Where a bench is in a run. -/
inductive Progress where
  | notStarted
  /-- In the case with this number, counted from one. -/
  | running (index : Nat)
  | completed
  deriving DecidableEq, Repr

/-- What appears on the error stream during a run. -/
inductive Notice where
  /-- What a tool wrote there. -/
  | toolOutput (text : String)
  /-- A message of this program. -/
  | diagnostic (d : Diagnostic)
  deriving DecidableEq, Repr

/-- A notice as written. -/
def Notice.render (terminal : Bool) : Notice → String
  | .toolOutput text => text
  | .diagnostic d => d.render terminal

/-- A bench, whose runner has a state of type `σ`. -/
structure Bench (σ : Type) where
  settings : Settings
  /-- The state of the runner. -/
  world : σ
  /-- Where the report goes. -/
  sink : Sink
  /-- Where cases are recorded, if they are. -/
  log : Option Capture.Log
  /-- The files, which the journal of the log and the tools share. -/
  files : FileSystem
  progress : Progress
  /-- How many cases of the current run failed so far. -/
  failures : Nat
  /-- Everything launched so far, in all runs. -/
  launched : List Invocation
  /-- Everything on the error stream so far. -/
  notices : List Notice

/-- What is left of a run whose report could not be written. -/
structure Refused (σ : Type) where
  cause : IoError
  bench : Bench σ

namespace Bench

variable {σ : Type}

/-- A bench that has run nothing yet. -/
def start (settings : Settings) (world : σ) (sink : Sink) (log : Option Capture.Log)
    (files : FileSystem) : Bench σ where
  settings
  world
  sink
  log
  files
  progress := .notStarted
  failures := 0
  launched := []
  notices := []

/-- Print lines of the report. -/
def print (b : Bench σ) (lines : List String) : Except (Refused σ) (Bench σ) :=
  match b.sink.writeAll (Report.pieces lines) with
  | (none, sink) => .ok { b with sink }
  | (some cause, sink) => .error ⟨cause, { b with sink }⟩

/-- Flush the report. -/
def flush (b : Bench σ) : Except (Refused σ) (Bench σ) :=
  match b.sink.flush with
  | none => .ok b
  | some cause => .error ⟨cause, b⟩

/-- What an answer says about a case. -/
def judge (answer : Answer) (c : TestCase) : Except RunError Verdict :=
  match answer.result with
  | .ok output => .ok (Verdict.check output.stdout c.expectedHash)
  | .error e => .error e

/-- The result of a case, from the answer to its invocation. -/
def result (index : Nat) (invocation : Invocation) (answer : Answer) (c : TestCase) : CaseResult where
  index
  invocation
  elapsed := answer.elapsed
  outcome := judge answer c
  stdout :=
    match answer.result with
    | .ok output => some output.stdout
    | .error _ => none

/-- What a tool's error output adds to the notices. -/
def toolNotices (stderr : String) : List Notice :=
  if stderr = "" then [] else [.toolOutput stderr]

/-- The bench after a launch: the runner has moved on, the launch is noted, and a failure is
counted. -/
def afterLaunch (b : Bench σ) (r : CaseResult) (response : Response σ) : Bench σ :=
  { b with
    world := response.world
    files := response.files
    launched := b.launched ++ [r.invocation]
    failures := if r.passed then b.failures else b.failures + 1
    notices := b.notices ++ toolNotices response.answer.stderr }

/-- The record of a case. -/
def recordOf (r : CaseResult) (timestamp : Timestamp) : Capture.Record where
  seq := r.index
  timestamp
  elapsed := r.elapsed
  argv := r.invocation.argv
  outcome := .ofResult r.outcome

/-- The warning about a record that is not in the journal. -/
def captureWarning (cause : IoError) : Notice :=
  .diagnostic ⟨.warning, "failed to write capture log: " ++ cause.message⟩

/-- Record a case, if there is a log. -/
def record (b : Bench σ) (r : CaseResult) (timestamp : Timestamp) : Bench σ :=
  match b.log with
  | none => b
  | some log =>
    let done := log.record (recordOf r timestamp) b.files
    { b with
      log := some done.log
      files := done.files
      notices := b.notices ++ (done.error.map captureWarning).toList }

/-- Replay one case. -/
def replayCase (b : Bench σ) (runner : Runner σ) (index : Nat) (c : TestCase) :
    Except (Refused σ) (Bench σ) :=
  let invocation := b.settings.builder.build c
  match { b with progress := .running index }.print (Report.echo b.settings.verbosity invocation) with
  | .error refused => .error refused
  | .ok b =>
    let response := runner invocation b.world b.files
    let r := result index invocation response.answer c
    match (b.afterLaunch r response).print (Report.caseBlock b.settings.verbosity r) with
    | .error refused => .error refused
    | .ok b => .ok (b.record r response.answer.finished)

/-- Replay cases numbered from `index`. -/
def replayFrom (b : Bench σ) (runner : Runner σ) (index : Nat) :
    List TestCase → Except (Refused σ) (Bench σ)
  | [] => .ok b
  | c :: cs =>
    match b.replayCase runner index c with
    | .error refused => .error refused
    | .ok b => b.replayFrom runner (index + 1) cs

/-- Print the summary of a run of `total` cases. -/
def close (b : Bench σ) (total : Nat) : Except (Refused σ) (Summary × Bench σ) :=
  let summary : Summary := ⟨total, b.failures⟩
  match { b with progress := .completed }.print (Report.closing summary) with
  | .error refused => .error refused
  | .ok b =>
    match b.flush with
    | .error refused => .error refused
    | .ok b => .ok (summary, b)

/-- Replay all cases and print the summary. -/
def replay (b : Bench σ) (runner : Runner σ) (cases : List TestCase) :
    Except (Refused σ) (Summary × Bench σ) :=
  let header := Report.header b.settings.verbosity cases.length b.settings.testcases
  match { b with failures := 0 }.print header with
  | .error refused => .error refused
  | .ok b =>
    match b.replayFrom runner 1 cases with
    | .error refused => .error refused
    | .ok b => b.close cases.length

end Bench

end HashReplay
