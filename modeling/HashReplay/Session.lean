import HashReplay.Bench
import HashReplay.Fixture.Store

/-!
# Sessions

A session is a whole run as settings describe it: the fixture is loaded, the capture file is opened,
and the cases are replayed.  The steps are in this order, so nothing is written before the fixture has
been found to be in order, and nothing is launched before all files are open.

## Main definitions

* `Session.Failure` — why a session has no summary.
* `Session.Ending` — what is left of a session.
* `Session.run` — the session.
-/

namespace HashReplay.Session

/-- Why a session has no summary. -/
inductive Failure where
  /-- The cases cannot be had. -/
  | store (e : Fixture.LoadError)
  /-- The capture file cannot be opened. -/
  | capture (path : String) (cause : IoError)
  /-- The report could not be written. -/
  | report (cause : IoError)
  deriving DecidableEq, Repr

/-- The wording of a failure. -/
def Failure.message : Failure → String
  | .store e => e.message
  | .capture path cause => "cannot open capture file '" ++ path ++ "': " ++ cause.message
  | .report cause => "failed to write report: " ++ cause.message

/-- What is left of a session: its result and the bench as it stands then. -/
structure Ending (σ : Type) where
  result : Except Failure Summary
  bench : Bench σ

/-- The cases that a session replays. -/
def casesOf (settings : Settings) (f : Fixture) : Except Fixture.LoadError (List TestCase) :=
  if settings.strict then f.completeCases settings.testcases else .ok f.cases

/-- The warning about an incomplete case that a session leaves out. -/
def tailWarning (settings : Settings) (f : Fixture) : List Notice :=
  if settings.strict then []
  else
    match f.incomplete with
    | none => []
    | some i => [.diagnostic ⟨.warning, Fixture.incompleteWarning settings.testcases i⟩]

/-- The log of a session, which has a journal if the settings name a capture file. -/
def openLog (settings : Settings) (fs : FileSystem) :
    Except Failure (Option Capture.Log × FileSystem) :=
  match settings.capture with
  | none => .ok (none, fs)
  | some path =>
    match Capture.Log.openAt path fs with
    | .error cause => .error (.capture path cause)
    | .ok (log, fs') => .ok (some log, fs')

variable {σ : Type}

/-- Replay cases on a bench that has run nothing yet. -/
def replayOn (b : Bench σ) (runner : Runner σ) (cases : List TestCase) : Ending σ :=
  match b.replay runner cases with
  | .ok (summary, b) => ⟨.ok summary, b⟩
  | .error refused => ⟨.error (.report refused.cause), refused.bench⟩

/-- The session that settings describe, with the answers of a runner and with the report going to a
sink. -/
def run (settings : Settings) (runner : Runner σ) (world : σ) (sink : Sink) (fs : FileSystem) :
    Ending σ :=
  let idle := Bench.start settings world sink none fs
  match Fixture.load fs settings.testcases with
  | .error e => ⟨.error (.store e), idle⟩
  | .ok f =>
    match casesOf settings f with
    | .error e => ⟨.error (.store e), idle⟩
    | .ok cases =>
      let warned := { idle with notices := tailWarning settings f }
      match openLog settings fs with
      | .error failure => ⟨.error failure, warned⟩
      | .ok (log, files) => replayOn { warned with log, files } runner cases

namespace Ending

/-- The report. -/
def report (e : Ending σ) : String := e.bench.sink.written

/-- The error stream. -/
def stderr (terminal : Bool) (e : Ending σ) : String :=
  String.join (e.bench.notices.map (Notice.render terminal))

end Ending

end HashReplay.Session
