import HashReplay.Proofs.Bench.Asked
import HashReplay.Proofs.Report.StatusLines

/-!
# The accounts of a completed run

A run keeps five accounts of the same cases: what has been launched, the count of failures, the status
lines of the report, the log and the summary.  Each is kept by a step of its own.  In a run that is
completed they agree.

## Main definitions

* `Bench.newRecords` — the records that a run adds to a log.
* `Bench.Accounts` — what the accounts of a run say, and that they agree.

## Main results

* `Bench.replay_of_takesAll` — a sink that never refuses lets a run be completed.
* `Bench.replay_accounts` — the accounts of such a run agree.
-/

namespace HashReplay.Bench

variable {σ : Type}

section Complete

variable (b : Bench σ) (runner : Runner σ) (cases : List TestCase)

theorem launched_complete :
    (b.complete runner cases).launched = b.launched ++ cases.map b.settings.builder.build :=
  launched_settleAll runner cases b.restart 1

theorem failures_complete :
    (b.complete runner cases).failures = (b.course runner cases).countP fun a => !a.passed := by
  have h := failures_settleAll runner cases b.restart 1
  rwa [show b.restart.failures = 0 from rfl, Nat.zero_add] at h

theorem recorded_complete :
    (b.complete runner cases).recorded =
      b.recorded.map (· ++ (b.course runner cases).map Attempt.record) :=
  recorded_settleAll runner cases b.restart 1

theorem length_course : (b.course runner cases).length = cases.length :=
  length_attempts runner cases b.restart 1

/-- The records that a run adds to a log. -/
def newRecords : List Capture.Record := (b.course runner cases).map Attempt.record

theorem map_seq_newRecords :
    (b.newRecords runner cases).map Capture.Record.seq = List.range' 1 cases.length := by
  rw [newRecords, List.map_map]
  exact map_index_attempts runner cases b.restart 1

theorem map_argv_newRecords :
    (b.newRecords runner cases).map Capture.Record.argv =
      cases.map fun c => (b.settings.builder.build c).argv := by
  calc (b.newRecords runner cases).map Capture.Record.argv
      = ((b.course runner cases).map Attempt.invocation).map Invocation.argv := by
        rw [newRecords, List.map_map, List.map_map]
        rfl
    _ = (cases.map b.settings.builder.build).map Invocation.argv :=
        congrArg _ (map_invocation_attempts runner cases b.restart 1)
    _ = cases.map fun c => (b.settings.builder.build c).argv := List.map_map

theorem map_outcome_newRecords :
    (b.newRecords runner cases).map Capture.Record.outcome =
      (b.course runner cases).map fun a => .ofResult (judge a.answer a.testCase) := by
  rw [newRecords, List.map_map]
  rfl

/-- A failed case is recorded as one. -/
theorem countP_newRecords :
    (b.newRecords runner cases).countP (fun r => !r.outcome.isPass) =
      (b.course runner cases).countP fun a => !a.passed := by
  rw [newRecords, List.countP_map]
  refine List.countP_congr fun a _ => ?_
  have hpass : a.record.outcome.isPass = a.passed := Capture.Outcome.isPass_ofResult a.result
  rw [Function.comp_apply, hpass]

/-- A failed case has a status line that tells so. -/
theorem countP_report :
    (Report.linesOf (b.report runner cases)).countP
        (fun line => Report.tellsFailure line && Report.isStatusLine line) =
      (b.course runner cases).countP fun a => !a.passed := by
  rw [report, Report.countP_tellsFailure, results, List.countP_map]
  rfl

/-- **A sink that never refuses** has the whole report after a run, which leaves the bench complete. -/
theorem replay_of_takesAll (h : b.sink.TakesAll) :
    b.replay runner cases = .ok (b.summary runner cases, (b.complete runner cases).withSink
      { b.sink with
        written := b.sink.written ++ Report.text (Report.linesOf (b.report runner cases)) }) := by
  -- the lines of the report are those of the moments, so all moments are printed
  have htaken := h.writeAll (Report.pieces (Report.linesOf (b.report runner cases)))
  rw [Report.join_pieces, ← stages_moments, ← play_eq_ok_iff, stages_moments] at htaken
  rw [replay_eq_play, htaken]
  simp only [Except.bind, finish, Sink.flush, h.flush]

end Complete

/-! ### A small run -/

/-- The hash that the cases of the small run expect. -/
def sampleHash : String := "00112233445566778899aabbccddeeff"

/-- Three cases. -/
def sampleCases : List TestCase :=
  [⟨"-a", "in", "out", sampleHash, 1⟩, ⟨"-b", "in", "out", sampleHash, 5⟩,
    ⟨"-c", "in", "out", sampleHash, 9⟩]

/-- Answers to them, the state being the number of answers given: the expected hash with an exit code
that tells of a failure, no hash with the exit code of a success, and no output. -/
def sampleSource (i : Invocation) (n : Nat) : Answer × Nat :=
  let result :=
    if n = 0 then .ok ⟨"hash of result: " ++ sampleHash, some 3⟩
    else if n = 1 then .ok ⟨"done", some 0⟩
    else .error (.timeout i.program (.ofSecs 1))
  (⟨result, .zero, .epoch, ""⟩, n + 1)

/-- The runner with these answers. -/
def sampleRunner : Runner Nat := .ofSource sampleSource

/-- A bench for that runner, with a log. -/
def sampleBench (k : Sink) : Bench Nat :=
  .start (.standard "tool" "cases") 0 k (some .empty) ⟨[], []⟩

/-- The accounts of a run of `b` that left the bench `b'` and added the records `new` to a log. -/
structure Accounts (b : Bench σ) (runner : Runner σ) (cases : List TestCase) (summary : Summary)
    (b' : Bench σ) (new : List Capture.Record) : Prop where
  progress : b'.progress = .completed
  total : summary.total = cases.length
  /-- Every case is launched once, in order. -/
  launched : b'.launched = b.launched ++ cases.map b.settings.builder.build
  /-- A runner that takes notes has been asked just that. -/
  asked : b.watch.replay runner.watched cases = .ok (summary, b'.watch)
  /-- The attempts are at the cases, in order. -/
  attempted : (b.course runner cases).map Attempt.testCase = cases
  recorded : b'.recorded = b.recorded.map (· ++ new)
  seq : new.map Capture.Record.seq = List.range' 1 cases.length
  argv : new.map Capture.Record.argv = cases.map fun c => (b.settings.builder.build c).argv
  outcome : new.map Capture.Record.outcome =
    (b.course runner cases).map fun a => .ofResult (judge a.answer a.testCase)
  written : b'.sink.written =
    b.sink.written ++ Report.text (Report.linesOf (b.report runner cases))
  failed : summary.failed = b'.failures
  /-- The failures are the new records that are no passes. -/
  failures_records : b'.failures = new.countP fun r => !r.outcome.isPass
  /-- The failures are the status lines that tell a failure. -/
  failures_report : b'.failures = (Report.linesOf (b.report runner cases)).countP
    fun line => Report.tellsFailure line && Report.isStatusLine line
  /-- The failures are the cases that did not pass. -/
  failures_course : b'.failures = (b.course runner cases).countP fun a => !a.passed
  failed_le : summary.failed ≤ summary.total
  passed : summary.passed + summary.failed = summary.total

/-- **The accounts of a completed run agree.**  Every case is launched once and in order, which a
runner that takes notes confirms.  A log gets one record for each case, numbered from one, with the
argument vector of its launch and an outcome that tells what the answer says about the case.  The
summary, the counter of the bench, the new records that are no passes, the status lines that tell a
failure and the cases that did not pass are equally many, and never more than there are cases. -/
theorem replay_accounts {b : Bench σ} (runner : Runner σ) (cases : List TestCase)
    (h : b.sink.TakesAll) :
    ∃ summary b' new, b.replay runner cases = .ok (summary, b') ∧
      b.Accounts runner cases summary b' new := by
  have hreplay := b.replay_of_takesAll runner cases h
  have hwatch := b.replay_watch runner cases
  rw [hreplay] at hwatch
  have hfailures := failures_complete b runner cases
  have hle : (b.summary runner cases).failed ≤ (b.summary runner cases).total := by
    rw [summary, hfailures]
    exact length_course b runner cases ▸ List.countP_le_length
  refine ⟨_, _, b.newRecords runner cases, hreplay, ?_⟩
  exact {
    progress := rfl
    total := rfl
    launched := launched_complete b runner cases
    asked := hwatch
    attempted := map_testCase_attempts runner cases b.restart 1
    recorded := recorded_complete b runner cases
    seq := map_seq_newRecords b runner cases
    argv := map_argv_newRecords b runner cases
    outcome := map_outcome_newRecords b runner cases
    written := rfl
    failed := rfl
    failures_records := hfailures.trans (countP_newRecords b runner cases).symm
    failures_report := hfailures.trans (countP_report b runner cases).symm
    failures_course := hfailures
    failed_le := hle
    passed := Nat.sub_add_cancel hle }

/-- Of three cases, one with no hash in the output and one with no output fail. -/
theorem replay_accounts_sample : ∃ summary b' new,
    (sampleBench .unlimited).replay sampleRunner sampleCases = .ok (summary, b') ∧
      summary.total = 3 ∧ summary.failed = 2 ∧ b'.recorded = some new ∧
      new.map Capture.Record.seq = [1, 2, 3] := by
  obtain ⟨summary, b', new, hreplay, haccounts⟩ := replay_accounts (b := sampleBench .unlimited)
    sampleRunner sampleCases Sink.takesAll_unlimited
  exact ⟨summary, b', new, hreplay, haccounts.total,
    haccounts.failed.trans haccounts.failures_course, haccounts.recorded, haccounts.seq⟩

end HashReplay.Bench
