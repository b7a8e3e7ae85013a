import HashReplay.Proofs.Bench.Accounting
import HashReplay.Proofs.Report.Levels
import HashReplay.Proofs.Report.Lines

/-!
# Verbosity is presentation only

The verbosity of a run decides which lines are printed and nothing else.  Two runs of the same cases at
two levels ask the same, judge the same, count the same and record the same, and the report at the
lower level is the one at the higher level with some lines left out.

Two runs never happen at the same time, so they may be done by two runners, as long as those give the
same answers after the same time.  All that an answer says about a case goes into its result, and all
that a run leaves but the moments of its records follows from the results.  That is why the two runs are
compared by their results (`results_eq_of_answersAlike`).

## Main definitions

* `Bench.atVerbosity` — a bench at another level.
* `Runner.AnswersAlike` — two runners that only differ in the moments at which they answer.
* `Bench.Agrees` — two benches that only differ in what they printed, and when.

## Main results

* `Bench.replay_atVerbosity` — two runs at two levels agree, and one report is part of the other.
-/

namespace HashReplay

variable {σ : Type}

/-- Two answers are alike if the same was printed after the same time, and the runner is in the same
state then. -/
structure Response.Alike (response response' : Response σ) : Prop where
  result : response.answer.result = response'.answer.result
  elapsed : response.answer.elapsed = response'.answer.elapsed
  world : response.world = response'.world

/-- Two runners answer alike if they are one, or if their answers are alike whatever files there are.
In the second case they may answer at other moments.  A moment can be read off the journal of a log, so
a runner that looks at files might not answer alike then. -/
inductive Runner.AnswersAlike (runner runner' : Runner σ) : Prop where
  | same (h : runner = runner')
  | timed (h : ∀ invocation world files files',
      (runner invocation world files).Alike (runner' invocation world files'))

/-- A record without its moment. -/
def Capture.Record.untimed (r : Capture.Record) : Capture.Record :=
  { r with timestamp := .epoch }

namespace Bench

/-- The bench at another level of verbosity. -/
def atVerbosity (b : Bench σ) (v : Verbosity) : Bench σ :=
  { b with settings := { b.settings with verbosity := v } }

/-- Two benches agree if they only differ in what they printed, and in the moments of their records. -/
structure Agrees (b b' : Bench σ) : Prop where
  progress : b.progress = b'.progress
  failures : b.failures = b'.failures
  launched : b.launched = b'.launched
  recorded : b.recorded.map (·.map Capture.Record.untimed) =
    b'.recorded.map (·.map Capture.Record.untimed)

/-! ### The results at two levels -/

section Results

variable (runner : Runner σ) (v : Verbosity)

theorem settle_atVerbosity (b : Bench σ) (index : Nat) (c : TestCase) :
    (b.atVerbosity v).settle runner index c = (b.settle runner index c).atVerbosity v :=
  record_comm (f := (·.atVerbosity v)) (fun _ => rfl) (fun _ => rfl) (fun _ => rfl)
    (fun _ _ _ _ => rfl) (b.launch runner index c) _ _

/-- The level changes no attempt. -/
theorem course_atVerbosity (b : Bench σ) (cases : List TestCase) :
    (b.atVerbosity v).course runner cases = b.course runner cases :=
  attempts_comm runner (fun b index c => settle_atVerbosity runner v b index c) (fun _ _ _ => rfl)
    cases b.restart 1

end Results

/-- Answers that are alike lead to the same results, on benches that build the same invocations and
whose runners are in the same state. -/
theorem map_result_attempts {runner runner' : Runner σ} (h : ∀ invocation world files files',
    (runner invocation world files).Alike (runner' invocation world files')) :
    ∀ (cs : List TestCase) (b b' : Bench σ) (index : Nat),
      b.settings.builder = b'.settings.builder → b.world = b'.world →
      (b.attempts runner index cs).map Attempt.result =
        (b'.attempts runner' index cs).map Attempt.result := by
  intro cs
  induction cs with
  | nil => intro b b' index _ _; rfl
  | cons c cs ih =>
    intro b b' index hbuilder hworld
    have halike := h (b'.settings.builder.build c) b'.world b.files b'.files
    have hattempt : (b.attempt runner index c).result = (b'.attempt runner' index c).result := by
      simp only [attempt, Attempt.result, result, judge, respond, hbuilder, hworld, halike.result,
        halike.elapsed]
    -- the benches after the case build the same, and their runners are in the same state
    obtain ⟨hsettings, hleft, -⟩ := b.settle_frame runner index c
    obtain ⟨hsettings', hleft', -⟩ := b'.settle_frame runner' index c
    rw [attempts, attempts, List.map_cons, List.map_cons, hattempt]
    refine congrArg _ (ih _ _ _ ?_ ?_)
    · rw [hsettings, hsettings', hbuilder]
    · rw [hleft, hleft', respond, respond, hbuilder, hworld, halike.world]

/-- **The results at two levels** are the same. -/
theorem results_eq_of_answersAlike {runner runner' : Runner σ} (h : runner.AnswersAlike runner')
    (b : Bench σ) (cases : List TestCase) (v w : Verbosity) :
    (b.atVerbosity v).results runner cases = (b.atVerbosity w).results runner' cases := by
  cases h with
  | same h => rw [h, results, results, course_atVerbosity, course_atVerbosity]
  | timed h => exact map_result_attempts h cases _ _ 1 rfl rfl

/-! ### What follows from the results -/

/-- What a run launches are the invocations of its results. -/
theorem launched_complete_eq_results (b : Bench σ) (runner : Runner σ) (cases : List TestCase) :
    (b.complete runner cases).launched =
      b.launched ++ (b.results runner cases).map CaseResult.invocation := by
  have hinvocations := map_invocation_attempts runner cases b.restart 1
  rw [launched_complete, results, List.map_map]
  exact congrArg _ hinvocations.symm

/-- What a run records are its results, and moments. -/
theorem untimed_recorded_complete (b : Bench σ) (runner : Runner σ) (cases : List TestCase) :
    (b.complete runner cases).recorded.map (·.map Capture.Record.untimed) =
      b.recorded.map fun old => old.map Capture.Record.untimed ++
        (b.results runner cases).map (recordOf · .epoch) := by
  rw [recorded_complete, Option.map_map, results, List.map_map]
  congr 1
  funext old
  rw [Function.comp_apply, List.map_append, List.map_map]
  rfl

/-- Complete benches with the same results agree, if they agreed before. -/
theorem Agrees.complete {b b' : Bench σ} (h : b.Agrees b') {runner runner' : Runner σ}
    {cases : List TestCase} (hresults : b.results runner cases = b'.results runner' cases)
    (k k' : Sink) :
    ((b.complete runner cases).withSink k).Agrees ((b'.complete runner' cases).withSink k') := by
  have hsummary : b.summary runner cases = b'.summary runner' cases := by
    rw [summary_eq, summary_eq, hresults]
  have hlaunched : (b.complete runner cases).launched = (b'.complete runner' cases).launched := by
    rw [launched_complete_eq_results, launched_complete_eq_results, h.launched, hresults]
  have hrecorded : (b.complete runner cases).recorded.map (·.map Capture.Record.untimed) =
      (b'.complete runner' cases).recorded.map (·.map Capture.Record.untimed) := by
    have hold := congrArg (Option.map (· ++ (b'.results runner' cases).map (recordOf · .epoch)))
      h.recorded
    rw [Option.map_map, Option.map_map] at hold
    rw [untimed_recorded_complete, untimed_recorded_complete, hresults]
    exact hold
  exact ⟨rfl, congrArg Summary.failed hsummary, hlaunched, hrecorded⟩

/-- **Verbosity is presentation only.**  Two runs of the same cases at two levels, by runners that
answer alike and with a sink that never refuses, have the same summary and leave the same progress, the
same count of failures, the same launches and, but for their moments, the same records.  The lines of
the report at the lower level are among those at the higher level, in the same order. -/
theorem replay_atVerbosity {v w : Verbosity} (hle : v ≤ w) {runner runner' : Runner σ}
    (hrunner : runner.AnswersAlike runner') {b : Bench σ} (cases : List TestCase)
    (hsink : b.sink.TakesAll) :
    ∃ summary left left' out out',
      (b.atVerbosity v).replay runner cases = .ok (summary, left) ∧
      (b.atVerbosity w).replay runner' cases = .ok (summary, left') ∧
      left.Agrees left' ∧
      left.sink.written = b.sink.written ++ out ∧ left'.sink.written = b.sink.written ++ out' ∧
      (Report.linesIn out).Sublist (Report.linesIn out') := by
  have hresults := results_eq_of_answersAlike hrunner b cases v w
  have hreplay := (b.atVerbosity v).replay_of_takesAll runner cases hsink
  have hreplay' := (b.atVerbosity w).replay_of_takesAll runner' cases hsink
  have hsummary : (b.atVerbosity w).summary runner' cases =
      (b.atVerbosity v).summary runner cases := by
    rw [summary_eq, summary_eq, hresults]
  rw [hsummary] at hreplay'
  have hagrees : (b.atVerbosity v).Agrees (b.atVerbosity w) := ⟨rfl, rfl, rfl, rfl⟩
  have hlines : (Report.linesOf ((b.atVerbosity v).report runner cases)).Sublist
      (Report.linesOf ((b.atVerbosity w).report runner' cases)) := by
    rw [report, report, ← hresults]
    exact Report.linesOf_stages_sublist hle _ _
  exact ⟨_, _, _, _, _, hreplay, hreplay', hagrees.complete hresults _ _, rfl, rfl,
    Report.linesIn_text_sublist hlines⟩

/-- The runner of the small run, one day later. -/
def lateRunner : Runner Nat := fun invocation world files =>
  let response := sampleRunner invocation world files
  { response with answer := { response.answer with finished := .ofNat 86400 0 } }

/-- The small run at the lowest level, and one day later at the highest. -/
theorem replay_atVerbosity_sample : Verbosity.none ≤ .debug ∧ sampleRunner.AnswersAlike lateRunner ∧
    ∃ summary left left' out out',
      ((sampleBench .unlimited).atVerbosity .none).replay sampleRunner sampleCases =
        .ok (summary, left) ∧
      ((sampleBench .unlimited).atVerbosity .debug).replay lateRunner sampleCases =
        .ok (summary, left') ∧
      left.Agrees left' ∧ left.sink.written = "" ++ out ∧ left'.sink.written = "" ++ out' ∧
      (Report.linesIn out).Sublist (Report.linesIn out') := by
  have hle : Verbosity.none ≤ .debug := by decide
  have hlate : sampleRunner.AnswersAlike lateRunner := .timed fun _ _ _ _ => ⟨rfl, rfl, rfl⟩
  exact ⟨hle, hlate, replay_atVerbosity hle hlate sampleCases Sink.takesAll_unlimited⟩

end Bench

end HashReplay
