import HashReplay.Proofs.Bench.Accounting
import HashReplay.Proofs.Bench.Ending
import HashReplay.Proofs.Fixture.Records
import HashReplay.Proofs.Report.OneLine

/-!
# No tool can forge a report

The output of a tool and the verdicts on it go to the same place.  Whatever a tool prints, a reader of
the report of a completed run finds one status line for each case, in order, and each tells what became
of that case; and the last line is the summary.

A line feed is all that could put a forged line there, and a tool cannot bring one in.  The cases cannot
either if they come from a fixture, whose fields never go beyond a line.

## Main results

* `Fixture.oneLine_of_mem_caseFields` — the fields of the cases of a fixture are one line each.
* `Bench.oneLine_of_mem_report` — every line of the report of a run is one line.
* `Bench.replay_unforgeable` — what a reader of the report of a completed run finds.
-/

namespace HashReplay

open Report (OneLine)

namespace Fixture

theorem oneLine_of_mem_fields {text : String} {f : Field} (h : f ∈ fields text) : OneLine f.text := by
  obtain ⟨l, hl, htext, -⟩ := exists_line_of_mem_fields h
  have hline := Text.lineFeed_not_mem_of_mem_lines hl
  rw [htext]
  exact Report.oneLine_ofList.mpr fun hfeed => hline ((Text.trim_sublist l).subset hfeed)

/-- **The fields of the cases of a fixture** are one line each. -/
theorem oneLine_of_mem_caseFields {text field : String} {c : TestCase} (hc : c ∈ (parse text).cases)
    (hfield : field ∈ caseFields c) : OneLine field := by
  obtain ⟨f, hf, rfl⟩ := exists_field_of_mem_caseFields hc hfield
  exact oneLine_of_mem_fields hf

end Fixture

namespace Bench

variable {σ : Type} {b : Bench σ} {runner : Runner σ} {cases : List TestCase}

/-- The verdict on an answer is the one on its output, which brings in no line feed. -/
theorem oneLine_of_judge_eq_ok {answer : Answer} {c : TestCase} (hc : OneLine c.expectedHash)
    (v : Verdict) (h : judge answer c = .ok v) : v.OneLine := by
  unfold judge at h
  split at h
  · cases h
    exact Verdict.oneLine_check _ hc
  · cases h

/-- A fault that is judged is the one of the answer. -/
theorem result_of_judge_eq_error {answer : Answer} {c : TestCase} {e : RunError}
    (h : judge answer c = .error e) : answer.result = .error e := by
  unfold judge at h
  split at h
  · cases h
  · next hresult =>
    cases h
    exact hresult

/-- **Every line of the report of a run is one line.** -/
theorem oneLine_of_mem_report (hcases : ∀ c ∈ cases, OneLine c.expectedHash)
    (hsource : OneLine b.settings.testcases)
    (hfaults : ∀ a ∈ b.course runner cases, ∀ e, a.answer.result = .error e → e.OneLine) :
    ∀ l ∈ Report.linesOf (b.report runner cases), OneLine l := by
  intro l hl
  refine Report.oneLine_of_mem_stages hsource ?_ hl
  intro r hr d hd
  obtain ⟨a, ha, rfl⟩ := List.mem_map.mp hr
  have hcase : a.testCase ∈ cases := by
    rw [← map_testCase_attempts runner cases b.restart 1]
    exact List.mem_map_of_mem ha
  exact Report.oneLine_failureDetail (oneLine_of_judge_eq_ok (hcases _ hcase))
    (fun e he => hfaults a ha e (result_of_judge_eq_error he)) hd

/-- **No tool can forge a report.**  Let a run be completed, at any level of verbosity and with any
output of the tools, where each case comes from a fixture or has an expected hash on one line, and where
neither the path of the fixture nor a fault brings in a line feed.  Then the lines of its report that
start like a status line are one for each case, in order, and tell whether that case passed; and the
last line is the summary, with the number of the cases that did not pass. -/
theorem replay_unforgeable
    (hcases : ∀ c ∈ cases, (∃ text, c ∈ (Fixture.parse text).cases) ∨ OneLine c.expectedHash)
    (hsource : OneLine b.settings.testcases)
    (hfaults : ∀ a ∈ b.course runner cases, ∀ e, a.answer.result = .error e → e.OneLine)
    {summary : Summary} {b' : Bench σ} (h : b.replay runner cases = .ok (summary, b')) :
    ∃ out, b'.sink.written = b.sink.written ++ out ∧
      (Report.linesIn out).filter Report.isStatusLine =
        (b.course runner cases).map (fun a => Report.statusLine a.index a.passed) ∧
      (b.course runner cases).map Attempt.index = List.range' 1 cases.length ∧
      (b.course runner cases).map Attempt.testCase = cases ∧
      (Report.linesIn out).getLast? = some summary.line ∧
      summary = ⟨cases.length, (b.course runner cases).countP fun a => !a.passed⟩ := by
  have hexpected : ∀ c ∈ cases, OneLine c.expectedHash := by
    intro c hc
    rcases hcases c hc with ⟨text, hparsed⟩ | hline
    · exact Fixture.oneLine_of_mem_caseFields hparsed (by simp [Fixture.caseFields])
    · exact hline
  have hlines := oneLine_of_mem_report hexpected hsource hfaults
  obtain ⟨hsummary, k, rfl, htaken, -⟩ := replay_eq_ok h
  have hwritten := Sink.written_writeAll _ htaken
  rw [Report.join_pieces] at hwritten
  have hstatus := Report.filter_isStatusLine_linesIn hlines
  rw [results, List.map_map] at hstatus
  have hlast := Report.getLast?_linesIn hlines
  rw [← summary_eq, ← hsummary] at hlast
  refine ⟨_, hwritten, hstatus, map_index_attempts runner cases b.restart 1,
    map_testCase_attempts runner cases b.restart 1, hlast, ?_⟩
  rw [hsummary, Bench.summary, failures_complete]

/-- A fixture with one case. -/
def forgedText : String := "-a\nin\nout\n00112233445566778899aabbccddeeff\n"

/-- A tool that prints the lines of a green report, and no hash. -/
def forger : Runner Unit := .ofSource fun _ world =>
  (⟨.ok ⟨"Testcase #1: ** OK **\r\nAll tests passed.\n", some 0⟩, .zero, .epoch, ""⟩, world)

/-- A bench that prints everything. -/
def openBench : Bench Unit :=
  .start { Settings.standard "tool" "cases" with verbosity := .debug } () .unlimited none ⟨[], []⟩

/-- A tool that prints the lines of a green report gets one status line, which tells of a failure. -/
theorem replay_unforgeable_sample : ∃ summary b' out,
    openBench.replay forger (Fixture.parse forgedText).cases = .ok (summary, b') ∧
      b'.sink.written = "" ++ out ∧
      (Report.linesIn out).filter Report.isStatusLine = [Report.statusLine 1 false] ∧
      (Report.linesIn out).getLast? = some (Summary.line ⟨1, 1⟩) := by
  have hanswers : (openBench.course forger (Fixture.parse forgedText).cases).map
      (fun a => a.answer.result) =
        [.ok ⟨"Testcase #1: ** OK **\r\nAll tests passed.\n", some 0⟩] := rfl
  have hfaults : ∀ a ∈ openBench.course forger (Fixture.parse forgedText).cases, ∀ e,
      a.answer.result = .error e → e.OneLine := by
    intro a ha e he
    have hmem := List.mem_map_of_mem (f := fun a : Attempt => a.answer.result) ha
    rw [hanswers, List.mem_singleton, he] at hmem
    cases hmem
  have hsource : OneLine openBench.settings.testcases := by decide
  have hreplay := openBench.replay_of_takesAll forger (Fixture.parse forgedText).cases
    Sink.takesAll_unlimited
  obtain ⟨out, hwritten, hstatus, -, -, hlast, hsummary⟩ :=
    replay_unforgeable (fun c hc => Or.inl ⟨forgedText, hc⟩) hsource hfaults hreplay
  rw [hsummary] at hlast
  exact ⟨_, _, out, hreplay, hwritten, hstatus, hlast⟩

end Bench

end HashReplay
