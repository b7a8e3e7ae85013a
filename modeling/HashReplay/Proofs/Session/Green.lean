import HashReplay.Proofs.Bench.Accounting
import HashReplay.Proofs.Bench.Passing
import HashReplay.Proofs.Fixture.Records
import HashReplay.Session

/-!
# Green sessions

A session that comes to its end has the exit status of a success exactly when every case of its fixture
is met by what the tool printed for it.

## Main results

* `run_eq_replayOn` — a session whose files are in order replays the records of its fixture.
* `exists_summary` — such a session has a summary that counts the records that are not met.
* `run_green` — when the exit status of such a session is the one of a success.
-/

namespace HashReplay.Session

open Fixture (fields records dangling)

variable {σ : Type}

/-- The records are replayed if the fixture may be incomplete, or is not. -/
theorem casesOf_parse {settings : Settings} {text : String}
    (haccepted : settings.strict = true → dangling (fields text) = none) :
    casesOf settings (Fixture.parse text) = .ok (records (fields text)) := by
  rw [Fixture.parse_eq, casesOf]
  cases hstrict : settings.strict with
  | false => rfl
  | true =>
    simp only [if_true, Fixture.completeCases, Fixture.requireComplete, haccepted hstrict]

theorem openLog_eq_ok {settings : Settings} {fs : FileSystem}
    (hcapture : ∀ path, settings.capture = some path → ∃ opened, fs.create path = .ok opened) :
    ∃ log files, openLog settings fs = .ok (log, files) := by
  unfold openLog
  cases hpath : settings.capture with
  | none => exact ⟨none, fs, rfl⟩
  | some path =>
    obtain ⟨⟨p, fs'⟩, hcreate⟩ := hcapture path hpath
    exact ⟨some ⟨[], some ⟨p, 0⟩⟩, fs', by simp only [Capture.Log.openAt, hcreate]⟩

/-- **A session whose files are in order** replays the records of its fixture, on a new bench. -/
theorem run_eq_replayOn {settings : Settings} (runner : Runner σ) (world : σ) (sink : Sink)
    {fs : FileSystem} {text : String} (htext : fs.readText settings.testcases = .ok text)
    (haccepted : settings.strict = true → dangling (fields text) = none)
    (hcapture : ∀ path, settings.capture = some path → ∃ opened, fs.create path = .ok opened) :
    ∃ log files notices, run settings runner world sink fs =
      replayOn { Bench.start settings world sink log files with notices } runner
        (records (fields text)) := by
  obtain ⟨log, files, hlog⟩ := openLog_eq_ok hcapture
  refine ⟨log, files, tailWarning settings (Fixture.parse text), ?_⟩
  simp only [run, Fixture.load, htext, casesOf_parse haccepted, hlog]
  rfl

/-- **A session whose files are in order**, with a report that is not refused, has a summary.  It counts
no failure exactly when every record is met by the output for it. -/
theorem exists_summary {settings : Settings} (source : Invocation → σ → Answer × σ) (world : σ)
    {sink : Sink} {fs : FileSystem} {text : String}
    (htext : fs.readText settings.testcases = .ok text)
    (haccepted : settings.strict = true → dangling (fields text) = none)
    (hcapture : ∀ path, settings.capture = some path → ∃ opened, fs.create path = .ok opened)
    (hsink : sink.TakesAll) :
    ∃ summary, (run settings (.ofSource source) world sink fs).result = .ok summary ∧
      (summary.failed = 0 ↔ List.Forall₂ TestCase.MetBy (records (fields text))
        (Bench.outputs source world ((records (fields text)).map settings.builder.build))) := by
  obtain ⟨log, files, notices, hrun⟩ :=
    run_eq_replayOn (.ofSource source) world sink htext haccepted hcapture
  -- of the new bench only the sink, the settings and the state of the runner matter from here on
  generalize hb : { Bench.start settings world sink log files with notices } = b at hrun
  have hreplay := b.replay_of_takesAll (.ofSource source) (records (fields text)) (hb ▸ hsink)
  refine ⟨b.summary (.ofSource source) (records (fields text)), ?_, ?_⟩
  · rw [hrun, replayOn, hreplay]
  · rw [Bench.summary, Bench.failures_complete, Bench.course, Bench.countP_attempts_eq_zero_iff,
      Bench.map_stdout_attempts, ← hb]
    rfl

theorem exitStatus_of_failed_eq_zero {s : Summary} (h : s.failed = 0) : s.exitStatus = .success := by
  simp [Summary.exitStatus, Summary.allPassed, h]

theorem exitStatus_of_failed_ne_zero {s : Summary} (h : s.failed ≠ 0) : s.exitStatus = .failure := by
  simp [Summary.exitStatus, Summary.allPassed, h]

/-- The exit status is a matter of whether a case failed. -/
theorem exitStatus_congr {s s' : Summary} (h : s.failed = 0 ↔ s'.failed = 0) :
    s.exitStatus = s'.exitStatus := by
  by_cases hs : s.failed = 0
  · rw [exitStatus_of_failed_eq_zero hs, exitStatus_of_failed_eq_zero (h.mp hs)]
  · rw [exitStatus_of_failed_ne_zero hs, exitStatus_of_failed_ne_zero (mt h.mpr hs)]

/-! ### A small session -/

/-- A fixture with one record. -/
def sampleText : String := "# one case\n-a\nin\nout\n" ++ Bench.sampleHash ++ "\n"

/-- The file with that fixture. -/
def sampleFiles : FileSystem := ⟨[(["cases"], .file (Text.Utf8.encode sampleText.toList))], []⟩

/-- Settings that insist on complete records and ask for a capture file. -/
def sampleSettings : Settings :=
  { Settings.standard "tool" "cases" with strict := true, capture := some "log" }

/-! ### Green means green -/

/-- **Green means green.**  If the fixture is in order and the capture file can be opened, a session
with a report that is not refused has a summary.  Its exit code is 0 if every record of the fixture is
met by what the tool printed for it, and 1 if not.  Other exit codes of the tool, or other times or
errors in place of an output, another verbosity, and a capture file or none do not change it. -/
theorem run_green {settings : Settings} (source : Invocation → σ → Answer × σ) (world : σ)
    {sink : Sink} {fs : FileSystem} {text : String}
    (htext : fs.readText settings.testcases = .ok text)
    (haccepted : settings.strict = true → dangling (fields text) = none)
    (hcapture : ∀ path, settings.capture = some path → ∃ opened, fs.create path = .ok opened)
    (hsink : sink.TakesAll) :
    let green := List.Forall₂ TestCase.MetBy (records (fields text))
      (Bench.outputs source world ((records (fields text)).map settings.builder.build))
    ∃ summary, (run settings (.ofSource source) world sink fs).result = .ok summary ∧
      (green → summary.exitStatus.code = 0) ∧ (¬green → summary.exitStatus.code = 1) ∧
      ∀ (source' : Invocation → σ → Answer × σ) (verbosity : Verbosity) (capture : Option String),
        (∀ i w, (source' i w).1.stdout? = (source i w).1.stdout? ∧
          (source' i w).2 = (source i w).2) →
        (∀ path, capture = some path → ∃ opened, fs.create path = .ok opened) →
        ∃ summary', (run { settings with verbosity, capture } (.ofSource source') world sink
            fs).result = .ok summary' ∧ summary'.exitStatus = summary.exitStatus := by
  intro green
  obtain ⟨summary, hrun, hfailed⟩ :=
    exists_summary source world htext haccepted hcapture hsink
  refine ⟨summary, hrun, ?_, ?_, ?_⟩
  · intro h
    rw [exitStatus_of_failed_eq_zero (hfailed.mpr h)]
    rfl
  · intro h
    rw [exitStatus_of_failed_ne_zero (mt hfailed.mp h)]
    rfl
  · -- another session with the same fixture and the same outputs counts the same failures
    intro source' verbosity capture hsame hcapture'
    let settings' : Settings := { settings with verbosity, capture }
    have htext' : fs.readText settings'.testcases = .ok text := htext
    obtain ⟨summary', hrun', hfailed'⟩ :=
      exists_summary source' world htext' haccepted hcapture' hsink
    rw [Bench.outputs_congr hsame] at hfailed'
    exact ⟨summary', hrun', exitStatus_congr (hfailed'.trans hfailed.symm)⟩

/-- The tool reports the expected hash and ends with exit code 3; the session is green. -/
theorem run_green_sample : ∃ summary,
    (run sampleSettings (.ofSource Bench.sampleSource) 0 .unlimited sampleFiles).result =
      .ok summary ∧ summary.exitStatus.code = 0 := by
  have htext : sampleFiles.readText sampleSettings.testcases = .ok sampleText := by
    decide +kernel
  have hcapture : ∀ path, sampleSettings.capture = some path →
      ∃ opened, sampleFiles.create path = .ok opened := by
    intro path h
    cases h
    exact ⟨_, rfl⟩
  obtain ⟨summary, hrun, hgreen, -⟩ := run_green Bench.sampleSource 0 htext (fun _ => rfl) hcapture
    Sink.takesAll_unlimited
  refine ⟨summary, hrun, hgreen (.cons ?_ .nil)⟩
  exact ⟨_, Bench.sampleHash.toList, rfl, (HashLine.extract_eq_some_iff _ _).mp rfl, rfl⟩

end HashReplay.Session
