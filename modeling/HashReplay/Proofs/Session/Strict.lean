import HashReplay.Proofs.Bench.Lockstep
import HashReplay.Proofs.Fixture.Truncation
import HashReplay.Proofs.Report.Lines
import HashReplay.Proofs.Session.Fatal

/-!
# Strict settings only reject

Settings may insist on complete records.  Where the records are complete, that makes no difference.
Where the text ends inside a record, a session either rejects it, before anything has happened, or does
what it would do if the text ended before that record, and gives one warning more.

## Main definitions

* `runText` — a session whose fixture has been read.
* `tailNotice` — the warning about an incomplete record.
* `Ending.Alike` — what two sessions leave that do the same.

## Main results

* `runText_alike` — sessions that replay the same cases do the same.
* `run_strict` — strict settings and lax ones, on complete records and on an incomplete one.
-/

namespace HashReplay.Session

open Fixture (linesBefore fields dangling)

variable {σ : Type}

/-- What a session does when its fixture has been read as `text`. -/
def runText (settings : Settings) (runner : Runner σ) (world : σ) (sink : Sink) (fs : FileSystem)
    (text : String) : Ending σ :=
  match casesOf settings (Fixture.parse text) with
  | .error e => ⟨.error (.store e), .start settings world sink none fs⟩
  | .ok cases =>
    match openLog settings fs with
    | .error failure => ⟨.error failure, { Bench.start settings world sink none fs with
        notices := tailWarning settings (Fixture.parse text) }⟩
    | .ok (log, files) => replayOn { Bench.start settings world sink log files with
        notices := tailWarning settings (Fixture.parse text) } runner cases

theorem run_eq_runText (settings : Settings) (runner : Runner σ) (world : σ) (sink : Sink)
    {fs : FileSystem} {text : String} (h : fs.readText settings.testcases = .ok text) :
    run settings runner world sink fs = runText settings runner world sink fs text := by
  simp only [run, Fixture.load, h, runText]
  rfl

/-- The warning about an incomplete record. -/
def tailNotice (settings : Settings) (i : Incomplete) : Notice :=
  .diagnostic ⟨.warning, Fixture.incompleteWarning settings.testcases i⟩

/-- Two sessions have done the same: they have the same result, the same report and the same records,
and the benches are abreast.  The notices `before` are only those of the first. -/
structure Ending.Alike (S : FileSystem → FileSystem → Prop) (before : List Notice) (e e' : Ending σ) :
    Prop where
  result : e.result = e'.result
  report : e.report = e'.report
  recorded : e.bench.recorded = e'.bench.recorded
  abreast : Bench.Abreast S e.bench e'.bench
  notices : e.bench.notices = before ++ e'.bench.notices

/-! ### Sessions that replay the same cases -/

section Alike

variable {S : FileSystem → FileSystem → Prop} {before : List Notice} {runner : Runner σ}

/-- Benches in lockstep replay the same cases alike. -/
theorem replayOn_alike {b b' : Bench σ} (h : Bench.Lockstep S before b b') (hS : FileSystem.Alike S)
    (hrunner : runner.Respects S) (hsink : b.sink = b'.sink) (cases : List TestCase) :
    Ending.Alike S before (replayOn b runner cases) (replayOn b' runner cases) := by
  have hends := Bench.endsAlike_lockstep h hS hrunner hsink cases
  unfold replayOn
  generalize b.replay runner cases = ending, b'.replay runner cases = ending' at hends
  cases hends with
  | completed hsink hleft =>
    exact ⟨rfl, congrArg Sink.written hsink, hleft.recorded_eq, hleft.abreast, hleft.notices⟩
  | refused hsink hleft =>
    exact ⟨rfl, congrArg Sink.written hsink, hleft.recorded_eq, hleft.abreast, hleft.notices⟩

/-- A capture file is opened on both of two related file systems, or on none. -/
theorem openLog_alike (hS : FileSystem.Alike S) {fs fs' : FileSystem} (h : S fs fs')
    {settings settings' : Settings} (hcapture : settings.capture = settings'.capture) :
    (∃ failure, openLog settings fs = .error failure ∧ openLog settings' fs' = .error failure) ∨
      ∃ log files files', openLog settings fs = .ok (log, files) ∧
        openLog settings' fs' = .ok (log, files') ∧ S files files' := by
  unfold openLog Capture.Log.openAt
  rw [hcapture]
  cases settings'.capture with
  | none => exact Or.inr ⟨none, fs, fs', rfl, rfl, h⟩
  | some path =>
    rcases hS.create h path with ⟨e, he, he'⟩ | ⟨p, files, files', hok, hok', hfiles⟩
    · simp only [he, he']
      exact Or.inl ⟨_, rfl, rfl⟩
    · simp only [hok, hok']
      exact Or.inr ⟨_, files, files', rfl, rfl, hfiles⟩

/-- **Sessions that replay the same cases do the same**, on related file systems, whatever the texts are
that the cases were read from. -/
theorem runText_alike (hS : FileSystem.Alike S) (hrunner : runner.Respects S) (world : σ) (sink : Sink)
    {fs fs' : FileSystem} (hfiles : S fs fs') {settings settings' : Settings} {text text' : String}
    {cases : List TestCase} (hbuilder : settings.builder = settings'.builder)
    (hverbosity : settings.verbosity = settings'.verbosity)
    (htestcases : settings.testcases = settings'.testcases)
    (hcapture : settings.capture = settings'.capture)
    (hcases : casesOf settings (Fixture.parse text) = .ok cases)
    (hcases' : casesOf settings' (Fixture.parse text') = .ok cases)
    (htail : tailWarning settings (Fixture.parse text) =
      before ++ tailWarning settings' (Fixture.parse text')) :
    Ending.Alike S before (runText settings runner world sink fs text)
      (runText settings' runner world sink fs' text') := by
  have habreast {files files' : FileSystem} (log : Option Capture.Log) (h : S files files')
      (notices notices' : List Notice) : Bench.Abreast S
        { Bench.start settings world sink log files with notices }
        { Bench.start settings' world sink log files' with notices := notices' } :=
    ⟨hbuilder, hverbosity, htestcases, rfl, rfl, rfl, rfl, h⟩
  rw [runText, runText, hcases, hcases']
  rcases openLog_alike hS hfiles hcapture with
    ⟨failure, hopen, hopen'⟩ | ⟨log, files, files', hopen, hopen', hleft⟩
  · simp only [hopen, hopen']
    exact ⟨rfl, rfl, rfl, habreast none hfiles _ _, htail⟩
  · simp only [hopen, hopen']
    exact replayOn_alike ⟨habreast log hleft _ _, rfl, htail⟩ hS hrunner rfl cases

end Alike

/-! ### Warnings -/

theorem head?_incompleteWarning (path : String) (i : Incomplete) :
    (Fixture.incompleteWarning path i).toList.head? = some 'i' := by
  have hfirst : "ignoring incomplete test case at line ".toList.head? = some 'i' := by decide
  have happend {s : String} (h : s.toList.head? = some 'i') (t : String) :
      (s ++ t).toList.head? = some 'i' := Report.head?_append_of_head? h t
  exact happend (happend (happend (happend (happend (happend hfirst _) _) _) _) _) _

/-- A warning about an incomplete record is none that a run gives. -/
theorem not_fromRun_tailNotice (settings : Settings) (i : Incomplete) :
    ¬Bench.FromRun (tailNotice settings i) := by
  unfold tailNotice
  have htext := head?_incompleteWarning settings.testcases i
  generalize Fixture.incompleteWarning settings.testcases i = text at htext
  intro h
  cases h with
  | warning cause =>
    -- the two messages differ in their first letters
    have hfirst : "failed to write capture log: ".toList.head? = some 'f' := by decide
    rw [Report.head?_append_of_head? hfirst] at htext
    cases htext

theorem bench_replayOn (b : Bench σ) (runner : Runner σ) (cases : List TestCase) :
    (replayOn b runner cases).bench = b.after runner cases := by
  unfold replayOn Bench.after
  cases b.replay runner cases <;> rfl

/-- Without an incomplete record, a session does not warn of one. -/
theorem tailNotice_not_mem (settings : Settings) (runner : Runner σ) (world : σ) (sink : Sink)
    (fs : FileSystem) {text : String} (h : (Fixture.parse text).incomplete = none) (i : Incomplete) :
    tailNotice settings i ∉ (runText settings runner world sink fs text).bench.notices := by
  have htail : tailWarning settings (Fixture.parse text) = [] := by
    unfold tailWarning
    rw [h]
    split <;> rfl
  rw [runText, htail]
  split
  · exact List.not_mem_nil
  split
  · exact List.not_mem_nil
  · rw [bench_replayOn]
    obtain ⟨added, hadded, hrun⟩ := Bench.addsNotices_after _ runner _
    rw [hadded, List.nil_append]
    exact fun hmem => not_fromRun_tailNotice settings i (hrun _ hmem)

/-! ### Strict settings and lax ones -/

/-- A file with a text that is not empty can be given another text, and then that is read. -/
theorem exists_retold {fs : FileSystem} {path text : String} (htext : fs.readText path = .ok text)
    (hne : text ≠ "") (text' : String) :
    ∃ p fs', fs.AgreeBut p fs' ∧ fs'.readText path = .ok text' := by
  have hbytes : Text.Utf8.encode text.toList ≠ [] := by
    intro hnil
    have hdecode := Text.Utf8.decode?_encode text.toList
    rw [hnil] at hdecode
    exact hne (String.toList_inj.mp (Option.some.inj hdecode).symm)
  obtain ⟨p, fs', hagree, hread⟩ := FileSystem.exists_rewritten
    (FileSystem.readText_eq_ok_iff.mp htext) hbytes (Text.Utf8.encode text'.toList)
  exact ⟨p, fs', hagree, FileSystem.readText_eq_ok_iff.mpr hread⟩

/-- **Strict settings only reject, and lax ones only drop the rest.**  Let the fixture be read as `text`.
If its records are complete, a strict session and a lax one do the same, and neither warns of a record.

If it ends in the incomplete record `i`, a strict session fails with the line of that record and what it
lacks, and nothing has happened.  The lines before that line read as complete records.  A lax session
does what it does if these lines are its fixture, and gives one warning more; the fixture may be given to
it in place of the text, or be in the file, which can be so, if the runner does not look at that. -/
theorem run_strict (settings : Settings) (runner : Runner σ) (world : σ) (sink : Sink)
    {fs : FileSystem} {text : String} (htext : fs.readText settings.testcases = .ok text) :
    let strict := run { settings with strict := true } runner world sink fs
    let lax := run { settings with strict := false } runner world sink fs
    ((Fixture.parse text).incomplete = none →
        Ending.Alike Eq [] strict lax ∧ ∀ i, tailNotice settings i ∉ lax.bench.notices) ∧
      ∀ i, (Fixture.parse text).incomplete = some i →
        strict.result = .error (.store (.incomplete settings.testcases i)) ∧
        Untouched world sink fs strict.bench ∧
        (Fixture.parse (linesBefore text i.line)).incomplete = none ∧
        Ending.Alike Eq [tailNotice settings i] lax
          (runText { settings with strict := false } runner world sink fs (linesBefore text i.line)) ∧
        (∃ p fs', fs.AgreeBut p fs' ∧
          fs'.readText settings.testcases = .ok (linesBefore text i.line)) ∧
        ∀ p fs', fs.AgreeBut p fs' →
          fs'.readText settings.testcases = .ok (linesBefore text i.line) → runner.Overlooks p →
            Ending.Alike (FileSystem.AgreeBut p) [tailNotice settings i] lax
              (run { settings with strict := false } runner world sink fs') := by
  intro strict lax
  have hstrict : strict = runText { settings with strict := true } runner world sink fs text :=
    run_eq_runText { settings with strict := true } runner world sink htext
  have hlax : lax = runText { settings with strict := false } runner world sink fs text :=
    run_eq_runText { settings with strict := false } runner world sink htext
  refine ⟨fun hnone => ?_, fun i hi => ?_⟩
  · have hcases : casesOf { settings with strict := true } (Fixture.parse text) =
        .ok (Fixture.parse text).cases := by
      simp only [casesOf, if_true, Fixture.completeCases, Fixture.requireComplete, hnone]
    have htail : tailWarning { settings with strict := false } (Fixture.parse text) = [] := by
      simp only [tailWarning, hnone, Bool.false_eq_true, if_false]
    rw [hstrict, hlax]
    exact ⟨runText_alike FileSystem.alike_eq runner.respects_eq world sink rfl rfl rfl rfl rfl hcases
      rfl htail.symm, tailNotice_not_mem { settings with strict := false } runner world sink fs hnone⟩
  · have hdangling : dangling (fields text) = some i := by
      rw [Fixture.parse_eq] at hi
      exact hi
    have hrejected : strict = ⟨.error (.store (.incomplete settings.testcases i)),
        .start { settings with strict := true } world sink none fs⟩ :=
      run_of_dangling runner world sink htext rfl hdangling
    have hbefore := Fixture.parse_linesBefore hi
    have htail : tailWarning { settings with strict := false } (Fixture.parse text) =
        [tailNotice settings i] ++ tailWarning { settings with strict := false }
          (Fixture.parse (linesBefore text i.line)) := by
      simp only [tailWarning, hi, hbefore, Bool.false_eq_true, if_false]
      rfl
    have hcases : casesOf { settings with strict := false } (Fixture.parse (linesBefore text i.line)) =
        .ok (Fixture.parse text).cases := by
      rw [hbefore]
      rfl
    -- the text is replaced where the session reads it, or in the file
    have halike {S : FileSystem → FileSystem → Prop} (hS : FileSystem.Alike S)
        (hrunner : runner.Respects S) {fs' : FileSystem} (hfiles : S fs fs') :
        Ending.Alike S [tailNotice settings i] lax
          (runText { settings with strict := false } runner world sink fs'
            (linesBefore text i.line)) := by
      rw [hlax]
      exact runText_alike hS hrunner world sink hfiles rfl rfl rfl rfl rfl hcases htail
    have hne : text ≠ "" := by
      rintro rfl
      cases hi
    refine ⟨by rw [hrejected], ?_, by rw [hbefore], ?_, exists_retold htext hne _, ?_⟩
    · rw [hrejected]
      exact ⟨rfl, rfl, rfl, rfl, rfl, rfl⟩
    · exact halike FileSystem.alike_eq runner.respects_eq rfl
    · intro p fs' hagree htext' hoverlooks
      rw [run_eq_runText { settings with strict := false } runner world sink htext']
      exact halike (FileSystem.alike_agreeBut p) hoverlooks hagree

/-- A fixture that ends inside its second record. -/
def cutText : String := sampleText ++ "-b\nin\n"

/-- The file with that fixture. -/
def cutFiles : FileSystem := ⟨[(["cases"], .file (Text.Utf8.encode cutText.toList))], []⟩

/-- The second record starts on line 6.  A lax session does what it does with the first one alone. -/
theorem run_strict_sample :
    (run { sampleSettings with strict := true } (.ofSource Bench.sampleSource) 0 .unlimited
        cutFiles).result = .error (.store (.incomplete "cases" ⟨6, .outputDestination⟩)) ∧
      Ending.Alike (FileSystem.AgreeBut ["cases"])
        [tailNotice sampleSettings ⟨6, .outputDestination⟩]
        (run { sampleSettings with strict := false } (.ofSource Bench.sampleSource) 0 .unlimited
          cutFiles)
        (run { sampleSettings with strict := false } (.ofSource Bench.sampleSource) 0 .unlimited
          sampleFiles) := by
  have htext : cutFiles.readText sampleSettings.testcases = .ok cutText := by decide +kernel
  have hcut : (Fixture.parse cutText).incomplete = some ⟨6, .outputDestination⟩ := by decide +kernel
  have htext' : sampleFiles.readText sampleSettings.testcases = .ok (linesBefore cutText 6) := by
    decide +kernel
  have hagree : cutFiles.AgreeBut ["cases"] sampleFiles := by
    have hput : cutFiles.put ["cases"] (.file (Text.Utf8.encode sampleText.toList)) = sampleFiles := rfl
    exact hput ▸ ((FileSystem.AgreeBut.refl ["cases"] cutFiles).put_left rfl _).symm
  obtain ⟨-, hincomplete⟩ :=
    run_strict sampleSettings (.ofSource Bench.sampleSource) 0 .unlimited htext
  obtain ⟨hrejected, -, -, -, -, hlax⟩ := hincomplete ⟨6, .outputDestination⟩ hcut
  exact ⟨hrejected, hlax ["cases"] sampleFiles hagree htext' (Runner.overlooks_ofSource _ _)⟩

end HashReplay.Session
