import HashReplay.Proofs.Session.Green
import HashReplay.Proofs.Text.Strict

/-!
# Fatal errors come before any effect

A session reads its fixture, looks whether it may be used, opens its capture file, and only then starts
to replay.  If one of the first three fails, the session ends there: nothing has been launched, nothing
is in the report, and no file has been changed.  The fixture is looked at first, so a session that does
not accept it leaves the capture file of an earlier one alone.

## Main definitions

* `Rejected` — the fixture cannot be used.
* `CaptureRefused` — the capture file cannot be opened.
* `Untouched` — a bench on which nothing has happened.

## Main results

* `run_of_readText_eq_error`, `run_of_dangling`, `run_of_accepted` — the session, step by step.
* `run_fatal` — which sessions end before they start, and that nothing has happened then.
-/

namespace HashReplay

/-- **A file is read as a text** exactly if it holds the bytes that the text is encoded as. -/
theorem FileSystem.readText_eq_ok_iff {fs : FileSystem} {path text : String} :
    fs.readText path = .ok text ↔ fs.readBytes path = .ok (Text.Utf8.encode text.toList) := by
  rw [FileSystem.readText]
  cases hbytes : fs.readBytes path with
  | error cause => simp
  | ok bytes =>
    simp only [Except.ok.injEq]
    cases hdecode : Text.Utf8.decode? bytes with
    | none =>
      refine iff_of_false nofun fun h => ?_
      rw [Text.Utf8.decode?_eq_some_iff.mpr h.symm] at hdecode
      cases hdecode
    | some s =>
      have hs := Text.Utf8.decode?_eq_some_iff.mp hdecode
      constructor
      · intro h
        rw [← hs, ← Except.ok.inj h, String.toList_ofList]
      · intro h
        rw [h, Text.Utf8.decode?_encode, Option.some.injEq] at hdecode
        have htext : String.ofList s = text := by rw [← hdecode, String.ofList_toList]
        exact congrArg Except.ok htext

/-- A file cannot be read as a text if it cannot be read, or if what it holds encodes no text. -/
theorem FileSystem.readText_eq_error_iff {fs : FileSystem} {path : String} :
    (∃ cause, fs.readText path = .error cause) ↔
      (∃ cause, fs.readBytes path = .error cause) ∨
        ∃ bytes, fs.readBytes path = .ok bytes ∧
          ∀ text : String, Text.Utf8.encode text.toList ≠ bytes := by
  cases hbytes : fs.readBytes path with
  | error cause => simp [FileSystem.readText, hbytes]
  | ok bytes =>
    cases htext : fs.readText path with
    | error cause =>
      refine iff_of_true ⟨cause, rfl⟩ (Or.inr ⟨bytes, rfl, fun text h => ?_⟩)
      rw [FileSystem.readText_eq_ok_iff.mpr (hbytes.trans (congrArg Except.ok h.symm))] at htext
      cases htext
    | ok text =>
      refine iff_of_false (fun ⟨cause, h⟩ => by cases h) ?_
      rw [FileSystem.readText_eq_ok_iff, hbytes] at htext
      rintro (⟨cause, h⟩ | ⟨bytes', h, hno⟩)
      · cases h
      · cases h
        exact hno text (Except.ok.inj htext).symm

namespace Session

open Fixture (fields records dangling)

variable {σ : Type}

/-! ### What can go wrong -/

/-- The fixture of a session cannot be used. -/
inductive Rejected (settings : Settings) (fs : FileSystem) : Prop where
  | unreadable {cause : IoError} (h : fs.readBytes settings.testcases = .error cause)
  /-- What the file holds encodes no text. -/
  | notText {bytes : List UInt8} (h : fs.readBytes settings.testcases = .ok bytes)
      (hbytes : ∀ text : String, Text.Utf8.encode text.toList ≠ bytes)
  /-- The fields are no whole number of cases, and the settings insist on that. -/
  | incomplete {text : String}
      (h : fs.readBytes settings.testcases = .ok (Text.Utf8.encode text.toList))
      (hstrict : settings.strict = true) (hfields : ¬4 ∣ (fields text).length)

/-- The capture file of a session cannot be opened. -/
def CaptureRefused (settings : Settings) (fs : FileSystem) : Prop :=
  ∃ path cause, settings.capture = some path ∧ fs.create path = .error cause

/-- Whether a session may replay the records of a text. -/
def Accepts (settings : Settings) (text : String) : Prop :=
  settings.strict = true → dangling (fields text) = none

/-- A fixture can be used exactly if it is read as a text that the session accepts. -/
theorem not_rejected_iff {settings : Settings} {fs : FileSystem} :
    ¬Rejected settings fs ↔
      ∃ text, fs.readText settings.testcases = .ok text ∧ Accepts settings text := by
  constructor
  · intro h
    cases htext : fs.readText settings.testcases with
    | error cause =>
      rcases FileSystem.readText_eq_error_iff.mp ⟨cause, htext⟩ with ⟨_, hread⟩ | ⟨_, hread, hno⟩
      · exact absurd (.unreadable hread) h
      · exact absurd (.notText hread hno) h
    | ok text =>
      refine ⟨text, rfl, fun hstrict => ?_⟩
      by_contra hdangling
      rw [Fixture.dangling_eq_none_iff] at hdangling
      exact h (.incomplete (FileSystem.readText_eq_ok_iff.mp htext) hstrict hdangling)
  · rintro ⟨text, htext, haccepts⟩ hrejected
    have hread := FileSystem.readText_eq_ok_iff.mp htext
    cases hrejected with
    | unreadable h => cases h.symm.trans hread
    | notText h hno => exact hno text (Except.ok.inj (h.symm.trans hread)).symm
    | @incomplete text' h hstrict hfields =>
      cases (FileSystem.readText_eq_ok_iff.mpr h).symm.trans htext
      exact hfields ((Fixture.dangling_eq_none_iff _).mp (haccepts hstrict))

theorem openLog_eq_error_iff {settings : Settings} {fs : FileSystem} {failure : Failure} :
    openLog settings fs = .error failure ↔ ∃ path cause, settings.capture = some path ∧
      fs.create path = .error cause ∧ failure = .capture path cause := by
  cases hcapture : settings.capture with
  | none => simp [openLog, hcapture]
  | some path =>
    cases hcreate : fs.create path with
    | error cause => simp [openLog, Capture.Log.openAt, hcapture, hcreate, eq_comm]
    | ok opened => simp [openLog, Capture.Log.openAt, hcapture, hcreate]

/-! ### The session, step by step -/

section Steps

variable {settings : Settings} (runner : Runner σ) (world : σ) (sink : Sink) {fs : FileSystem}

/-- A fixture that cannot be read ends the session. -/
theorem run_of_readText_eq_error {cause : IoError}
    (h : fs.readText settings.testcases = .error cause) :
    run settings runner world sink fs = ⟨.error (.store (.unreadable settings.testcases cause)),
      .start settings world sink none fs⟩ := by
  simp only [run, Fixture.load, h]

/-- So does one that ends in an incomplete record, if the settings insist on complete ones. -/
theorem run_of_dangling {text : String} {i : Incomplete}
    (h : fs.readText settings.testcases = .ok text) (hstrict : settings.strict = true)
    (hdangling : dangling (fields text) = some i) :
    run settings runner world sink fs = ⟨.error (.store (.incomplete settings.testcases i)),
      .start settings world sink none fs⟩ := by
  have hcases : casesOf settings (Fixture.parse text) =
      .error (.incomplete settings.testcases i) := by
    simp only [casesOf, if_pos hstrict, Fixture.completeCases, Fixture.requireComplete,
      Fixture.parse_eq, hdangling]
  simp only [run, Fixture.load, h, hcases]

/-- Any other fixture is replayed, if the capture file can be opened. -/
theorem run_of_accepts {text : String} (h : fs.readText settings.testcases = .ok text)
    (haccepts : Accepts settings text) :
    run settings runner world sink fs =
      match openLog settings fs with
      | .error failure => ⟨.error failure, { Bench.start settings world sink none fs with
          notices := tailWarning settings (Fixture.parse text) }⟩
      | .ok (log, files) => replayOn { Bench.start settings world sink log files with
          notices := tailWarning settings (Fixture.parse text) } runner (Fixture.parse text).cases := by
  have hcases : (Fixture.parse text).cases = records (fields text) := by rw [Fixture.parse_eq]
  rw [hcases]
  simp only [run, Fixture.load, h, casesOf_parse haccepts]
  rfl

/-- Once cases are replayed, only the report can fail. -/
theorem result_replayOn (b : Bench σ) (cases : List TestCase) :
    (∃ summary, (replayOn b runner cases).result = .ok summary) ∨
      ∃ cause, (replayOn b runner cases).result = .error (.report cause) := by
  unfold replayOn
  cases b.replay runner cases with
  | ok done => exact Or.inl ⟨_, rfl⟩
  | error refused => exact Or.inr ⟨_, rfl⟩

end Steps

/-! ### Fatal errors -/

/-- Nothing has happened on a bench: nothing has been launched, its sink has not been handed anything,
and the files are what they were. -/
structure Untouched (world : σ) (sink : Sink) (fs : FileSystem) (b : Bench σ) : Prop where
  world : b.world = world
  sink : b.sink = sink
  files : b.files = fs
  log : b.log = none
  progress : b.progress = .notStarted
  launched : b.launched = []

/-- **Fatal errors come before any effect.**  A session reports that its cases cannot be had exactly if
the file cannot be read, or encodes no text, or is cut short while the settings insist on whole records.
Otherwise it reports that its capture file cannot be opened exactly if that is so.  In both cases nothing
has happened.  Otherwise all complete cases of the text are replayed, on a bench that has the log. -/
theorem run_fatal (settings : Settings) (runner : Runner σ) (world : σ) (sink : Sink)
    (fs : FileSystem) :
    let ending := run settings runner world sink fs
    ((∃ e, ending.result = .error (.store e)) ↔ Rejected settings fs) ∧
      (Rejected settings fs → Untouched world sink fs ending.bench) ∧
      (¬Rejected settings fs →
        ((∃ path cause, ending.result = .error (.capture path cause)) ↔ CaptureRefused settings fs) ∧
          (CaptureRefused settings fs → Untouched world sink fs ending.bench) ∧
          (¬CaptureRefused settings fs → ∃ text log files notices,
            fs.readBytes settings.testcases = .ok (Text.Utf8.encode text.toList) ∧
            openLog settings fs = .ok (log, files) ∧
            ending = replayOn { Bench.start settings world sink log files with notices } runner
              (Fixture.parse text).cases)) := by
  intro ending
  by_cases hrejected : Rejected settings fs
  · -- the session ends before the capture file is opened
    obtain ⟨e, hending⟩ : ∃ e, ending = ⟨.error (.store e), .start settings world sink none fs⟩ := by
      cases htext : fs.readText settings.testcases with
      | error cause => exact ⟨_, run_of_readText_eq_error runner world sink htext⟩
      | ok text =>
        have hnot : ¬Accepts settings text :=
          fun haccepts => not_rejected_iff.mpr ⟨text, htext, haccepts⟩ hrejected
        rw [Accepts, Classical.not_imp] at hnot
        obtain ⟨i, hi⟩ := Option.ne_none_iff_exists'.mp hnot.2
        exact ⟨_, run_of_dangling runner world sink htext hnot.1 hi⟩
    rw [hending]
    exact ⟨iff_of_true ⟨e, rfl⟩ hrejected, fun _ => ⟨rfl, rfl, rfl, rfl, rfl, rfl⟩,
      fun h => absurd hrejected h⟩
  · obtain ⟨text, htext, haccepts⟩ := not_rejected_iff.mp hrejected
    have hending : ending = _ := run_of_accepts runner world sink htext haccepts
    cases hopen : openLog settings fs with
    | error failure =>
      obtain ⟨path, cause, hcapture, hcreate, rfl⟩ := openLog_eq_error_iff.mp hopen
      rw [hopen] at hending
      rw [hending]
      have hrefused : CaptureRefused settings fs := ⟨path, cause, hcapture, hcreate⟩
      refine ⟨iff_of_false (fun ⟨e, he⟩ => by cases he) hrejected, fun h => absurd h hrejected,
        fun _ => ⟨iff_of_true ⟨path, cause, rfl⟩ hrefused, fun _ => ⟨rfl, rfl, rfl, rfl, rfl, rfl⟩,
          fun h => absurd hrefused h⟩⟩
    | ok opened =>
      obtain ⟨log, files⟩ := opened
      rw [hopen] at hending
      have hopened : ¬CaptureRefused settings fs := by
        rintro ⟨path, cause, hcapture, hcreate⟩
        cases hopen.symm.trans (openLog_eq_error_iff.mpr ⟨path, cause, hcapture, hcreate, rfl⟩)
      have hresult := result_replayOn runner { Bench.start settings world sink log files with
        notices := tailWarning settings (Fixture.parse text) } (Fixture.parse text).cases
      dsimp only at hending
      rw [← hending] at hresult
      refine ⟨iff_of_false ?_ hrejected, fun h => absurd h hrejected, fun _ => ⟨iff_of_false ?_ hopened,
        fun h => absurd h hopened, fun _ => ⟨text, log, files, _,
          FileSystem.readText_eq_ok_iff.mp htext, rfl, hending⟩⟩⟩
      · rintro ⟨e, he⟩
        rw [he] at hresult
        rcases hresult with ⟨_, h⟩ | ⟨_, h⟩ <;> cases h
      · rintro ⟨path, cause, he⟩
        rw [he] at hresult
        rcases hresult with ⟨_, h⟩ | ⟨_, h⟩ <;> cases h

/-! ### A session that ends before it starts -/

/-- A fixture that is cut short. -/
def tornText : String := "-a\nin\n"

/-- The file with that fixture, beside a capture file from before. -/
def tornFiles : FileSystem :=
  ⟨[(["cases"], .file (Text.Utf8.encode tornText.toList)), (["log"], .file [0x7B, 0x7D, 0x0A])], []⟩

/-- Settings that insist on complete records reject it, and the capture file is left alone. -/
theorem run_fatal_sample :
    (∃ e, (run sampleSettings (.ofSource Bench.sampleSource) 0 .unlimited tornFiles).result =
      .error (.store e)) ∧
    (run sampleSettings (.ofSource Bench.sampleSource) 0 .unlimited tornFiles).bench.files =
      tornFiles := by
  have hread : tornFiles.readBytes sampleSettings.testcases =
      .ok (Text.Utf8.encode tornText.toList) := by decide +kernel
  have hfields : ¬4 ∣ (fields tornText).length := by decide +kernel
  have hrejected : Rejected sampleSettings tornFiles := .incomplete hread rfl hfields
  obtain ⟨hstore, huntouched, -⟩ :=
    run_fatal sampleSettings (.ofSource Bench.sampleSource) 0 .unlimited tornFiles
  exact ⟨hstore.mpr hrejected, (huntouched hrejected).files⟩

end Session

end HashReplay
