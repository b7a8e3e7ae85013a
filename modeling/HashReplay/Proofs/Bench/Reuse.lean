import HashReplay.Proofs.Bench.Calls

/-!
# A used bench is as good as a fresh one

A bench keeps its progress, its counter, its launches and its log from one call to the next, and an
earlier call may have been refused in the middle of a case.  None of this has an influence on a call:
it ends, prints, launches, counts and records as the same call does on a fresh bench, provided that the
runner gives the same answers.  A used bench differs from a fresh one only in what it had before, which
stays in front of what the call adds, and in the progress that it keeps if the header is refused.

What a call does follows from the answers that it gets: they decide the report, the report and the sink
decide where the call is refused, and that decides the rest.  So the two calls are compared by their
attempts (`Fresh.course_eq`).

## Main definitions

* `Runner.IgnoresFiles` — a runner whose answers do not depend on files.
* `Bench.Fresh` — a bench that has run nothing, and on which a runner will answer as on a used one.
* `Bench.outcome` — how a call ends.
* `Bench.RunsAs` — a call on a used bench does what it does on a fresh one.
* `Bench.renewed` — a bench as if it had not been used.

## Main results

* `Bench.play_congr` — where moments break off depends on what they print, and on nothing else.
* `Bench.callAll_runsAs` — after any calls, a call does what it does on a fresh bench.
-/

namespace HashReplay

variable {σ : Type}

/-- A runner whose answers, and whose state after them, do not depend on files. -/
def Runner.IgnoresFiles (runner : Runner σ) : Prop :=
  ∀ invocation world files files',
    (runner invocation world files).answer = (runner invocation world files').answer ∧
      (runner invocation world files).world = (runner invocation world files').world

/-- Where a log goes on in its journal has nothing to do with its records. -/
theorem Capture.Log.record_congr {l l' : Log} (h : l.journal = l'.journal) (r : Record)
    (fs : FileSystem) :
    (l.record r fs).log.journal = (l'.record r fs).log.journal ∧
      (l.record r fs).files = (l'.record r fs).files := by
  unfold record
  rw [h]
  cases l'.journal with
  | none => exact ⟨rfl, rfl⟩
  | some m =>
    cases hm : m.write r fs with
    | error e => simp only [hm, and_self]
    | ok p => simp only [hm, and_self]

namespace Bench

/-! ### Benches that are answered alike -/

/-- Two benches on which a runner answers the same: they build the same invocations, the runner is in
the same state, and it sees the same files now and later, or has nothing to do with files. -/
structure AnsweredAlike (runner : Runner σ) (b b' : Bench σ) : Prop where
  builder : b.settings.builder = b'.settings.builder
  world : b.world = b'.world
  files : b.files = b'.files ∧ b.log.map (·.journal) = b'.log.map (·.journal) ∨ runner.IgnoresFiles

section Alike

variable {runner : Runner σ} {b b' : Bench σ}

theorem AnsweredAlike.attempt_eq (h : AnsweredAlike runner b b') (index : Nat) (c : TestCase) :
    b.attempt runner index c = b'.attempt runner index c := by
  have hanswer : (b.respond runner c).answer = (b'.respond runner c).answer := by
    rw [respond, respond, h.builder, h.world]
    rcases h.files with ⟨hfiles, -⟩ | hignores
    · rw [hfiles]
    · exact (hignores _ _ _ _).1
  rw [attempt, attempt, hanswer, h.builder]

/-- With the same files and the same place in the journal, recording leads to the same again. -/
theorem record_files_congr (b b' : Bench σ) (hfiles : b.files = b'.files)
    (hjournal : b.log.map (·.journal) = b'.log.map (·.journal)) (r : CaseResult) (t : Timestamp) :
    (b.record r t).files = (b'.record r t).files ∧
      (b.record r t).log.map (·.journal) = (b'.record r t).log.map (·.journal) := by
  unfold record
  cases hlog : b.log with
  | none =>
    cases hlog' : b'.log with
    | none => simp only [hfiles, hlog, hlog', and_self]
    | some l' => simp [hlog, hlog'] at hjournal
  | some l =>
    cases hlog' : b'.log with
    | none => simp [hlog, hlog'] at hjournal
    | some l' =>
      rw [hlog, hlog', Option.map_some, Option.map_some, Option.some.injEq] at hjournal
      obtain ⟨hj, hf⟩ := Capture.Log.record_congr hjournal (recordOf r t) b.files
      simp only [Option.map_some, ← hfiles, hf, hj, and_self]

/-- After a case the benches are still answered alike. -/
theorem AnsweredAlike.settle (h : AnsweredAlike runner b b') (index : Nat) (c : TestCase) :
    AnsweredAlike runner (b.settle runner index c) (b'.settle runner index c) := by
  obtain ⟨hsettings, hworld, -⟩ := b.settle_frame runner index c
  obtain ⟨hsettings', hworld', -⟩ := b'.settle_frame runner index c
  refine ⟨by rw [hsettings, hsettings', h.builder], ?_, ?_⟩
  · rw [hworld, hworld', respond, respond, h.builder, h.world]
    rcases h.files with ⟨hfiles, -⟩ | hignores
    · rw [hfiles]
    · exact (hignores _ _ _ _).2
  · rcases h.files with ⟨hfiles, hjournal⟩ | hignores
    · have hresponse : b.respond runner c = b'.respond runner c := by
        rw [respond, respond, h.builder, h.world, hfiles]
      have hlaunched : (b.launch runner index c).files = (b'.launch runner index c).files :=
        congrArg Response.files hresponse
      have hrecord := record_files_congr (b.launch runner index c) (b'.launch runner index c)
        hlaunched hjournal (b.attempt runner index c).result (b.attempt runner index c).answer.finished
      rw [Bench.settle, Bench.settle, ← h.attempt_eq]
      exact Or.inl hrecord
    · exact Or.inr hignores

/-- **Benches that are answered alike make the same attempts.** -/
theorem AnsweredAlike.attempts_eq : ∀ (cs : List TestCase) {b b' : Bench σ} (index : Nat),
    AnsweredAlike runner b b' → b.attempts runner index cs = b'.attempts runner index cs := by
  intro cs
  induction cs with
  | nil => intro b b' index _; rfl
  | cons c cs ih =>
    intro b b' index h
    rw [attempts, attempts, h.attempt_eq, ih (index + 1) (h.settle index c)]

end Alike

/-! ### How a call ends -/

/-- How a call ends: with a summary, or with the error of its sink. -/
def outcome (b : Bench σ) (c : Call σ) : Except IoError Summary :=
  match (b.withSink c.sink).replay c.runner c.cases with
  | .ok (summary, _) => .ok summary
  | .error refused => .error refused.cause

/-- **Where moments break off** depends on what they print, and on nothing else. -/
theorem play_congr : ∀ (ms ms' : List (Moment σ)) (k : Sink),
    ms.map Moment.print = ms'.map Moment.print →
      (∃ k', play k ms = .ok k' ∧ play k ms' = .ok k') ∨
        ∃ refused refused', play k ms = .error refused ∧ play k ms' = .error refused' ∧
          refused.cause = refused'.cause ∧ refused.bench.sink = refused'.bench.sink := by
  intro ms
  induction ms with
  | nil =>
    intro ms' k h
    rw [List.map_nil, List.nil_eq, List.map_eq_nil_iff] at h
    rw [h]
    exact Or.inl ⟨k, rfl, rfl⟩
  | cons m ms ih =>
    intro ms' k h
    cases ms' with
    | nil => cases h
    | cons m' ms' =>
      rw [List.map_cons, List.map_cons, List.cons.injEq] at h
      have hlines : m.lines = m'.lines := congrArg Prod.snd h.1
      rw [play, play, hlines]
      rcases k.writeAll (Report.pieces m'.lines) with ⟨_ | cause, k'⟩
      · exact ih ms' k' h.2
      · exact Or.inr ⟨_, _, rfl, rfl, rfl, rfl⟩

/-- **The answers decide a call.**  With the same settings and the same results, two calls with one
sink end alike and print the same. -/
theorem outcome_congr {b b' : Bench σ} {c : Call σ} (hsettings : b.settings = b'.settings)
    (hresults : (b.withSink c.sink).results c.runner c.cases =
      (b'.withSink c.sink).results c.runner c.cases) :
    b.outcome c = b'.outcome c ∧ (b.call c).sink = (b'.call c).sink := by
  have hsummary : (b.withSink c.sink).summary c.runner c.cases =
      (b'.withSink c.sink).summary c.runner c.cases := by
    rw [summary_eq, summary_eq, hresults]
  have hsource : (b.withSink c.sink).settings = (b'.withSink c.sink).settings := hsettings
  have hprint : ((b.withSink c.sink).moments c.runner c.cases).map Moment.print =
      ((b'.withSink c.sink).moments c.runner c.cases).map Moment.print := by
    rw [stages_moments, stages_moments, report, report, hresults, hsource]
  have hsink (b : Bench σ) : (b.withSink c.sink).sink = c.sink := rfl
  rw [outcome, outcome, call, call, after, after, replay_eq_play, replay_eq_play, hsink, hsink]
  rcases play_congr _ _ c.sink hprint with ⟨k, h, h'⟩ | ⟨r, r', h, h', hcause, hbench⟩
  · rw [h, h']
    simp only [Except.bind, finish, hsummary]
    cases k.flush <;> exact ⟨rfl, rfl⟩
  · rw [h, h']
    simp only [Except.bind, hcause, hbench, and_self]

/-! ### Used and fresh benches -/

/-- A fresh bench `b'` for the calls that a runner is to answer as on the used bench `b`: it has run
nothing and recorded nothing, has a log if `b` has one, and the same settings; the runner is in the
same state, and there are the same files and the same place in the journal, unless the runner has
nothing to do with files. -/
structure Fresh (b : Bench σ) (runner : Runner σ) (b' : Bench σ) : Prop where
  settings : b.settings = b'.settings
  world : b.world = b'.world
  files : b.files = b'.files ∧ b.log.map (·.journal) = b'.log.map (·.journal) ∨ runner.IgnoresFiles
  progress : b'.progress = .notStarted
  failures : b'.failures = 0
  launched : b'.launched = []
  recorded : b'.recorded = b.recorded.map fun _ => []

/-- The call `c` on the used bench `b` does what it does on the fresh bench `b'`. -/
structure RunsAs (b b' : Bench σ) (c : Call σ) : Prop where
  outcome : b.outcome c = b'.outcome c
  /-- The sink has been handed the same. -/
  sink : (b.call c).sink = (b'.call c).sink
  launched : (b.call c).launched = b.launched ++ (b'.call c).launched
  failures : (b.call c).failures = (b'.call c).failures
  /-- The header is refused on both, or on neither. -/
  header : b.RefusesHeader c ↔ b'.RefusesHeader c
  progress_of_header : b.RefusesHeader c → (b.call c).progress = b.progress
  progress : ¬b.RefusesHeader c → (b.call c).progress = (b'.call c).progress
  /-- The log has the earlier records, and then those of the fresh call, numbered from one. -/
  recorded : ∃ new, (b'.call c).recorded = b.recorded.map (fun _ => new) ∧
    (b.call c).recorded = b.recorded.map (· ++ new) ∧
    new.map Capture.Record.seq = List.range' 1 new.length

section Reuse

variable {b b' : Bench σ} {c : Call σ}

/-- **On a fresh bench the same attempts are made.** -/
theorem Fresh.course_eq (h : b.Fresh c.runner b') :
    (b.withSink c.sink).course c.runner c.cases = (b'.withSink c.sink).course c.runner c.cases := by
  have halike : AnsweredAlike c.runner (b.withSink c.sink).restart (b'.withSink c.sink).restart :=
    ⟨congrArg Settings.builder h.settings, h.world, h.files⟩
  exact halike.attempts_eq c.cases 1

theorem Fresh.results_eq (h : b.Fresh c.runner b') :
    (b.withSink c.sink).results c.runner c.cases = (b'.withSink c.sink).results c.runner c.cases := by
  rw [results, results, h.course_eq]

theorem Fresh.report_eq (h : b.Fresh c.runner b') :
    (b.withSink c.sink).report c.runner c.cases = (b'.withSink c.sink).report c.runner c.cases := by
  have hsettings : (b.withSink c.sink).settings = (b'.withSink c.sink).settings := h.settings
  rw [report, report, h.results_eq, hsettings]

/-- Both benches are left at the same place. -/
theorem Fresh.standsAt (h : b.Fresh c.runner b') :
    (b.RefusesHeader c ∧
        (b.withSink c.sink).StandsAt c.runner c.cases 0 0 b.progress (b.call c) ∧
        (b'.withSink c.sink).StandsAt c.runner c.cases 0 0 b'.progress (b'.call c)) ∨
      (¬b.RefusesHeader c ∧ ∃ launches records progress,
        (b.withSink c.sink).StandsAt c.runner c.cases launches records progress (b.call c) ∧
        (b'.withSink c.sink).StandsAt c.runner c.cases launches records progress (b'.call c)) := by
  have hreport := h.report_eq
  rcases (b.withSink c.sink).after_cases c.runner c.cases with ⟨stage, hbreaks, hleft⟩ | ⟨hnone, hall⟩
  · have hbreaks' : Report.BreaksAt c.sink ((b'.withSink c.sink).report c.runner c.cases) stage :=
      hreport ▸ hbreaks
    have hleft' := leftAt_after (b := b'.withSink c.sink) hbreaks'
    have hheader (hs : stage ≠ .header) : ¬b.RefusesHeader c := fun hh => hs (hbreaks.unique hh)
    cases stage with
    | header => exact Or.inl ⟨hbreaks, hleft, hleft'⟩
    | echo i => exact Or.inr ⟨hheader nofun, _, _, _, hleft.2.2, hleft'.2.2⟩
    | block i => exact Or.inr ⟨hheader nofun, _, _, _, hleft.2.2, hleft'.2.2⟩
    | closing => exact Or.inr ⟨hheader nofun, _, _, _, hleft, hleft'⟩
    | flush => exact Or.inr ⟨hheader nofun, _, _, _, hleft, hleft'⟩
  · rcases (b'.withSink c.sink).after_cases c.runner c.cases with ⟨stage, hbreaks', -⟩ | ⟨-, hall'⟩
    · rw [← hreport] at hbreaks'
      exact absurd hbreaks' (hnone stage)
    · exact Or.inr ⟨hnone .header, _, _, _, hall, hall'⟩

/-- Two calls that are left at the same place have launched, counted and recorded the same. -/
theorem Fresh.runsAs_of_standsAt (h : b.Fresh c.runner b') {launches records : Nat}
    {p p' : Progress}
    (hleft : (b.withSink c.sink).StandsAt c.runner c.cases launches records p (b.call c))
    (hleft' : (b'.withSink c.sink).StandsAt c.runner c.cases launches records p' (b'.call c)) :
    (b.call c).launched = b.launched ++ (b'.call c).launched ∧
      (b.call c).failures = (b'.call c).failures ∧
      ∃ new, (b'.call c).recorded = b.recorded.map (fun _ => new) ∧
        (b.call c).recorded = b.recorded.map (· ++ new) ∧
        new.map Capture.Record.seq = List.range' 1 new.length := by
  have hbuilder : (b.withSink c.sink).settings.builder = (b'.withSink c.sink).settings.builder :=
    congrArg Settings.builder h.settings
  have hlaunched : (b'.withSink c.sink).launched = [] := h.launched
  have hrecorded : (b'.withSink c.sink).recorded = b.recorded.map fun _ => [] := h.recorded
  have hnew : (b.withSink c.sink).newRecords c.runner c.cases =
      (b'.withSink c.sink).newRecords c.runner c.cases := congrArg (List.map _) h.course_eq
  refine ⟨?_, ?_, ((b.withSink c.sink).newRecords c.runner c.cases).take records, ?_, ?_, ?_⟩
  · rw [hleft.launched, hleft'.launched, hlaunched, hbuilder, List.nil_append]
    rfl
  · rw [hleft.failures, hleft'.failures, h.course_eq]
  · rw [hleft'.recorded, hrecorded, Option.map_map, hnew]
    rfl
  · exact hleft.recorded
  · rw [List.map_take, map_seq_newRecords]
    exact List.ext_getElem (by simp [length_course, newRecords]) (by simp)

/-- **A call on a used bench does what it does on a fresh one.** -/
theorem Fresh.runsAs (h : b.Fresh c.runner b') : b.RunsAs b' c := by
  obtain ⟨houtcome, hsink⟩ := outcome_congr h.settings h.results_eq
  have hheader : b.RefusesHeader c ↔ b'.RefusesHeader c := by
    rw [RefusesHeader, RefusesHeader, h.report_eq]
  rcases h.standsAt with ⟨hrefused, hleft, hleft'⟩ | ⟨hrefused, n, m, p, hleft, hleft'⟩
  · obtain ⟨hlaunched, hfailures, hrecorded⟩ := h.runsAs_of_standsAt hleft hleft'
    exact {
      outcome := houtcome
      sink := hsink
      launched := hlaunched
      failures := hfailures
      header := hheader
      progress_of_header := fun _ => hleft.progress
      progress := fun hnot => absurd hrefused hnot
      recorded := hrecorded }
  · obtain ⟨hlaunched, hfailures, hrecorded⟩ := h.runsAs_of_standsAt hleft hleft'
    exact {
      outcome := houtcome
      sink := hsink
      launched := hlaunched
      failures := hfailures
      header := hheader
      progress_of_header := fun hheader => absurd hheader hrefused
      progress := fun _ => hleft.progress.trans hleft'.progress.symm
      recorded := hrecorded }

end Reuse

/-- The bench as it was before its first call, but for the state of the runner, the files and the place
in the journal. -/
def renewed (b : Bench σ) : Bench σ :=
  .start b.settings b.world b.sink (b.log.map fun l => ⟨[], l.journal⟩) b.files

/-- A renewed bench is fresh, whatever the runner looks at. -/
theorem fresh_renewed (b : Bench σ) (runner : Runner σ) : b.Fresh runner b.renewed := by
  have hjournal : b.log.map (·.journal) = b.renewed.log.map (·.journal) := by
    rw [renewed, start, Option.map_map]
    rfl
  have hrecorded : b.renewed.recorded = b.recorded.map fun _ => [] := by
    rw [recorded, recorded, renewed, start, Option.map_map, Option.map_map]
    rfl
  exact ⟨rfl, rfl, Or.inl ⟨rfl, hjournal⟩, rfl, rfl, rfl, hrecorded⟩

/-- **A bench can be used again.**  Whatever became of the calls before, a call ends, prints, launches,
counts and records as on a fresh bench for which the runner has the same answers, and a renewed bench is
such a fresh one.  The progress is that of the fresh bench too, unless the header is refused, which
leaves the progress as it was. -/
theorem callAll_runsAs (b : Bench σ) (earlier : List (Call σ)) (c : Call σ) :
    (b.callAll earlier).RunsAs (b.callAll earlier).renewed c ∧
      ∀ b', (b.callAll earlier).Fresh c.runner b' → (b.callAll earlier).RunsAs b' c :=
  ⟨(fresh_renewed _ c.runner).runsAs, fun _ h => h.runsAs⟩

/-- A call of the small run that is refused at the block of the second case. -/
def brokenCall : Call Nat := ⟨sampleCases, sampleRunner, ⟨"", .upTo 2, .noSpace, none⟩⟩

/-- A call of the small run with a sink that takes everything. -/
def wholeCall : Call Nat := ⟨sampleCases, sampleRunner, .unlimited⟩

/-- A call after a broken one, which left the bench in the second case, and the same call on a fresh
bench with a log of its own and other files. -/
theorem callAll_runsAs_sample :
    ((sampleBench .unlimited).callAll [brokenCall]).progress = .running 2 ∧
      ((sampleBench .unlimited).callAll [brokenCall]).failures = 1 ∧
      ((sampleBench .unlimited).callAll [brokenCall]).Fresh sampleRunner
        (.start (.standard "tool" "cases") 2 .unlimited (some .empty) ⟨[(["out"], .directory)], []⟩) ∧
      ((sampleBench .unlimited).callAll [brokenCall]).RunsAs
        (.start (.standard "tool" "cases") 2 .unlimited (some .empty) ⟨[(["out"], .directory)], []⟩)
        wholeCall := by
  have hfresh : ((sampleBench .unlimited).callAll [brokenCall]).Fresh sampleRunner
      (.start (.standard "tool" "cases") 2 .unlimited (some .empty) ⟨[(["out"], .directory)], []⟩) :=
    ⟨rfl, rfl, Or.inr fun _ _ _ _ => ⟨rfl, rfl⟩, rfl, rfl, rfl, rfl⟩
  exact ⟨rfl, rfl, hfresh,
    (callAll_runsAs (sampleBench .unlimited) [brokenCall] wholeCall).2 _ hfresh⟩

end Bench

end HashReplay
