import HashReplay.Proofs.Bench.Course
import HashReplay.Proofs.Report.Stages

/-!
# The moments of a run

Printing is the only thing that can stop a run, so a run is a list of moments: the places at which
lines are printed, each with the bench as it stands if they are refused.  The sink of the run only
decides how far it gets.

## Main definitions

* `Moment`, `Bench.moments` — where a run prints, what, and how the bench stands then.
* `Bench.play` — moments printed to a sink, up to the first that is refused.
* `Bench.course` — the attempts of a whole run.

## Main results

* `Bench.replay_eq_play` — a run is its moments, played to its sink.
* `Bench.stages_moments` — the lines of the moments are a report on the attempts of the run.
* `Bench.play_eq_error` — a run that breaks off does so at one of its moments.
* `Bench.exists_of_mem_caseMoments` — which moments there are between two cases.
-/

namespace HashReplay

/-- A place at which a run prints. -/
structure Moment (σ : Type) where
  /-- The part of the report that is printed. -/
  stage : Report.Stage
  lines : List String
  /-- The bench as it stands then; what its sink has been handed is not part of the moment. -/
  bench : Bench σ

/-- What is printed at a moment. -/
def Moment.print {σ : Type} (m : Moment σ) : Report.Stage × List String := (m.stage, m.lines)

namespace Bench

variable {σ : Type}

/-- The bench at the start of a run. -/
def restart (b : Bench σ) : Bench σ := { b with failures := 0 }

/-- The attempts of a whole run. -/
def course (b : Bench σ) (runner : Runner σ) (cases : List TestCase) : List Attempt :=
  b.restart.attempts runner 1 cases

/-- The bench when all cases have been settled. -/
def complete (b : Bench σ) (runner : Runner σ) (cases : List TestCase) : Bench σ :=
  { b.restart.settleAll runner 1 cases with progress := .completed }

/-- The totals of a run in which all cases are settled. -/
def summary (b : Bench σ) (runner : Runner σ) (cases : List TestCase) : Summary :=
  ⟨cases.length, (b.complete runner cases).failures⟩

/-! ### The moments -/

/-- The moment before a case is launched. -/
def echoMoment (b : Bench σ) (index : Nat) (c : TestCase) : Moment σ where
  stage := .echo index
  lines := Report.echo b.settings.verbosity (b.settings.builder.build c)
  bench := b.enter index

/-- The moment between the launch of a case and its record. -/
def blockMoment (b : Bench σ) (runner : Runner σ) (index : Nat) (c : TestCase) : Moment σ where
  stage := .block index
  lines := Report.caseBlock b.settings.verbosity (b.attempt runner index c).result
  bench := b.launch runner index c

/-- The moments of cases that are numbered from `index`. -/
def caseMoments (b : Bench σ) (runner : Runner σ) (index : Nat) : List TestCase → List (Moment σ)
  | [] => []
  | c :: cs =>
    b.echoMoment index c :: b.blockMoment runner index c ::
      (b.settle runner index c).caseMoments runner (index + 1) cs

/-- The moments of a whole run. -/
def moments (b : Bench σ) (runner : Runner σ) (cases : List TestCase) : List (Moment σ) :=
  ⟨.header, Report.header b.settings.verbosity cases.length b.settings.testcases, b.restart⟩ ::
    (b.restart.caseMoments runner 1 cases ++
      [⟨.closing, Report.closing (b.summary runner cases), b.complete runner cases⟩])

/-- Print moments one after another, up to the first that is refused. -/
def play (k : Sink) : List (Moment σ) → Except (Refused σ) Sink
  | [] => .ok k
  | m :: ms =>
    match k.writeAll (Report.pieces m.lines) with
    | (none, k') => play k' ms
    | (some cause, k') => .error ⟨cause, m.bench.withSink k'⟩

/-! ### A run is its moments -/

theorem play_append : ∀ (xs ys : List (Moment σ)) (k : Sink),
    play k (xs ++ ys) = (play k xs).bind fun k' => play k' ys := by
  intro xs ys
  induction xs with
  | nil => intro k; rfl
  | cons m xs ih =>
    intro k
    rw [List.cons_append, play, play]
    rcases k.writeAll (Report.pieces m.lines) with ⟨_ | cause, k'⟩
    · exact ih k'
    · rfl

/-- Printing changes nothing but the sink. -/
theorem print_withSink (b : Bench σ) (k : Sink) (ls : List String) :
    (b.withSink k).print ls =
      match k.writeAll (Report.pieces ls) with
      | (none, k') => .ok (b.withSink k')
      | (some cause, k') => .error ⟨cause, b.withSink k'⟩ := rfl

theorem flush_withSink (b : Bench σ) (k : Sink) :
    (b.withSink k).flush =
      match k.flush with
      | none => .ok (b.withSink k)
      | some cause => .error ⟨cause, b.withSink k⟩ := rfl

/-- A case is launched after its echo, and recorded after its block. -/
theorem replayCase_eq_bind (b : Bench σ) (runner : Runner σ) (index : Nat) (c : TestCase) :
    b.replayCase runner index c =
      ((b.enter index).print (b.echoMoment index c).lines).bind fun b₁ =>
        let response := runner (b.settings.builder.build c) b₁.world b₁.files
        let r := result index (b.settings.builder.build c) response.answer c
        ((b₁.afterLaunch r response).print (Report.caseBlock b₁.settings.verbosity r)).bind fun b₂ =>
          .ok (b₂.record r response.answer.finished) := by
  have henter : { b with progress := .running index } = b.enter index := rfl
  have hecho : Report.echo b.settings.verbosity (b.settings.builder.build c) =
      (b.echoMoment index c).lines := rfl
  rw [replayCase, henter, hecho]
  cases (b.enter index).print (b.echoMoment index c).lines with
  | error refused => rfl
  | ok b₁ =>
    simp only [Except.bind]
    split
    · next h => rw [h]
    · next h => rw [h]

/-- One case is its two moments. -/
theorem replayCase_eq_play (b : Bench σ) (k : Sink) (runner : Runner σ) (index : Nat)
    (c : TestCase) :
    (b.withSink k).replayCase runner index c =
      (play k [b.echoMoment index c, b.blockMoment runner index c]).map
        (b.settle runner index c).withSink := by
  have henter : (b.withSink k).enter index = (b.enter index).withSink k := rfl
  have hecho : ((b.withSink k).echoMoment index c).lines = (b.echoMoment index c).lines := rfl
  rw [replayCase_eq_bind, henter, hecho, print_withSink]
  simp only [play]
  rcases k.writeAll (Report.pieces (b.echoMoment index c).lines) with ⟨_ | cause, k₁⟩
  · -- the echo has been printed: the case is launched and counted, and its block is next
    change (((b.launch runner index c).withSink k₁).print (b.blockMoment runner index c).lines).bind
      (fun b₂ => .ok (b₂.record (b.attempt runner index c).result
        (b.attempt runner index c).answer.finished)) = _
    rw [print_withSink]
    rcases hblock : k₁.writeAll (Report.pieces (b.blockMoment runner index c).lines) with
      ⟨_ | cause, k₂⟩
    · simp only [hblock]
      exact congrArg Except.ok (record_withSink (b.launch runner index c) k₂ _ _)
    · simp only [hblock]
      rfl
  · rfl

/-- **A list of cases is its moments**, played to the sink. -/
theorem replayFrom_eq_play (runner : Runner σ) : ∀ (cs : List TestCase) (b : Bench σ) (k : Sink)
    (index : Nat), (b.withSink k).replayFrom runner index cs =
      (play k (b.caseMoments runner index cs)).map (b.settleAll runner index cs).withSink := by
  intro cs
  induction cs with
  | nil => intro b k index; rfl
  | cons c cs ih =>
    intro b k index
    have hmoments : b.caseMoments runner index (c :: cs) =
        [b.echoMoment index c, b.blockMoment runner index c] ++
          (b.settle runner index c).caseMoments runner (index + 1) cs := rfl
    rw [replayFrom, replayCase_eq_play, hmoments, play_append, settleAll]
    -- a refusal ends both sides; otherwise what is left is played on the bench with the case settled
    cases play k [b.echoMoment index c, b.blockMoment runner index c] with
    | error refused => rfl
    | ok k' => exact ih (b.settle runner index c) k' (index + 1)

/-- Flush the report of a run whose lines have all been printed. -/
def finish (b : Bench σ) (runner : Runner σ) (cases : List TestCase) (k : Sink) :
    Except (Refused σ) (Summary × Bench σ) :=
  match k.flush with
  | none => .ok (b.summary runner cases, (b.complete runner cases).withSink k)
  | some cause => .error ⟨cause, (b.complete runner cases).withSink k⟩

/-- **A run is its moments**, played to its sink, and a flush. -/
theorem replay_eq_play (b : Bench σ) (runner : Runner σ) (cases : List TestCase) :
    b.replay runner cases =
      (play b.sink (b.moments runner cases)).bind (b.finish runner cases) := by
  have hstart : { b with failures := 0 } = b.restart.withSink b.sink := rfl
  rw [replay, moments, play]
  simp only [hstart, print_withSink, play_append]
  rcases b.sink.writeAll (Report.pieces (Report.header b.settings.verbosity cases.length
    b.settings.testcases)) with ⟨_ | cause, k₁⟩
  · simp only [replayFrom_eq_play]
    cases play k₁ (b.restart.caseMoments runner 1 cases) with
    | error refused => rfl
    | ok k₂ =>
      -- what is left is the closing line and the flush
      change ((b.restart.settleAll runner 1 cases).withSink k₂).close cases.length = _
      have hdone : { (b.restart.settleAll runner 1 cases).withSink k₂ with progress := .completed } =
          (b.complete runner cases).withSink k₂ := rfl
      have hsummary : Summary.mk cases.length
          ((b.restart.settleAll runner 1 cases).withSink k₂).failures = b.summary runner cases := rfl
      rw [close]
      simp only [hdone, hsummary, print_withSink, play, Except.bind]
      rcases k₂.writeAll (Report.pieces (Report.closing (b.summary runner cases))) with
        ⟨_ | cause, k₃⟩
      · simp only [finish, flush_withSink]
        cases k₃.flush <;> rfl
      · rfl
  · rfl

/-! ### What is printed -/

/-- The results of a whole run. -/
def results (b : Bench σ) (runner : Runner σ) (cases : List TestCase) : List CaseResult :=
  (b.course runner cases).map Attempt.result

/-- The report of a whole run, by stages. -/
def report (b : Bench σ) (runner : Runner σ) (cases : List TestCase) :
    List (Report.Stage × List String) :=
  Report.stages b.settings.verbosity b.settings.testcases (b.results runner cases)

/-- A completed run counts the failures among its results. -/
theorem summary_eq (b : Bench σ) (runner : Runner σ) (cases : List TestCase) :
    b.summary runner cases = ⟨(b.results runner cases).length,
      (b.results runner cases).countP fun r => !r.passed⟩ := by
  have hfailures := failures_settleAll runner cases b.restart 1
  rw [show b.restart.failures = 0 from rfl, Nat.zero_add] at hfailures
  rw [summary, results, List.length_map, course, length_attempts, List.countP_map]
  exact congrArg (Summary.mk cases.length) hfailures

theorem stages_caseMoments (runner : Runner σ) : ∀ (cs : List TestCase) (b : Bench σ) (index : Nat),
    (b.caseMoments runner index cs).map Moment.print =
      ((b.attempts runner index cs).map Attempt.result).flatMap
        (Report.caseStages b.settings.verbosity) := by
  intro cs
  induction cs with
  | nil => intro b index; rfl
  | cons c cs ih =>
    intro b index
    rw [caseMoments, List.map_cons, List.map_cons, ih, settings_settle, attempts, List.map_cons,
      List.flatMap_cons]
    rfl

/-- **The moments print the report on the results.** -/
theorem stages_moments (b : Bench σ) (runner : Runner σ) (cases : List TestCase) :
    (b.moments runner cases).map Moment.print = b.report runner cases := by
  rw [moments, List.map_cons, List.map_append, stages_caseMoments, report, Report.stages,
    ← summary_eq]
  have hlength : (b.results runner cases).length = cases.length := by
    rw [results, List.length_map, course, length_attempts]
  rw [hlength]
  rfl

/-! ### How far a run gets -/

/-- Moments are all printed exactly when their lines are all taken. -/
theorem play_eq_ok_iff : ∀ (ms : List (Moment σ)) (k k' : Sink), play k ms = .ok k' ↔
    k.writeAll (Report.pieces (Report.linesOf (ms.map Moment.print))) = (none, k') := by
  intro ms
  induction ms with
  | nil =>
    intro k k'
    simp [play, Report.linesOf, Report.pieces]
  | cons m ms ih =>
    intro k k'
    rw [List.map_cons, Moment.print, Report.linesOf_cons, Report.pieces_append, play]
    rcases hm : k.writeAll (Report.pieces m.lines) with ⟨_ | cause, k₁⟩
    · rw [Sink.writeAll_append _ _ hm]
      exact ih k₁ k'
    · rw [Sink.writeAll_append_of_refused _ _ hm]
      simp

/-- **Moments that break off** do so at one of them: what comes before is printed, and the bench is
left as it stands then. -/
theorem play_eq_error : ∀ (ms : List (Moment σ)) {k : Sink} {refused : Refused σ},
    play k ms = .error refused → ∃ before m after, ∃ k₁ : Sink, ms = before ++ m :: after ∧
      k.writeAll (Report.pieces (Report.linesOf (before.map Moment.print))) = (none, k₁) ∧
      (k₁.writeAll (Report.pieces m.lines)).1 = some refused.cause ∧
      ∃ k₂, refused.bench = m.bench.withSink k₂ := by
  intro ms
  induction ms with
  | nil => intro k refused h; cases h
  | cons m ms ih =>
    intro k refused h
    rw [play] at h
    rcases hm : k.writeAll (Report.pieces m.lines) with ⟨_ | cause, k₁⟩
    · -- the first moment is printed, so it is a later one that is refused
      rw [hm] at h
      obtain ⟨before, m', after, k₂, rfl, htaken, hrefused⟩ := ih h
      refine ⟨m :: before, m', after, k₂, rfl, ?_, hrefused⟩
      rw [List.map_cons, Moment.print, Report.linesOf_cons, Report.pieces_append,
        Sink.writeAll_append _ _ hm]
      exact htaken
    · rw [hm] at h
      cases h
      exact ⟨[], m, ms, k, rfl, rfl, by rw [hm], k₁, rfl⟩

/-- **The moments between two cases.**  A moment of a list of cases belongs to one of them: it is the
echo or the block of that case, on the bench that has settled the cases before it. -/
theorem exists_of_mem_caseMoments (runner : Runner σ) : ∀ (cs : List TestCase) (b : Bench σ)
    (index : Nat) {m : Moment σ}, m ∈ b.caseMoments runner index cs →
    ∃ done c rest, cs = done ++ c :: rest ∧
      (m = (b.settleAll runner index done).echoMoment (index + done.length) c ∨
        m = (b.settleAll runner index done).blockMoment runner (index + done.length) c) := by
  intro cs
  induction cs with
  | nil => intro b index m hm; cases hm
  | cons c cs ih =>
    intro b index m hm
    rw [caseMoments, List.mem_cons, List.mem_cons] at hm
    rcases hm with rfl | rfl | hm
    · exact ⟨[], c, cs, rfl, Or.inl rfl⟩
    · exact ⟨[], c, cs, rfl, Or.inr rfl⟩
    · obtain ⟨done, c', rest, rfl, hm'⟩ := ih _ _ hm
      refine ⟨c :: done, c', rest, rfl, ?_⟩
      rw [settleAll, List.length_cons, Nat.add_comm done.length, ← Nat.add_assoc]
      exact hm'

end Bench

end HashReplay
