import HashReplay.Proofs.Bench.Ending
import HashReplay.Proofs.FileSystem.Agreement
import Mathlib.Data.List.Forall2

/-!
# Two runs in step

Two runs of the same cases are in step as long as they print the same and their cases are answered the
same.  Then they stop at the same place, with the same error, or come to the same summary.  To show that
two runs are in step it is enough to name a relation between their benches that a case keeps; what that
relation says of two benches at the moments at which a run may be stopped, it says of the benches that
the runs leave.

Benches that agree in all that the cases are answered by are abreast: they may have different logs and
notices, and, for a runner that overlooks it, different bytes in a file.

## Main definitions

* `Bench.Simulation` — a relation that two runs keep.
* `Bench.EndsAlike` — two runs end at the same place, and leave benches that are related.
* `Bench.Abreast` — benches that agree but for their logs, their notices and some of their files.

## Main results

* `Bench.Simulation.endsAlike` — two runs in step end alike.
* `Bench.after_induction` — a run in step with itself: the invariants of runs.
* `Bench.Abreast.attempt_eq`, `Bench.Abreast.launch`, `Bench.Abreast.settle` — benches that are abreast
  are answered alike, and stay abreast.
-/

namespace HashReplay.Bench

variable {σ τ : Type}

/-- A relation that two runs keep.  `R index cases` relates benches that have still to replay `cases`,
numbered from `index`; `Q` is what is known of the benches when a run is stopped. -/
structure Simulation (runner : Runner σ) (runner' : Runner τ)
    (R : Nat → List TestCase → Bench σ → Bench τ → Prop) (Q : Bench σ → Bench τ → Prop) : Prop where
  /-- The same is asked, and the answer is the same. -/
  attempt : ∀ {index c cs b b'}, R index (c :: cs) b b' →
    b.attempt runner index c = b'.attempt runner' index c
  settle : ∀ {index c cs b b'}, R index (c :: cs) b b' →
    R (index + 1) cs (b.settle runner index c) (b'.settle runner' index c)
  related : ∀ {index cs b b'}, R index cs b b' → Q b b'
  launch : ∀ {index c cs b b'}, R index (c :: cs) b b' →
    Q (b.launch runner index c) (b'.launch runner' index c)
  /-- The same is printed. -/
  printed : ∀ {b b'}, Q b b' → b.settings.verbosity = b'.settings.verbosity ∧
    b.settings.testcases = b'.settings.testcases
  progress : ∀ {b b'}, Q b b' → ∀ progress, Q { b with progress } { b' with progress }
  sink : ∀ {b b'}, Q b b' → ∀ k, Q (b.withSink k) (b'.withSink k)

/-- Two runs end alike: with the same summary or the same error, with the same text in their sinks, and
with benches that are related. -/
inductive EndsAlike (Q : Bench σ → Bench τ → Prop) :
    Except (Refused σ) (Summary × Bench σ) → Except (Refused τ) (Summary × Bench τ) → Prop where
  | completed {summary : Summary} {left : Bench σ} {left' : Bench τ} (hsink : left.sink = left'.sink)
      (hleft : Q left left') : EndsAlike Q (.ok (summary, left)) (.ok (summary, left'))
  | refused {cause : IoError} {left : Bench σ} {left' : Bench τ} (hsink : left.sink = left'.sink)
      (hleft : Q left left') : EndsAlike Q (.error ⟨cause, left⟩) (.error ⟨cause, left'⟩)

/-- What is known of the benches may be weakened. -/
theorem EndsAlike.imp {Q Q' : Bench σ → Bench τ → Prop} (hQ : ∀ {b b'}, Q b b' → Q' b b')
    {ending : Except (Refused σ) (Summary × Bench σ)} {ending' : Except (Refused τ) (Summary × Bench τ)}
    (h : EndsAlike Q ending ending') : EndsAlike Q' ending ending' := by
  cases h with
  | completed hsink hleft => exact .completed hsink (hQ hleft)
  | refused hsink hleft => exact .refused hsink (hQ hleft)

/-- Two runs that end as a third one does end alike. -/
theorem EndsAlike.join {υ : Type} {Q : Bench σ → Bench τ → Prop} {Q' : Bench σ → Bench υ → Prop}
    {Q'' : Bench τ → Bench υ → Prop} (hQ : ∀ {b b' b''}, Q b b' → Q' b b'' → Q'' b' b'')
    {ending : Except (Refused σ) (Summary × Bench σ)} {ending' : Except (Refused τ) (Summary × Bench τ)}
    {ending'' : Except (Refused υ) (Summary × Bench υ)} (h : EndsAlike Q ending ending')
    (h' : EndsAlike Q' ending ending'') : EndsAlike Q'' ending' ending'' := by
  cases h with
  | completed hsink hleft =>
    cases h' with
    | completed hsink' hleft' => exact .completed (hsink.symm.trans hsink') (hQ hleft hleft')
  | refused hsink hleft =>
    cases h' with
    | refused hsink' hleft' => exact .refused (hsink.symm.trans hsink') (hQ hleft hleft')

/-- Two moments at which the same is printed, on benches that are related. -/
structure MomentsAlike (Q : Bench σ → Bench τ → Prop) (m : Moment σ) (m' : Moment τ) : Prop where
  print : m.print = m'.print
  bench : Q m.bench m'.bench

namespace Simulation

variable {runner : Runner σ} {runner' : Runner τ}
  {R : Nat → List TestCase → Bench σ → Bench τ → Prop} {Q : Bench σ → Bench τ → Prop}
  {b : Bench σ} {b' : Bench τ}

/-- The same attempts are made. -/
theorem attempts_eq (h : Simulation runner runner' R Q) : ∀ (cs : List TestCase) {b : Bench σ}
    {b' : Bench τ} {index : Nat}, R index cs b b' →
      b.attempts runner index cs = b'.attempts runner' index cs := by
  intro cs
  induction cs with
  | nil => intro b b' index _; rfl
  | cons c cs ih =>
    intro b b' index hR
    rw [attempts, attempts, h.attempt hR, ih (h.settle hR)]

/-- The benches stay related to the end. -/
theorem settleAll (h : Simulation runner runner' R Q) : ∀ (cs : List TestCase) {b : Bench σ}
    {b' : Bench τ} {index : Nat}, R index cs b b' →
      Q (b.settleAll runner index cs) (b'.settleAll runner' index cs) := by
  intro cs
  induction cs with
  | nil => intro b b' index hR; exact h.related hR
  | cons c cs ih => intro b b' index hR; exact ih (h.settle hR)

/-- At every moment of the cases the same is printed, and the benches are related. -/
theorem caseMoments (h : Simulation runner runner' R Q) : ∀ (cs : List TestCase) {b : Bench σ}
    {b' : Bench τ} {index : Nat}, R index cs b b' →
      List.Forall₂ (MomentsAlike Q) (b.caseMoments runner index cs)
        (b'.caseMoments runner' index cs) := by
  intro cs
  induction cs with
  | nil => intro b b' index _; exact .nil
  | cons c cs ih =>
    intro b b' index hR
    have hattempt := h.attempt hR
    have hbuild : b.settings.builder.build c = b'.settings.builder.build c :=
      congrArg Attempt.invocation hattempt
    obtain ⟨hverbosity, -⟩ := h.printed (h.related hR)
    refine .cons ⟨?_, h.progress (h.related hR) _⟩ (.cons ⟨?_, h.launch hR⟩ (ih (h.settle hR)))
    · simp only [Moment.print, echoMoment, hverbosity, hbuild]
    · simp only [Moment.print, blockMoment, hverbosity, hattempt]

end Simulation

/-- Moments that are alike are all printed, or are refused at the same place. -/
theorem play_alike {Q : Bench σ → Bench τ → Prop}
    (hsink : ∀ {b b'}, Q b b' → ∀ k, Q (b.withSink k) (b'.withSink k)) {ms : List (Moment σ)}
    {ms' : List (Moment τ)} (h : List.Forall₂ (MomentsAlike Q) ms ms') : ∀ k : Sink,
    (∃ k', play k ms = .ok k' ∧ play k ms' = .ok k') ∨
      ∃ cause left left', play k ms = .error ⟨cause, left⟩ ∧ play k ms' = .error ⟨cause, left'⟩ ∧
        left.sink = left'.sink ∧ Q left left' := by
  induction h with
  | nil => intro k; exact Or.inl ⟨k, rfl, rfl⟩
  | cons hm _ ih =>
    intro k
    have hlines := congrArg Prod.snd hm.print
    simp only [Moment.print] at hlines
    rw [play, play, hlines]
    rcases k.writeAll (Report.pieces _) with ⟨_ | cause, k'⟩
    · exact ih k'
    · exact Or.inr ⟨cause, _, _, rfl, rfl, rfl, hsink hm.bench k'⟩

/-- **Two runs in step end alike.** -/
theorem Simulation.endsAlike {runner : Runner σ} {runner' : Runner τ}
    {R : Nat → List TestCase → Bench σ → Bench τ → Prop} {Q : Bench σ → Bench τ → Prop}
    (h : Simulation runner runner' R Q) {b : Bench σ} {b' : Bench τ} {cases : List TestCase}
    (hR : R 1 cases b.restart b'.restart) (hsink : b.sink = b'.sink) :
    EndsAlike Q (b.replay runner cases) (b'.replay runner' cases) := by
  have hstart := h.related hR
  obtain ⟨hverbosity, hsource⟩ := h.printed hstart
  have hcourse : b.course runner cases = b'.course runner' cases := h.attempts_eq cases hR
  have hsummary : b.summary runner cases = b'.summary runner' cases := by
    rw [summary_eq, summary_eq, results, results, hcourse]
  have hcomplete : Q (b.complete runner cases) (b'.complete runner' cases) :=
    h.progress (h.settleAll cases hR) .completed
  have hmoments : List.Forall₂ (MomentsAlike Q) (b.moments runner cases)
      (b'.moments runner' cases) := by
    refine .cons ⟨?_, hstart⟩ (List.rel_append (h.caseMoments cases hR) (.cons ⟨?_, hcomplete⟩ .nil))
    · exact congrArg (Prod.mk Report.Stage.header)
        (congr (congrArg (Report.header · cases.length) hverbosity) hsource)
    · simp only [Moment.print, hsummary]
  rw [replay_eq_play, replay_eq_play, hsink]
  rcases play_alike h.sink hmoments b'.sink with ⟨k, hk, hk'⟩ | ⟨cause, left, left', hl, hl', hs, hQ⟩
  · rw [hk, hk']
    simp only [Except.bind, finish, hsummary]
    cases k.flush with
    | none => exact .completed rfl (h.sink hcomplete k)
    | some cause => exact .refused rfl (h.sink hcomplete k)
  · rw [hl, hl']
    exact .refused hs hQ

/-- **An invariant of a run**: what every case keeps, from its launch on, is kept by the run, however it
ends. -/
theorem after_induction {P : Bench σ → Prop} {runner : Runner σ}
    (hlaunch : ∀ {b}, P b → ∀ index c, P (b.launch runner index c))
    (hsettle : ∀ {b}, P b → ∀ index c, P (b.settle runner index c))
    (hprogress : ∀ {b}, P b → ∀ progress, P { b with progress })
    (hsink : ∀ {b}, P b → ∀ k, P (b.withSink k)) {b : Bench σ} {cases : List TestCase}
    (h : P b.restart) : P (b.after runner cases) := by
  -- the run is in step with itself
  have hsimulation : Simulation runner runner (fun _ _ b b' => b = b' ∧ P b)
      (fun b b' => b = b' ∧ P b) :=
    { attempt := by rintro index c cs b _ ⟨rfl, -⟩; rfl
      settle := by rintro index c cs b _ ⟨rfl, h⟩; exact ⟨rfl, hsettle h index c⟩
      related := fun h => h
      launch := by rintro index c cs b _ ⟨rfl, h⟩; exact ⟨rfl, hlaunch h index c⟩
      printed := by rintro b _ ⟨rfl, -⟩; exact ⟨rfl, rfl⟩
      progress := by rintro b _ ⟨rfl, h⟩ progress; exact ⟨rfl, hprogress h progress⟩
      sink := by rintro b _ ⟨rfl, h⟩ k; exact ⟨rfl, hsink h k⟩ }
  have hends : EndsAlike (fun b b' => b = b' ∧ P b) (b.replay runner cases) (b.replay runner cases) :=
    hsimulation.endsAlike ⟨rfl, h⟩ rfl
  rw [after]
  generalize b.replay runner cases = ending at hends
  cases hends with
  | completed _ hleft => exact hleft.2
  | refused _ hleft => exact hleft.2

/-! ### Benches that are abreast -/

/-- Benches of one runner that agree in all that a run prints and counts and in all that its cases are
answered by.  Of their files the runner makes the same if they are related by `S`. -/
structure Abreast (S : FileSystem → FileSystem → Prop) (b b' : Bench σ) : Prop where
  builder : b.settings.builder = b'.settings.builder
  verbosity : b.settings.verbosity = b'.settings.verbosity
  testcases : b.settings.testcases = b'.settings.testcases
  world : b.world = b'.world
  progress : b.progress = b'.progress
  failures : b.failures = b'.failures
  launched : b.launched = b'.launched
  files : S b.files b'.files

section Abreast

variable {S : FileSystem → FileSystem → Prop} {runner : Runner σ} {b b' : Bench σ}

/-- **Benches that are abreast are answered alike.** -/
theorem Abreast.attempt_eq (h : Abreast S b b') (hrunner : runner.Respects S) (index : Nat)
    (c : TestCase) : b.attempt runner index c = b'.attempt runner index c := by
  obtain ⟨hanswer, -, -⟩ := hrunner (b'.settings.builder.build c) b'.world _ _ h.files
  simp only [attempt, respond, h.builder, h.world, hanswer]

/-- **They are abreast after a launch**, and have got the same notices from it. -/
theorem Abreast.launch (h : Abreast S b b') (hrunner : runner.Respects S) (index : Nat)
    (c : TestCase) :
    Abreast S (b.launch runner index c) (b'.launch runner index c) ∧
      ∃ added, (b.launch runner index c).notices = b.notices ++ added ∧
        (b'.launch runner index c).notices = b'.notices ++ added := by
  obtain ⟨hanswer, hworld, hfiles⟩ := hrunner (b'.settings.builder.build c) b'.world _ _ h.files
  have hattempt := h.attempt_eq hrunner index c
  refine ⟨⟨h.builder, h.verbosity, h.testcases, ?_, rfl, ?_, ?_, ?_⟩, _, rfl, ?_⟩
  · simp only [Bench.launch, afterLaunch, respond, enter, h.builder, h.world, hworld]
  · have hfailures : (b.enter index).failures = (b'.enter index).failures := h.failures
    simp only [Bench.launch, afterLaunch, hattempt, hfailures]
  · have hlaunched : (b.enter index).launched = (b'.enter index).launched := h.launched
    simp only [Bench.launch, afterLaunch, hattempt, hlaunched]
  · simpa only [Bench.launch, afterLaunch, respond, enter, h.builder, h.world] using hfiles
  · simp only [Bench.launch, afterLaunch, respond, enter, h.builder, h.world, hanswer]

/-- Recording keeps benches abreast if it keeps their files related. -/
theorem Abreast.record (h : Abreast S b b') {r r' : CaseResult} {t t' : Timestamp}
    (hfiles : S (b.record r t).files (b'.record r' t').files) :
    Abreast S (b.record r t) (b'.record r' t') := by
  obtain ⟨log, files, notices, hb⟩ := record_eq b r t
  obtain ⟨log', files', notices', hb'⟩ := record_eq b' r' t'
  rw [hb, hb'] at hfiles ⊢
  exact ⟨h.builder, h.verbosity, h.testcases, h.world, h.progress, h.failures, h.launched, hfiles⟩

/-- **They are abreast when the case is settled**, if recording it keeps their files related. -/
theorem Abreast.settle (h : Abreast S b b') (hrunner : runner.Respects S) {index : Nat} {c : TestCase}
    (hfiles : S (b.settle runner index c).files (b'.settle runner index c).files) :
    Abreast S (b.settle runner index c) (b'.settle runner index c) :=
  (h.launch hrunner index c).1.record hfiles

theorem Abreast.restart (h : Abreast S b b') : Abreast S b.restart b'.restart :=
  ⟨h.builder, h.verbosity, h.testcases, h.world, h.progress, rfl, h.launched, h.files⟩

theorem Abreast.withProgress (h : Abreast S b b') (progress : Progress) :
    Abreast S { b with progress } { b' with progress } :=
  ⟨h.builder, h.verbosity, h.testcases, h.world, rfl, h.failures, h.launched, h.files⟩

theorem Abreast.withSink (h : Abreast S b b') (k : Sink) : Abreast S (b.withSink k) (b'.withSink k) :=
  ⟨h.builder, h.verbosity, h.testcases, h.world, h.progress, h.failures, h.launched, h.files⟩

/-- Two benches that are abreast of a third one are abreast. -/
theorem Abreast.join {S' S'' : FileSystem → FileSystem → Prop} {b'' : Bench σ} (h : Abreast S b b')
    (h' : Abreast S' b b'') (hfiles : S'' b'.files b''.files) : Abreast S'' b' b'' :=
  ⟨h.builder.symm.trans h'.builder, h.verbosity.symm.trans h'.verbosity,
    h.testcases.symm.trans h'.testcases, h.world.symm.trans h'.world,
    h.progress.symm.trans h'.progress, h.failures.symm.trans h'.failures,
    h.launched.symm.trans h'.launched, hfiles⟩

end Abreast

end HashReplay.Bench
