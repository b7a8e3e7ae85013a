import HashReplay.Proofs.Bench.Accounting

/-!
# What a refused run leaves behind

A run whose report is refused stops where it is.  How far its launches, its counter and its records
have come then depends on the stage of the report that was refused, and on nothing else: a case is
launched and counted between its echo and its block, and recorded after its block.

## Main definitions

* `StandsAt` — so many cases have been launched, and so many recorded.
* `LeftAt` — what a run leaves that is refused at a stage.

## Main results

* `leftAt_of_mem_moments` — at every moment of a run the bench stands as the stage says.
* `replay_refused` — a refused run was refused at one stage, and left what that stage says.
-/

namespace HashReplay.Bench

variable {σ : Type}

/-- A bench `b'` as a run of `b` leaves it when so many cases have been launched, and so many of them
recorded. -/
structure StandsAt (b : Bench σ) (runner : Runner σ) (cases : List TestCase)
    (launches records : Nat) (progress : Progress) (b' : Bench σ) : Prop where
  progress : b'.progress = progress
  launched : b'.launched = b.launched ++ (cases.take launches).map b.settings.builder.build
  /-- What has been launched has been counted. -/
  failures : b'.failures = ((b.course runner cases).take launches).countP fun a => !a.passed
  recorded : b'.recorded = b.recorded.map (· ++ (b.newRecords runner cases).take records)

/-- A bench `b'` as a run of `b` leaves it when its report is refused at a stage. -/
def LeftAt (b : Bench σ) (runner : Runner σ) (cases : List TestCase) :
    Report.Stage → Bench σ → Prop
  | .header, b' => b.StandsAt runner cases 0 0 b.progress b'
  | .echo i, b' =>
    1 ≤ i ∧ i ≤ cases.length ∧ b.StandsAt runner cases (i - 1) (i - 1) (.running i) b'
  | .block i, b' =>
    1 ≤ i ∧ i ≤ cases.length ∧ b.StandsAt runner cases i (i - 1) (.running i) b'
  | .closing, b' | .flush, b' =>
    b.StandsAt runner cases cases.length cases.length .completed b'

section Left

variable {b : Bench σ} {runner : Runner σ}

/-- The sink of a bench has no part in where the bench stands. -/
theorem StandsAt.withSink {cases : List TestCase} {launches records : Nat} {progress : Progress}
    {b' : Bench σ} (h : b.StandsAt runner cases launches records progress b') (k : Sink) :
    b.StandsAt runner cases launches records progress (b'.withSink k) :=
  ⟨h.progress, h.launched, h.failures, h.recorded⟩

theorem LeftAt.withSink {cases : List TestCase} {stage : Report.Stage} {b' : Bench σ}
    (h : b.LeftAt runner cases stage b') (k : Sink) :
    b.LeftAt runner cases stage (b'.withSink k) := by
  cases stage with
  | header => exact StandsAt.withSink h k
  | echo i => exact ⟨h.1, h.2.1, h.2.2.withSink k⟩
  | block i => exact ⟨h.1, h.2.1, h.2.2.withSink k⟩
  | closing => exact StandsAt.withSink h k
  | flush => exact StandsAt.withSink h k

/-! ### The moments of a run -/

/-- The cases that follow have no influence on the course of a run so far. -/
theorem take_course (b : Bench σ) (runner : Runner σ) (done rest : List TestCase) :
    (b.course runner (done ++ rest)).take done.length = b.course runner done := by
  rw [course, attempts_append, ← course, List.take_left' (b.length_course runner done)]

/-- When some cases of a run have been settled, they are launched, counted and recorded. -/
theorem settleAll_done (b : Bench σ) (runner : Runner σ) (done rest : List TestCase) :
    (b.restart.settleAll runner 1 done).launched = b.launched ++
        ((done ++ rest).take done.length).map b.settings.builder.build ∧
      (b.restart.settleAll runner 1 done).failures =
        ((b.course runner (done ++ rest)).take done.length).countP (fun a => !a.passed) ∧
      (b.restart.settleAll runner 1 done).recorded =
        b.recorded.map (· ++ (b.newRecords runner (done ++ rest)).take done.length) := by
  rw [newRecords, ← List.map_take, take_course, List.take_left]
  exact ⟨launched_complete b runner done, failures_complete b runner done,
    recorded_complete b runner done⟩

/-- **At every moment of a run** the bench stands as the stage says. -/
theorem leftAt_of_mem_moments {cases : List TestCase} {m : Moment σ}
    (hm : m ∈ b.moments runner cases) : b.LeftAt runner cases m.stage m.bench := by
  rw [moments, List.mem_cons, List.mem_append, List.mem_singleton] at hm
  rcases hm with rfl | hm | rfl
  · have h := b.settleAll_done runner [] cases
    exact ⟨rfl, h.1, h.2.1, h.2.2⟩
  · obtain ⟨done, c, rest, rfl, hm'⟩ := exists_of_mem_caseMoments runner cases b.restart 1 hm
    obtain ⟨hlaunched, hfailures, hrecorded⟩ := b.settleAll_done runner done (c :: rest)
    have hpos : 1 ≤ 1 + done.length := Nat.le_add_right 1 _
    have hle : 1 + done.length ≤ (done ++ c :: rest).length := by
      rw [List.length_append, List.length_cons]
      omega
    have hpred : 1 + done.length - 1 = done.length := Nat.add_sub_cancel_left ..
    rcases hm' with rfl | rfl
    · refine ⟨hpos, hle, ?_⟩
      rw [hpred]
      exact ⟨rfl, hlaunched, hfailures, hrecorded⟩
    · -- the case of the block is launched and counted as if it were settled, but not recorded
      obtain ⟨hlaunched', hfailures', -⟩ := b.settleAll_done runner (done ++ [c]) rest
      rw [List.append_assoc, List.length_append, List.length_singleton, Nat.add_comm done.length,
        settleAll_append] at hlaunched' hfailures'
      obtain ⟨-, -, -, hl, hf⟩ :=
        (b.restart.settleAll runner 1 done).settle_frame runner (1 + done.length) c
      refine ⟨hpos, hle, rfl, ?_, ?_, ?_⟩
      · exact hl.symm.trans hlaunched'
      · exact hf.symm.trans hfailures'
      · rw [hpred]
        exact hrecorded
  · have h := b.settleAll_done runner cases []
    rw [List.append_nil] at h
    exact ⟨rfl, h.1, h.2.1, h.2.2⟩

/-! ### Refused runs -/

/-- Where a run was refused, and what it has left. -/
theorem exists_breaksAt {cases : List TestCase} {refused : Refused σ}
    (h : b.replay runner cases = .error refused) :
    ∃ stage, Report.BreaksAt b.sink (b.report runner cases) stage ∧
      b.LeftAt runner cases stage refused.bench := by
  rw [replay_eq_play] at h
  cases hplay : play b.sink (b.moments runner cases) with
  | error r =>
    rw [hplay] at h
    cases h
    obtain ⟨before, m, after, k₁, hms, htaken, hrefused, k₂, hbench⟩ := play_eq_error _ hplay
    have hreport : b.report runner cases =
        before.map Moment.print ++ (m.stage, m.lines) :: after.map Moment.print := by
      rw [← stages_moments, hms, List.map_append, List.map_cons]
      rfl
    refine ⟨m.stage, .write hreport htaken ?_, ?_⟩
    · rw [hrefused]
      exact Option.some_ne_none _
    · rw [hbench]
      have hm : m ∈ b.moments runner cases := hms ▸ List.mem_append_cons_self
      exact (leftAt_of_mem_moments hm).withSink k₂
  | ok k =>
    rw [hplay] at h
    rw [play_eq_ok_iff, stages_moments] at hplay
    simp only [Except.bind, finish] at h
    cases hflush : k.flush with
    | none => rw [hflush] at h; cases h
    | some cause =>
      rw [hflush] at h
      cases h
      -- the bench that waits for the flush is the one of the closing line
      have hclosing : b.LeftAt runner cases .flush (b.complete runner cases) :=
        leftAt_of_mem_moments (m := ⟨.closing, Report.closing (b.summary runner cases),
          b.complete runner cases⟩) (by simp [moments])
      refine ⟨.flush, .flush hplay ?_, hclosing.withSink k⟩
      rw [hflush]
      exact Option.some_ne_none _

/-- What is left at a stage is launched and recorded in order: a part of what a run launches and
records that is not refused. -/
theorem LeftAt.part_of_complete {cases : List TestCase} {stage : Report.Stage} {b' : Bench σ}
    (h : b.LeftAt runner cases stage b') :
    b'.launched <+: (b.complete runner cases).launched ∧
      ∃ new, b'.recorded = b.recorded.map (· ++ new) ∧ new <+: b.newRecords runner cases := by
  -- whatever the stage is, what is launched and recorded is the start of a list
  obtain ⟨launches, records, progress, h⟩ : ∃ launches records progress,
      b.StandsAt runner cases launches records progress b' := by
    cases stage with
    | header => exact ⟨_, _, _, h⟩
    | echo i => exact ⟨_, _, _, h.2.2⟩
    | block i => exact ⟨_, _, _, h.2.2⟩
    | closing => exact ⟨_, _, _, h⟩
    | flush => exact ⟨_, _, _, h⟩
  refine ⟨?_, _, h.recorded, List.take_prefix _ _⟩
  rw [h.launched, launched_complete]
  exact (List.prefix_append_right_inj _).mpr ((List.take_prefix _ _).map _)

end Left

/-- **What a refused run leaves behind.**  Its report was refused at one stage, and at no other.  What
has been launched, counted and recorded by then is what that stage says (`LeftAt`): nothing at the
header; at the echo of a case, the cases before it; at the block of a case, that case too, except that
it is not recorded; at the closing line or the flush, everything.  The runner has been asked just what
has been launched.  A run with a sink that never refuses goes on from there. -/
theorem replay_refused {b : Bench σ} {runner : Runner σ} {cases : List TestCase}
    {refused : Refused σ} (h : b.replay runner cases = .error refused) :
    ∃ stage, Report.BreaksAt b.sink (b.report runner cases) stage ∧
      (∀ stage', Report.BreaksAt b.sink (b.report runner cases) stage' → stage' = stage) ∧
      b.LeftAt runner cases stage refused.bench ∧
      b.watch.replay runner.watched cases = .error refused.watch ∧
      ∃ summary done new rest,
        (b.withSink .unlimited).replay runner cases = .ok (summary, done) ∧
        refused.bench.launched <+: done.launched ∧
        refused.bench.recorded = b.recorded.map (· ++ new) ∧
        done.recorded = b.recorded.map (· ++ (new ++ rest)) := by
  obtain ⟨stage, hbreaks, hleft⟩ := exists_breaksAt h
  have hwatch := b.replay_watch runner cases
  rw [h] at hwatch
  obtain ⟨hlaunched, new, hrecorded, rest, hrest⟩ := hleft.part_of_complete
  have hreplay := (b.withSink .unlimited).replay_of_takesAll runner cases Sink.takesAll_unlimited
  have hcomplete (k : Sink) : ((b.withSink .unlimited).complete runner cases).withSink k =
      (b.complete runner cases).withSink k := by
    have hrestart : (b.withSink .unlimited).restart = b.restart.withSink .unlimited := rfl
    rw [complete, hrestart, settleAll_withSink]
    rfl
  refine ⟨stage, hbreaks, fun _ h' => h'.unique hbreaks, hleft, hwatch, _, _, new, rest, hreplay, ?_,
    hrecorded, ?_⟩
  · rw [hcomplete]
    exact hlaunched
  · rw [hcomplete, hrest]
    exact recorded_complete b runner cases

/-- A sink that is full after two lines refuses the block of the second case, which has been launched
by then and is not recorded. -/
theorem replay_refused_sample : ∃ refused,
    (sampleBench ⟨"", .upTo 2, .noSpace, none⟩).replay sampleRunner sampleCases = .error refused ∧
      refused.bench.progress = .running 2 ∧ refused.bench.launched.length = 2 ∧
      refused.bench.failures = 1 ∧ refused.bench.recorded.map List.length = some 1 ∧
      ∃ stage, (sampleBench ⟨"", .upTo 2, .noSpace, none⟩).LeftAt sampleRunner sampleCases stage
        refused.bench := by
  obtain ⟨refused, h, hbench⟩ : ∃ refused,
      (sampleBench ⟨"", .upTo 2, .noSpace, none⟩).replay sampleRunner sampleCases = .error refused ∧
        refused.bench.progress = .running 2 ∧ refused.bench.launched.length = 2 ∧
        refused.bench.failures = 1 ∧ refused.bench.recorded.map List.length = some 1 :=
    ⟨_, rfl, rfl, rfl, rfl, rfl⟩
  obtain ⟨stage, -, -, hleft, -⟩ := replay_refused h
  exact ⟨refused, h, hbench.1, hbench.2.1, hbench.2.2.1, hbench.2.2.2, stage, hleft⟩

end HashReplay.Bench
