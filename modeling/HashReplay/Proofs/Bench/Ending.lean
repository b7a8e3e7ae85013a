import HashReplay.Proofs.Bench.Refusal

/-!
# How a run ends

A run has two endings.  Either its report is refused at one stage, and the bench is left as that stage
says, or it is refused nowhere, and then the whole report has been taken and the bench is complete.
What a run leaves can thus be read off its report and its sink alone.

## Main definitions

* `after` — the bench that a run leaves, however it ends.

## Main results

* `replay_eq_ok` — what is left of a run that is not refused.
* `after_cases` — the two endings.
-/

namespace HashReplay.Bench

variable {σ : Type}

/-- The bench that a run leaves, however it ends. -/
def after (b : Bench σ) (runner : Runner σ) (cases : List TestCase) : Bench σ :=
  match b.replay runner cases with
  | .ok (_, b') => b'
  | .error refused => refused.bench

section Ending

variable {b : Bench σ} {runner : Runner σ} {cases : List TestCase}

/-- **A run that is not refused** has printed and flushed its whole report, and leaves the bench
complete. -/
theorem replay_eq_ok {summary : Summary} {b' : Bench σ}
    (h : b.replay runner cases = .ok (summary, b')) :
    summary = b.summary runner cases ∧ ∃ k, b' = (b.complete runner cases).withSink k ∧
      b.sink.writeAll (Report.pieces (Report.linesOf (b.report runner cases))) = (none, k) ∧
      k.flush = none := by
  rw [replay_eq_play] at h
  cases hplay : play b.sink (b.moments runner cases) with
  | error refused =>
    rw [hplay] at h
    cases h
  | ok k =>
    rw [hplay] at h
    simp only [Except.bind, finish] at h
    cases hflush : k.flush with
    | some cause =>
      rw [hflush] at h
      cases h
    | none =>
      rw [hflush] at h
      cases h
      rw [play_eq_ok_iff, stages_moments] at hplay
      exact ⟨rfl, k, rfl, hplay, hflush⟩

/-- A complete bench has launched, counted and recorded every case. -/
theorem standsAt_complete (b : Bench σ) (runner : Runner σ) (cases : List TestCase) :
    b.StandsAt runner cases cases.length cases.length .completed (b.complete runner cases) := by
  -- it is the bench of the closing moment
  have hmem : ⟨.closing, Report.closing (b.summary runner cases), b.complete runner cases⟩ ∈
      b.moments runner cases := by simp [moments]
  exact leftAt_of_mem_moments hmem

/-- **The two endings of a run.** -/
theorem after_cases (b : Bench σ) (runner : Runner σ) (cases : List TestCase) :
    (∃ stage, Report.BreaksAt b.sink (b.report runner cases) stage ∧
        b.LeftAt runner cases stage (b.after runner cases)) ∨
      ((∀ stage, ¬Report.BreaksAt b.sink (b.report runner cases) stage) ∧
        b.StandsAt runner cases cases.length cases.length .completed (b.after runner cases)) := by
  rw [after]
  rcases h : b.replay runner cases with refused | ⟨summary, b'⟩
  · exact Or.inl (exists_breaksAt h)
  · obtain ⟨-, k, rfl, htaken, hflush⟩ := replay_eq_ok h
    exact Or.inr ⟨Report.not_breaksAt htaken hflush,
      (b.standsAt_complete runner cases).withSink k⟩

/-- If a report breaks off at a stage, the run has left what that stage says. -/
theorem leftAt_after {stage : Report.Stage}
    (h : Report.BreaksAt b.sink (b.report runner cases) stage) :
    b.LeftAt runner cases stage (b.after runner cases) := by
  rcases b.after_cases runner cases with ⟨stage', hbreaks, hleft⟩ | ⟨hnone, -⟩
  · rwa [h.unique hbreaks]
  · exact absurd h (hnone stage)

end Ending

end HashReplay.Bench
