import HashReplay.Proofs.Bench.Moments

/-!
# What the runner has been asked

A bench notes every invocation that it launches.  Here the runner itself takes notes: its state is
paired with the list of all invocations that it has been asked, which only the runner writes to.  Such
a runner ends every run, completed or not, with the very list that the bench has.

## Main definitions

* `Runner.watched` — a runner that notes what it has been asked.
* `Bench.watch` — a bench for that runner, on which the notes so far are the launches so far.

## Main results

* `Bench.replay_watch` — the notes of the runner are the launches of the bench.
-/

namespace HashReplay

variable {σ : Type}

/-- A runner that notes what it has been asked. -/
def Runner.watched (runner : Runner σ) : Runner (σ × List Invocation) :=
  fun invocation world files =>
    let response := runner invocation world.1 files
    ⟨response.answer, (response.world, world.2 ++ [invocation]), response.files⟩

namespace Bench

/-- The bench for the watched runner, which has been asked what has been launched. -/
def watch (b : Bench σ) : Bench (σ × List Invocation) := { b with world := (b.world, b.launched) }

end Bench

/-- What is left of a refused run, with the watched runner. -/
def Refused.watch (refused : Refused σ) : Refused (σ × List Invocation) :=
  ⟨refused.cause, refused.bench.watch⟩

/-- A moment, with the watched runner. -/
def Moment.watch (m : Moment σ) : Moment (σ × List Invocation) :=
  ⟨m.stage, m.lines, m.bench.watch⟩

namespace Bench

theorem record_watch (b : Bench σ) (r : CaseResult) (t : Timestamp) :
    b.watch.record r t = (b.record r t).watch :=
  record_comm (f := watch) (fun _ => rfl) (fun _ => rfl) (fun _ => rfl) (fun _ _ _ _ => rfl) b r t

/-- In one case the notes of the runner grow as the launches do. -/
theorem settle_watch (b : Bench σ) (runner : Runner σ) (index : Nat) (c : TestCase) :
    b.watch.settle runner.watched index c = (b.settle runner index c).watch :=
  record_watch (b.launch runner index c) _ _

theorem settleAll_watch (runner : Runner σ) (cs : List TestCase) (b : Bench σ) (index : Nat) :
    b.watch.settleAll runner.watched index cs = (b.settleAll runner index cs).watch :=
  settleAll_comm runner (fun b index c => b.settle_watch runner index c) cs b index

theorem caseMoments_watch (runner : Runner σ) : ∀ (cs : List TestCase) (b : Bench σ) (index : Nat),
    b.watch.caseMoments runner.watched index cs =
      (b.caseMoments runner index cs).map Moment.watch := by
  intro cs
  induction cs with
  | nil => intro b index; rfl
  | cons c cs ih =>
    intro b index
    rw [caseMoments, settle_watch, ih, caseMoments, List.map_cons, List.map_cons]
    rfl

theorem play_watch : ∀ (ms : List (Moment σ)) (k : Sink),
    play k (ms.map Moment.watch) = (play k ms).mapError Refused.watch := by
  intro ms
  induction ms with
  | nil => intro k; rfl
  | cons m ms ih =>
    intro k
    have hlines : m.watch.lines = m.lines := rfl
    rw [List.map_cons, play, play, hlines]
    rcases k.writeAll (Report.pieces m.lines) with ⟨_ | cause, k'⟩
    · exact ih k'
    · rfl

/-- **The notes of the runner are the launches of the bench**, however a run ends. -/
theorem replay_watch (b : Bench σ) (runner : Runner σ) (cases : List TestCase) :
    b.watch.replay runner.watched cases =
      match b.replay runner cases with
      | .ok (summary, b') => .ok (summary, b'.watch)
      | .error refused => .error refused.watch := by
  have hcomplete : b.watch.complete runner.watched cases = (b.complete runner cases).watch := by
    have hrestart : b.watch.restart = b.restart.watch := rfl
    rw [complete, hrestart, settleAll_watch]
    rfl
  have hmoments : b.watch.moments runner.watched cases =
      (b.moments runner cases).map Moment.watch := by
    have hrestart : b.watch.restart = b.restart.watch := rfl
    rw [moments, moments, List.map_cons, List.map_append, hrestart, caseMoments_watch, summary,
      hcomplete]
    rfl
  have hsink : b.watch.sink = b.sink := rfl
  -- both runs play moments with the same lines, so they get equally far
  rw [replay_eq_play, replay_eq_play, hmoments, hsink, play_watch]
  cases play b.sink (b.moments runner cases) with
  | error refused => rfl
  | ok k =>
    have hok : (Except.ok k : Except (Refused σ) Sink).mapError Refused.watch = .ok k := rfl
    rw [hok]
    simp only [Except.bind, finish, summary, hcomplete]
    cases k.flush <;> rfl

end Bench

end HashReplay
