import HashReplay.Proofs.Bench.Ending
import Mathlib.Data.List.Induction

/-!
# One bench, many runs

A bench can be used again, whatever became of the runs before.  A run starts by setting the counter of
failures to zero, and it only changes the progress when its header has been printed.  A completed bench
that is used again and whose header is refused therefore stays completed, with a counter of zero that
belongs to no run.  This is the only way in which a completed bench does not count what the latest run
came to in which every case was executed.

## Main definitions

* `Call`, `Bench.call`, `Bench.callAll` — runs on one bench, one after another.
* `Bench.tallies` — what the runs in which every case was executed came to.
* `Bench.TellsTruth` — a completed bench counts the failures of the latest of these runs.

## Main results

* `Bench.call_cases` — what one run does to the progress and the counter.
* `Bench.failures_of_completed` — what a completed bench counts after any number of runs.
* `Bench.forgotten_failures` — a completed bench that counts nothing.
-/

namespace HashReplay

/-- A run on a bench that may have been used before: its cases, and how the runner and the sink behave
from then on. -/
structure Call (σ : Type) where
  cases : List TestCase
  runner : Runner σ
  sink : Sink

namespace Bench

variable {σ : Type}

/-- The bench after a call, however the run ends. -/
def call (b : Bench σ) (c : Call σ) : Bench σ := (b.withSink c.sink).after c.runner c.cases

/-- The bench after several calls. -/
def callAll (b : Bench σ) (calls : List (Call σ)) : Bench σ := calls.foldl call b

/-- Whether every case of a call is executed. -/
def executes (b : Bench σ) (c : Call σ) : Bool :=
  (b.call c).launched.length == b.launched.length + c.cases.length

/-- How many cases of a call do not pass, of those that it executes. -/
def nonPasses (b : Bench σ) (c : Call σ) : Nat :=
  ((b.withSink c.sink).course c.runner c.cases).countP fun a => !a.passed

/-- Of the calls in which every case is executed, how many cases did not pass. -/
def tallies (b : Bench σ) : List (Call σ) → List Nat
  | [] => []
  | c :: cs => (if b.executes c then [b.nonPasses c] else []) ++ (b.call c).tallies cs

/-- If the bench is completed after these calls, it counts the cases that did not pass in the latest
call in which every case was executed. -/
def TellsTruth (b : Bench σ) (calls : List (Call σ)) : Prop :=
  (b.callAll calls).progress = .completed →
    (b.tallies calls).getLast? = some (b.callAll calls).failures

/-- The header of a call is refused. -/
def RefusesHeader (b : Bench σ) (c : Call σ) : Prop :=
  Report.BreaksAt c.sink ((b.withSink c.sink).report c.runner c.cases) .header

theorem callAll_concat (b : Bench σ) (cs : List (Call σ)) (c : Call σ) :
    b.callAll (cs ++ [c]) = (b.callAll cs).call c := by
  rw [callAll, List.foldl_append]
  rfl

theorem tallies_append : ∀ (xs ys : List (Call σ)) (b : Bench σ),
    b.tallies (xs ++ ys) = b.tallies xs ++ (b.callAll xs).tallies ys := by
  intro xs ys
  induction xs with
  | nil => intro b; rfl
  | cons x xs ih =>
    intro b
    rw [List.cons_append, tallies, ih, tallies, List.append_assoc]
    rfl

/-- The last call adds its tally if every case is executed. -/
theorem tallies_concat (b : Bench σ) (cs : List (Call σ)) (c : Call σ) :
    b.tallies (cs ++ [c]) =
      b.tallies cs ++ if (b.callAll cs).executes c then [(b.callAll cs).nonPasses c] else [] := by
  rw [tallies_append, tallies, tallies, List.append_nil]

/-! ### One call -/

/-- **What one call does to the progress and the counter.**  If its header is refused, the progress
stays and the counter is zero.  If it is refused later on, but before the summary, the bench is still
running.  Otherwise the bench is completed, every case has been executed, and the counter says how many
did not pass. -/
theorem call_cases (b : Bench σ) (c : Call σ) :
    (b.RefusesHeader c ∧ (b.call c).progress = b.progress ∧ (b.call c).launched = b.launched ∧
        (b.call c).failures = 0) ∨
      (∃ i, (b.call c).progress = .running i) ∨
      ((b.call c).progress = .completed ∧ b.executes c = true ∧
        (b.call c).failures = b.nonPasses c) := by
  have hcompleted (h : (b.withSink c.sink).StandsAt c.runner c.cases c.cases.length c.cases.length
      .completed (b.call c)) : (b.call c).progress = .completed ∧ b.executes c = true ∧
        (b.call c).failures = b.nonPasses c := by
    refine ⟨h.progress, ?_, ?_⟩
    · rw [executes, h.launched, List.length_append, List.length_map, List.take_length, beq_iff_eq]
      rfl
    · rw [h.failures, List.take_of_length_le, nonPasses]
      exact Nat.le_of_eq (length_course ..)
  rcases (b.withSink c.sink).after_cases c.runner c.cases with ⟨stage, hbreaks, hleft⟩ | ⟨-, hstands⟩
  · cases stage with
    | header =>
      have hstands : (b.withSink c.sink).StandsAt c.runner c.cases 0 0 b.progress (b.call c) := hleft
      refine Or.inl ⟨hbreaks, hstands.progress, ?_, ?_⟩
      · rw [hstands.launched, List.take_zero, List.map_nil, List.append_nil]
        rfl
      · rw [hstands.failures, List.take_zero, List.countP_nil]
    | echo i => exact Or.inr (Or.inl ⟨i, hleft.2.2.progress⟩)
    | block i => exact Or.inr (Or.inl ⟨i, hleft.2.2.progress⟩)
    | closing => exact Or.inr (Or.inr (hcompleted hleft))
    | flush => exact Or.inr (Or.inr (hcompleted hleft))
  · exact Or.inr (Or.inr (hcompleted hstands))

/-- A call that launches nothing executes every case only if there is none, and then all of them
pass. -/
theorem nonPasses_eq_zero {b : Bench σ} {c : Call σ} (hlaunched : (b.call c).launched = b.launched)
    (hexecutes : b.executes c = true) : b.nonPasses c = 0 := by
  rw [executes, hlaunched, beq_iff_eq] at hexecutes
  have hcases : c.cases = [] := List.eq_nil_of_length_eq_zero (by omega)
  rw [nonPasses, hcases]
  rfl

/-! ### Many calls -/

/-- **What a completed bench counts.**  If a bench that had not run is completed after some calls, there
has been a call in which every case was executed.  The counter says how many cases did not pass in the
latest of these calls, or else the header of the last call was refused and the counter is zero. -/
theorem failures_of_completed {b : Bench σ} (hb : b.progress = .notStarted) (calls : List (Call σ))
    (h : (b.callAll calls).progress = .completed) :
    ∃ n, (b.tallies calls).getLast? = some n ∧
      ((b.callAll calls).failures = n ∨
        (b.callAll calls).failures = 0 ∧
          ∃ before c, calls = before ++ [c] ∧ (b.callAll before).RefusesHeader c) := by
  induction calls using List.reverseRecOn with
  | nil =>
    rw [callAll, List.foldl_nil, hb] at h
    cases h
  | append_singleton cs c ih =>
    rw [callAll_concat] at h
    rw [callAll_concat, tallies_concat]
    rcases (b.callAll cs).call_cases c with
      ⟨hrefused, hprogress, hlaunched, hfailures⟩ | ⟨i, hrunning⟩ | ⟨-, hexecutes, hfailures⟩
    · -- the bench has been completed before, and its tally is still the latest one
      rw [hprogress] at h
      obtain ⟨n, hlast, -⟩ := ih h
      cases hexecutes : (b.callAll cs).executes c with
      | false =>
        refine ⟨n, ?_, Or.inr ⟨hfailures, cs, c, rfl, hrefused⟩⟩
        rw [if_neg Bool.false_ne_true, List.append_nil, hlast]
      | true =>
        refine ⟨0, ?_, Or.inl hfailures⟩
        rw [if_pos rfl, nonPasses_eq_zero hlaunched hexecutes, List.getLast?_concat]
    · rw [hrunning] at h
      cases h
    · refine ⟨_, ?_, Or.inl hfailures⟩
      rw [hexecutes, if_pos rfl, List.getLast?_concat]

/-- A bench for the small run that announces its runs. -/
def chattyBench : Bench Nat :=
  .start { Settings.standard "tool" "cases" with verbosity := .chatty } 1 .unlimited none ⟨[], []⟩

/-- A run of one case that fails, with a sink that takes everything. -/
def failingCall : Call Nat := ⟨sampleCases.take 1, sampleRunner, .unlimited⟩

/-- A run with a sink that takes nothing. -/
def refusedCall : Call Nat := ⟨sampleCases.take 1, sampleRunner, ⟨"", .upTo 0, .noSpace, none⟩⟩

/-- After one failure and one refused header the bench is completed, and counts one or none. -/
theorem failures_of_completed_sample :
    (chattyBench.callAll [failingCall, refusedCall]).progress = .completed ∧
      ∃ n, (chattyBench.tallies [failingCall, refusedCall]).getLast? = some n ∧
        ((chattyBench.callAll [failingCall, refusedCall]).failures = n ∨
          (chattyBench.callAll [failingCall, refusedCall]).failures = 0 ∧
            ∃ before c, [failingCall, refusedCall] = before ++ [c] ∧
              (chattyBench.callAll before).RefusesHeader c) :=
  ⟨rfl, failures_of_completed rfl [failingCall, refusedCall] rfl⟩

/-- **A completed bench that counts nothing.**  The first call is completed, with one failure.  The
header of the second call is refused, which leaves the bench completed and its counter at zero. -/
theorem forgotten_failures :
    (chattyBench.callAll [failingCall, refusedCall]).progress = .completed ∧
      chattyBench.tallies [failingCall, refusedCall] = [1] ∧
      (chattyBench.callAll [failingCall, refusedCall]).failures = 0 ∧
      ¬chattyBench.TellsTruth [failingCall, refusedCall] := by
  have htallies : chattyBench.tallies [failingCall, refusedCall] = [1] := by decide
  refine ⟨rfl, htallies, rfl, ?_⟩
  intro h
  have hlast := h rfl
  rw [htallies] at hlast
  cases hlast

end Bench

end HashReplay
