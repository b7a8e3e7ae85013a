import HashReplay.Proofs.Bench.Course
import HashReplay.Proofs.HashLine.Grammar
import Mathlib.Data.List.Forall2

/-!
# Which cases pass

A case passes if the tool printed something, and the first hash line in it holds the hash that the case
expects.  How the tool ended, how long it took and what it wrote to the error stream do not matter.

## Main definitions

* `Answer.stdout?` — all of an answer that matters.
* `TestCase.MetBy` — an output reports the hash that a case expects.
* `Bench.outputs` — what a source prints when it is asked one invocation after another.

## Main results

* `Attempt.passed_iff` — an attempt passed exactly when its case is met.
* `Bench.map_stdout_attempts` — the outputs in a run depend on nothing but the source.
* `Bench.countP_attempts_eq_zero_iff` — no attempt failed exactly when every case is met.
-/

namespace HashReplay

/-- What the tool printed, if there was an output. -/
def Answer.stdout? (a : Answer) : Option String :=
  match a.result with
  | .ok output => some output.stdout
  | .error _ => none

/-- There is an output, and its first hash line holds the hash that the case expects, up to the case of
ASCII letters and to blanks around what is expected. -/
def TestCase.MetBy (c : TestCase) (stdout : Option String) : Prop :=
  ∃ text token, stdout = some text ∧ HashLine.Reports text.toList token ∧
    Verdict.upper token = Verdict.upper (Text.trim c.expectedHash.toList)

/-- **A check is passed** exactly by an output that reports the expected hash. -/
theorem Verdict.isPass_check_iff (stdout : String) (c : TestCase) :
    (Verdict.check stdout c.expectedHash).isPass = true ↔ c.MetBy (some stdout) := by
  have hmet : c.MetBy (some stdout) ↔ ∃ token, HashLine.extract stdout.toList = some token ∧
      Verdict.upper token = Verdict.upper (Text.trim c.expectedHash.toList) := by
    simp only [HashLine.extract_eq_some_iff]
    constructor
    · rintro ⟨text, token, hstdout, hreports, hupper⟩
      cases hstdout
      exact ⟨token, hreports, hupper⟩
    · rintro ⟨token, hreports, hupper⟩
      exact ⟨stdout, token, rfl, hreports, hupper⟩
  rw [hmet, Verdict.check]
  cases HashLine.extract stdout.toList with
  | none => simp [isPass]
  | some token =>
    by_cases h : Verdict.upper token = Verdict.upper (Text.trim c.expectedHash.toList)
    · simp [isPass, h]
    · simp [isPass, h, String.ofList_inj]

/-- **An attempt passed** exactly when its case is met by what the tool printed. -/
theorem Attempt.passed_iff (a : Attempt) :
    a.passed = true ↔ a.testCase.MetBy a.answer.stdout? := by
  rw [passed, CaseResult.passed, result, Bench.result, Answer.stdout?, Bench.judge]
  cases a.answer.result with
  | ok output => exact Verdict.isPass_check_iff output.stdout a.testCase
  | error e => simp [TestCase.MetBy]

namespace Bench

variable {σ : Type}

/-- What a source prints when it is asked one invocation after another, from state `world` on. -/
def outputs (source : Invocation → σ → Answer × σ) (world : σ) :
    List Invocation → List (Option String)
  | [] => []
  | i :: is => (source i world).1.stdout? :: outputs source (source i world).2 is

/-- Only the output of an answer matters, and the state that it leaves. -/
theorem outputs_congr {source source' : Invocation → σ → Answer × σ}
    (h : ∀ i world, (source' i world).1.stdout? = (source i world).1.stdout? ∧
      (source' i world).2 = (source i world).2) : ∀ (is : List Invocation) (world : σ),
    outputs source' world is = outputs source world is := by
  intro is
  induction is with
  | nil => intro world; rfl
  | cons i is ih => intro world; rw [outputs, ih, (h i world).1, (h i world).2, outputs]

/-- **The outputs in a run** depend on nothing but the source and what it is asked. -/
theorem map_stdout_attempts (source : Invocation → σ → Answer × σ) : ∀ (cs : List TestCase)
    (b : Bench σ) (index : Nat),
    (b.attempts (.ofSource source) index cs).map (fun a => a.answer.stdout?) =
      outputs source b.world (cs.map b.settings.builder.build) := by
  intro cs
  induction cs with
  | nil => intro b index; rfl
  | cons c cs ih =>
    intro b index
    obtain ⟨hsettings, hworld, -⟩ := b.settle_frame (.ofSource source) index c
    rw [attempts, List.map_cons, ih, hsettings, hworld]
    rfl

/-- **No attempt failed** exactly when every case is met by the output for it. -/
theorem countP_attempts_eq_zero_iff (b : Bench σ) (runner : Runner σ) (index : Nat)
    (cs : List TestCase) :
    ((b.attempts runner index cs).countP fun a => !a.passed) = 0 ↔
      List.Forall₂ TestCase.MetBy cs
        ((b.attempts runner index cs).map fun a => a.answer.stdout?) := by
  -- both lists are read off the attempts, so the pairs of the relation are single attempts
  have hcases := map_testCase_attempts runner cs b index
  generalize b.attempts runner index cs = as at hcases ⊢
  rw [← hcases, List.forall₂_map_left_iff, List.forall₂_map_right_iff, List.forall₂_same,
    List.countP_eq_zero]
  simp only [Bool.not_eq_true', Bool.not_eq_false, Attempt.passed_iff]

end Bench

end HashReplay
