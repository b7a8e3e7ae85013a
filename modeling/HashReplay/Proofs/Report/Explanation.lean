import HashReplay.Bench
import HashReplay.Proofs.Report.Lines
import HashReplay.Proofs.Report.StatusLines
import HashReplay.Proofs.Verdict.Exactness

/-!
# The explanation of a failure and its record

A case that failed is explained by a line of the report, and described by an outcome in the capture log.
The two are made from the same result by different rules, and they tell the same story: whether the case
passed, and if not, what went wrong.

An explanation can be read.  The four ways in which it can start are different, and the hash that was found
has a fixed length, so the text behind it, which may hold anything, is found where it begins.  So no two
failures of different kinds, with different hashes or with different wording have the same explanation.

## Main definitions

* `Arises` — the outcomes that a run can produce.
* `SameFailure` — failures of the same kind with the same hashes or the same wording.
* `Capture.Outcome.detail?`, `Capture.Outcome.ofDetail` — from a recorded outcome to the explanation, and
  back.

## Main results

* `arises_iff` — where such outcomes come from.
* `ofDetail_failureDetail` — the recorded outcome is read off the explanation.
* `failureDetail_eq_iff_sameFailure` — the same explanation is given for the same failure only.
* `reported_as_captured` — the report and the log tell the same story.
-/

namespace HashReplay

namespace Capture.Outcome

/-- The explanation of a recorded outcome; nothing for a pass. -/
def detail? : Outcome → Option String
  | .passed _ => none
  | .mismatch observed expected => some ("is:" ++ observed ++ " expected:" ++ expected)
  | .malformedOutput expected => some ("no hash line in output, expected:" ++ expected)
  | .launchFailure message => some message

/-- The outcome that an explanation stands for.  The hash that was found is as long as every hash. -/
def ofDetail (line : String) : Outcome :=
  match HashLine.afterLabel? "is:".toList line.toList with
  | some rest =>
    .mismatch (String.ofList (rest.take HashLine.tokenLength))
      (String.ofList ((rest.drop HashLine.tokenLength).drop " expected:".toList.length))
  | none =>
    match HashLine.afterLabel? "no hash line in output, expected:".toList line.toList with
    | some rest => .malformedOutput (String.ofList rest)
    | none => .launchFailure line

/-! ### Reading explanations -/

theorem afterLabel?_append (p s : List Char) : HashLine.afterLabel? p (p ++ s) = some s :=
  (HashLine.afterLabel?_eq_some_iff _ _ _).mpr rfl

/-- A text that starts with another character does not start with the label. -/
theorem afterLabel?_eq_none {p s : List Char} {c d : Char} (hp : p.head? = some c)
    (hs : s.head? = some d) (hne : c ≠ d) : HashLine.afterLabel? p s = none := by
  obtain ⟨ps, rfl⟩ := List.head?_eq_some_iff.mp hp
  obtain ⟨ds, rfl⟩ := List.head?_eq_some_iff.mp hs
  exact if_neg hne

/-- What is behind a hash is found by the length of the hash. -/
theorem ofDetail_mismatch {observed : String} (h : observed.toList.length = HashLine.tokenLength)
    (expected : String) :
    ofDetail ("is:" ++ observed ++ " expected:" ++ expected) = .mismatch observed expected := by
  have hline : ("is:" ++ observed ++ " expected:" ++ expected).toList =
      "is:".toList ++ (observed.toList ++ (" expected:".toList ++ expected.toList)) := by
    simp only [String.toList_append, List.append_assoc]
  unfold ofDetail
  rw [hline, afterLabel?_append]
  dsimp only
  rw [List.take_left' h, List.drop_left' h, List.drop_left' rfl, String.ofList_toList,
    String.ofList_toList]

theorem ofDetail_malformedOutput (expected : String) :
    ofDetail ("no hash line in output, expected:" ++ expected) = .malformedOutput expected := by
  have hstart : "no hash line in output, expected:".toList.head? = some 'n' := by decide
  have hfirst := Report.head?_append_of_head? hstart expected
  unfold ofDetail
  rw [afterLabel?_eq_none (c := 'i') (by decide) hfirst (by decide), String.toList_append,
    afterLabel?_append]
  dsimp only
  rw [String.ofList_toList]

/-- A text that starts in neither of the two ways is the wording of a fault. -/
theorem ofDetail_launchFailure {message : String} {c : Char} (h : message.toList.head? = some c)
    (hi : c ≠ 'i') (hn : c ≠ 'n') : ofDetail message = .launchFailure message := by
  unfold ofDetail
  rw [afterLabel?_eq_none (c := 'i') (by decide) h hi.symm,
    afterLabel?_eq_none (c := 'n') (by decide) h hn.symm]

end Capture.Outcome

namespace Report

open Capture (Outcome)

/-! ### Outcomes of a run -/

/-- The outcomes that a run can produce: the verdict on some output, and any fault. -/
inductive Arises : Except RunError Verdict → Prop
  | judged (stdout expected : String) : Arises (.ok (Verdict.check stdout expected))
  | faulted (e : RunError) : Arises (.error e)

/-- **They are what a run makes of answers**: each answer leads to one of them, and each of them comes of
some answer. -/
theorem arises_iff {outcome : Except RunError Verdict} :
    Arises outcome ↔ ∃ answer c, Bench.judge answer c = outcome := by
  constructor
  · intro h
    cases h with
    | judged stdout expected =>
      exact ⟨⟨.ok ⟨stdout, none⟩, .zero, .epoch, ""⟩, ⟨"", "", "", expected, 0⟩, rfl⟩
    | faulted e => exact ⟨⟨.error e, .zero, .epoch, ""⟩, ⟨"", "", "", "", 0⟩, rfl⟩
  · rintro ⟨answer, c, rfl⟩
    unfold Bench.judge
    cases answer.result with
    | ok output => exact .judged output.stdout c.expectedHash
    | error e => exact .faulted e

/-- A hash that was found is as long as every hash. -/
theorem Arises.length_observed {observed expected : String}
    (h : Arises (.ok (.mismatch observed expected))) :
    observed.toList.length = HashLine.tokenLength := by
  generalize houtcome : (Except.ok (Verdict.mismatch observed expected) : Except RunError Verdict) =
    outcome at h
  cases h with
  | judged stdout wanted =>
    have hcheck : (Verdict.check stdout wanted).observed? = some observed := by
      rw [← Except.ok.inj houtcome]
      rfl
    exact (Verdict.isUpperHash_of_observed? hcheck).1
  | faulted e => cases houtcome

/-- How the wording of a fault starts. -/
theorem head?_message_launchFailure (program : String) (cause : IoError) :
    (RunError.launchFailure program cause).message.toList.head? = some 'f' := by
  have hstart : "failed to launch '".toList.head? = some 'f' := by decide
  exact head?_append_of_head? (head?_append_of_head? (head?_append_of_head? hstart _) _) _

theorem head?_message_timeout (program : String) (after : Duration) :
    (RunError.timeout program after).message.toList.head? = some '\'' := by
  have hstart : "'".toList.head? = some '\'' := by decide
  exact head?_append_of_head? (head?_append_of_head? (head?_append_of_head? hstart _) _) _

/-! ### One story -/

/-- An explanation is made of what is recorded. -/
theorem failureDetail_eq_detail? (outcome : Except RunError Verdict) :
    failureDetail outcome = (Outcome.ofResult outcome).detail? := by
  rcases outcome with e | _ | _ | _ <;> rfl

/-- **What is recorded is read off the explanation.** -/
theorem ofDetail_failureDetail {outcome : Except RunError Verdict} {line : String}
    (h : Arises outcome) (hline : failureDetail outcome = some line) :
    Outcome.ofDetail line = Outcome.ofResult outcome := by
  rcases outcome with e | observed | ⟨observed, expected⟩ | expected
  · cases hline
    cases e with
    | launchFailure program cause =>
      exact Outcome.ofDetail_launchFailure (head?_message_launchFailure program cause) (by decide)
        (by decide)
    | timeout program after =>
      exact Outcome.ofDetail_launchFailure (head?_message_timeout program after) (by decide)
        (by decide)
  · cases hline
  · cases hline
    exact Outcome.ofDetail_mismatch h.length_observed expected
  · cases hline
    exact Outcome.ofDetail_malformedOutput expected

/-- The same failure: of the same kind, with the same hashes or, if there was no output, the same
wording. -/
inductive SameFailure : Except RunError Verdict → Except RunError Verdict → Prop
  | mismatch (observed expected : String) :
    SameFailure (.ok (.mismatch observed expected)) (.ok (.mismatch observed expected))
  | malformedOutput (expected : String) :
    SameFailure (.ok (.malformedOutput expected)) (.ok (.malformedOutput expected))
  | launchFailure {program program' : String} {cause cause' : IoError}
    (h : (RunError.launchFailure program cause).message =
      (RunError.launchFailure program' cause').message) :
    SameFailure (.error (.launchFailure program cause)) (.error (.launchFailure program' cause'))
  | timeout {program program' : String} {after after' : Duration}
    (h : (RunError.timeout program after).message = (RunError.timeout program' after').message) :
    SameFailure (.error (.timeout program after)) (.error (.timeout program' after'))

/-- Faults with the same wording are of the same kind, since the two kinds start differently. -/
theorem SameFailure.of_message {e e' : RunError} (h : e.message = e'.message) :
    SameFailure (.error e) (.error e') := by
  cases e with
  | launchFailure program cause =>
    have hfirst := head?_message_launchFailure program cause
    cases e' with
    | launchFailure program' cause' => exact .launchFailure h
    | timeout program' after' =>
      rw [h, head?_message_timeout] at hfirst
      cases hfirst
  | timeout program after =>
    have hfirst := head?_message_timeout program after
    cases e' with
    | launchFailure program' cause' =>
      rw [h, head?_message_launchFailure] at hfirst
      cases hfirst
    | timeout program' after' => exact .timeout h

/-- A case passed exactly if there is nothing to explain. -/
theorem passed_iff_failureDetail_eq_none (r : CaseResult) :
    r.passed = true ↔ failureDetail r.outcome = none := by
  unfold CaseResult.passed
  rcases r.outcome with e | _ | _ | _ <;> simp [failureDetail, Verdict.isPass]

section

variable {outcome outcome' : Except RunError Verdict} (h : Arises outcome) (h' : Arises outcome')
  (hfailed : failureDetail outcome ≠ none)

include h h' hfailed

/-- **The same explanation is given for what is recorded alike.** -/
theorem failureDetail_eq_iff_ofResult_eq :
    failureDetail outcome = failureDetail outcome' ↔
      Outcome.ofResult outcome = Outcome.ofResult outcome' := by
  constructor
  · intro hsame
    obtain ⟨line, hline⟩ := Option.ne_none_iff_exists'.mp hfailed
    rw [← ofDetail_failureDetail h hline, ← ofDetail_failureDetail h' (hsame ▸ hline)]
  · intro hsame
    rw [failureDetail_eq_detail?, failureDetail_eq_detail?, hsame]

/-- **The same explanation is given for the same failure only.** -/
theorem failureDetail_eq_iff_sameFailure :
    failureDetail outcome = failureDetail outcome' ↔ SameFailure outcome outcome' := by
  constructor
  · intro hsame
    have hrecorded := (failureDetail_eq_iff_ofResult_eq h h' hfailed).mp hsame
    rcases outcome with e | _ | ⟨observed, expected⟩ | expected
    · rcases outcome' with e' | _ | _ | _
      · exact SameFailure.of_message (Outcome.launchFailure.inj hrecorded)
      · cases hrecorded
      · cases hrecorded
      · cases hrecorded
    · exact absurd rfl hfailed
    · rcases outcome' with e' | _ | _ | _ <;> cases hrecorded
      exact .mismatch observed expected
    · rcases outcome' with e' | _ | _ | _ <;> cases hrecorded
      exact .malformedOutput expected
  · intro hsame
    cases hsame with
    | mismatch => rfl
    | malformedOutput => rfl
    | launchFailure hmessage => exact congrArg some hmessage
    | timeout hmessage => exact congrArg some hmessage

end

/-- The status line of a case that passed. -/
def passedLine (index : Nat) : String := "Testcase #" ++ toString index ++ ": ** OK **"

theorem statusLine_eq_passedLine_iff (index : Nat) (passed : Bool) :
    statusLine index passed = passedLine index ↔ passed = true := by
  constructor
  · intro hline
    have htells := tellsFailure_statusLine index passed
    rw [hline, show passedLine index = statusLine index true from rfl, tellsFailure_statusLine] at htells
    simpa using htells.symm
  · rintro rfl
    rfl

/-- **The report and the log tell the same story.**  For every result of a run: the case passed exactly if
there is no explanation, exactly if its recorded outcome is a pass, and exactly if its status line, the only
one in its block at any verbosity, is that of a case that passed.

For two results of failed cases: the explanations are the same exactly if the recorded outcomes are, and
exactly if the failure is the same, in its kind and with its hashes or its wording.  The explanation can be
made of the recorded outcome, and the recorded outcome can be read off the explanation. -/
theorem reported_as_captured {r r' : CaseResult} (h : Arises r.outcome) (h' : Arises r'.outcome) :
    ((r.passed = true ↔ failureDetail r.outcome = none) ∧
      (r.passed = true ↔ (Outcome.ofResult r.outcome).isPass = true) ∧
      (r.passed = true ↔ statusLine r.index r.passed = passedLine r.index) ∧
      ∀ v, r.passed = true ↔ (caseBlock v r).filter isStatusLine = [passedLine r.index]) ∧
    (r.passed = false → r'.passed = false →
      (failureDetail r.outcome = failureDetail r'.outcome ↔
        Outcome.ofResult r.outcome = Outcome.ofResult r'.outcome) ∧
      (failureDetail r.outcome = failureDetail r'.outcome ↔ SameFailure r.outcome r'.outcome)) ∧
    failureDetail r.outcome = (Outcome.ofResult r.outcome).detail? ∧
    ∀ line, failureDetail r.outcome = some line → Outcome.ofDetail line = Outcome.ofResult r.outcome := by
  refine ⟨⟨passed_iff_failureDetail_eq_none r, ?_, ?_, ?_⟩, ?_, failureDetail_eq_detail? r.outcome, ?_⟩
  · rw [Outcome.isPass_ofResult]
  · exact (statusLine_eq_passedLine_iff r.index r.passed).symm
  · intro v
    rw [filter_caseBlock, List.singleton_inj]
    exact (statusLine_eq_passedLine_iff r.index r.passed).symm
  · intro hr hr'
    have hfailed : failureDetail r.outcome ≠ none := by
      rw [ne_eq, ← passed_iff_failureDetail_eq_none, hr]
      exact Bool.false_ne_true
    exact ⟨failureDetail_eq_iff_ofResult_eq h h' hfailed, failureDetail_eq_iff_sameFailure h h' hfailed⟩
  · intro line hline
    exact ofDetail_failureDetail h hline

/-- The result of a case whose tool printed a text. -/
def sampleResult (stdout expected : String) : CaseResult :=
  ⟨1, ⟨"tool", []⟩, .zero, .ok (Verdict.check stdout expected), some stdout⟩

/-- What is expected may look like the end of an explanation; with a hash in front of it, it is still told
from the other failure, and the hash is read off. -/
theorem reported_as_captured_sample :
    Arises (sampleResult "hash of result: 0123456789abcdef0123456789abcdef\n" "f expected:0").outcome ∧
      Arises (sampleResult "is:0\n" "f expected:0").outcome ∧
      failureDetail
          (sampleResult "hash of result: 0123456789abcdef0123456789abcdef\n" "f expected:0").outcome ≠
        failureDetail (sampleResult "is:0\n" "f expected:0").outcome ∧
      Outcome.ofDetail "is:0123456789ABCDEF0123456789ABCDEF expected:F EXPECTED:0" =
        .mismatch "0123456789ABCDEF0123456789ABCDEF" "F EXPECTED:0" := by
  have hfound := Arises.judged "hash of result: 0123456789abcdef0123456789abcdef\n" "f expected:0"
  have hmissing := Arises.judged "is:0\n" "f expected:0"
  obtain ⟨-, hpair, -, hread⟩ := @reported_as_captured
    (sampleResult "hash of result: 0123456789abcdef0123456789abcdef\n" "f expected:0")
    (sampleResult "is:0\n" "f expected:0") hfound hmissing
  refine ⟨hfound, hmissing, ?_, ?_⟩
  · obtain ⟨hrecorded, -⟩ := hpair (by decide +kernel) (by decide +kernel)
    rw [ne_eq, hrecorded]
    decide +kernel
  · rw [hread _ (by decide +kernel)]
    decide +kernel

end Report

end HashReplay
