import HashReplay.Proofs.Bench.Accounting

/-!
# Cases are independent

A run threads a number, a counter, a log and the state of its runner from case to case.  If the runner
answers every invocation the same way whenever it is asked, none of these has a say in what becomes of a
case: that is decided by the case alone (`Bench.finding_attempt`).  A run of two lists of cases is then
the run of the first list followed by the run of the second, and in another order the cases fare as they
did before and only get other numbers.

The runner may still have a state, look at files, and take more or less time from one answer to the next.

## Main definitions

* `Finding` — what became of a case.
* `Runner.AnswersBy` — a runner whose answers are a function of the invocation.
* `TestCase.findingBy` — what such answers make of a case.
* `Bench.Ready`, `Bench.Completes` — a bench before a run that will be completed, and such a run.

## Main results

* `Bench.map_finding_course` — the findings of a run are those of its cases, one by one.
* `Bench.replay_independent` — runs of lists put together, and of a list in another order.
-/

namespace HashReplay

variable {σ : Type}

/-- What became of a case: what was launched, and the verdict or why there is none.  Its number and its
times are not part of that. -/
structure Finding where
  invocation : Invocation
  outcome : Except RunError Verdict

/-- Whether the case passed. -/
def Finding.passed (f : Finding) : Bool :=
  match f.outcome with
  | .ok v => v.isPass
  | .error _ => false

/-- What is recorded of a finding. -/
def Finding.recorded (f : Finding) : List String × Capture.Outcome :=
  (f.invocation.argv, .ofResult f.outcome)

/-- What became of the case of an attempt. -/
def Attempt.finding (a : Attempt) : Finding := ⟨a.invocation, a.result.outcome⟩

/-- What a record tells of a finding. -/
def Capture.Record.finding (r : Capture.Record) : List String × Capture.Outcome := (r.argv, r.outcome)

/-- A runner whose answers are a function of the invocation.  How long it takes, its state and the files
may depend on anything. -/
def Runner.AnswersBy (runner : Runner σ) (answers : Invocation → Except RunError Output) : Prop :=
  ∀ invocation world files, (runner invocation world files).answer.result = answers invocation

/-- What answers make of a case whose invocation is built by `builder`. -/
def TestCase.findingBy (answers : Invocation → Except RunError Output) (builder : Builder)
    (c : TestCase) : Finding where
  invocation := builder.build c
  outcome :=
    match answers (builder.build c) with
    | .ok output => .ok (Verdict.check output.stdout c.expectedHash)
    | .error e => .error e

namespace Bench

/-- A bench that builds its invocations by `builder` and whose sink never refuses. -/
structure Ready (builder : Builder) (b : Bench σ) : Prop where
  builder : b.settings.builder = builder
  sink : b.sink.TakesAll

/-- A run of `cases` on `b` is completed with `summary`, and what it adds to a log are the records
`new`, which are numbered from one and tell of the attempts at the cases, one by one. -/
structure Completes (b : Bench σ) (runner : Runner σ) (cases : List TestCase) (summary : Summary)
    (new : List Capture.Record) : Prop where
  replay : ∃ left, b.replay runner cases = .ok (summary, left) ∧
    left.recorded = b.recorded.map (· ++ new)
  seq : new.map Capture.Record.seq = List.range' 1 cases.length
  finding : new.map Capture.Record.finding =
    ((b.course runner cases).map Attempt.finding).map Finding.recorded

theorem completes (b : Bench σ) (runner : Runner σ) (cases : List TestCase) (h : b.sink.TakesAll) :
    b.Completes runner cases (b.summary runner cases) (b.newRecords runner cases) := by
  refine ⟨⟨_, b.replay_of_takesAll runner cases h, ?_⟩, b.map_seq_newRecords runner cases, ?_⟩
  · exact b.recorded_complete runner cases
  · rw [newRecords, List.map_map, List.map_map]
    rfl

/-- The record at a place has the number of that place, and tells of the attempt there. -/
theorem Completes.exists_record {b : Bench σ} {runner : Runner σ} {cases : List TestCase}
    {summary : Summary} {new : List Capture.Record} (h : b.Completes runner cases summary new)
    {i : Nat} (hi : i < cases.length) :
    ∃ r a, new[i]? = some r ∧ (b.course runner cases)[i]? = some a ∧ r.seq = i + 1 ∧
      r.finding = a.finding.recorded := by
  have hseq := congrArg (·[i]?) h.seq
  have hfinding := congrArg (·[i]?) h.finding
  simp only [List.getElem?_map, List.getElem?_range' hi] at hseq hfinding
  obtain ⟨r, hr, hnumber⟩ := Option.map_eq_some_iff.mp hseq
  rw [hr, Option.map_some, Option.map_map, eq_comm] at hfinding
  obtain ⟨a, ha, htold⟩ := Option.map_eq_some_iff.mp hfinding
  exact ⟨r, a, hr, ha, by omega, htold.symm⟩

section Findings

variable {runner : Runner σ} {answers : Invocation → Except RunError Output}

/-- **What becomes of a case** is decided by the case. -/
theorem finding_attempt (h : runner.AnswersBy answers) (b : Bench σ) (index : Nat) (c : TestCase) :
    (b.attempt runner index c).finding = c.findingBy answers b.settings.builder := by
  have hanswer : (b.attempt runner index c).answer.result = answers (b.settings.builder.build c) :=
    h _ _ _
  rw [Attempt.finding, Attempt.result, result, judge, hanswer]
  rfl

theorem map_finding_attempts (h : runner.AnswersBy answers) : ∀ (cs : List TestCase) (b : Bench σ)
    (index : Nat), (b.attempts runner index cs).map Attempt.finding =
      cs.map (TestCase.findingBy answers b.settings.builder) := by
  intro cs
  induction cs with
  | nil => intro b index; rfl
  | cons c cs ih =>
    intro b index
    rw [attempts, List.map_cons, finding_attempt h, ih, settings_settle, List.map_cons]

/-- **The findings of a run** are those of its cases, one by one. -/
theorem map_finding_course (h : runner.AnswersBy answers) (b : Bench σ) (cases : List TestCase) :
    (b.course runner cases).map Attempt.finding =
      cases.map (TestCase.findingBy answers b.settings.builder) :=
  map_finding_attempts h cases b.restart 1

theorem finding_of_getElem? (h : runner.AnswersBy answers) {b : Bench σ} {cases : List TestCase}
    {i : Nat} {c : TestCase} {a : Attempt} (hc : cases[i]? = some c)
    (ha : (b.course runner cases)[i]? = some a) :
    a.finding = c.findingBy answers b.settings.builder := by
  have hfinding := congrArg (·[i]?) (map_finding_course h b cases)
  simp only [List.getElem?_map, hc, ha, Option.map_some, Option.some.injEq] at hfinding
  exact hfinding

/-- The count of failures is one of cases. -/
theorem failures_of_answersBy (h : runner.AnswersBy answers) (b : Bench σ) (cases : List TestCase) :
    (b.complete runner cases).failures =
      cases.countP fun c => !(c.findingBy answers b.settings.builder).passed := by
  have hcount := congrArg (List.countP fun f => !f.passed) (map_finding_course h b cases)
  rw [List.countP_map, List.countP_map] at hcount
  rw [failures_complete]
  exact hcount

/-- Lists put together have the totals of both. -/
theorem summary_append (h : runner.AnswersBy answers) {b b₁ b₂ : Bench σ}
    (h₁ : b₁.settings.builder = b.settings.builder) (h₂ : b₂.settings.builder = b.settings.builder)
    (xs ys : List TestCase) :
    b.summary runner (xs ++ ys) =
      ⟨(b₁.summary runner xs).total + (b₂.summary runner ys).total,
        (b₁.summary runner xs).failed + (b₂.summary runner ys).failed⟩ := by
  simp only [summary, failures_of_answersBy h, h₁, h₂, List.length_append, List.countP_append]

/-- The order of the cases does not matter for the totals. -/
theorem summary_perm (h : runner.AnswersBy answers) {b b' : Bench σ}
    (hbuilder : b'.settings.builder = b.settings.builder) {xs ys : List TestCase} (hperm : xs.Perm ys) :
    b'.summary runner ys = b.summary runner xs := by
  simp only [summary, failures_of_answersBy h, hbuilder, hperm.length_eq, hperm.countP_eq]

end Findings

/-- **Cases are independent.**  Let the answers of a runner be a function of the invocation, and let
benches build their invocations alike and have sinks that never refuse.  A run of two lists of cases has
the totals of the runs of both added up; its attempts come to the same, and its records tell the same, as
those of the first run followed by those of the second, with the numbers of the second moved on by the
length of the first list.  Runs of the same cases in two orders have the same totals, and a case comes to
the same in both, and is recorded with the same argument vector and outcome; its number is its place. -/
theorem replay_independent {runner : Runner σ} {answers : Invocation → Except RunError Output}
    (h : runner.AnswersBy answers) (builder : Builder) :
    (∀ (b b₁ b₂ : Bench σ) (xs ys : List TestCase),
      b.Ready builder → b₁.Ready builder → b₂.Ready builder →
      ∃ s₁ s₂ new new₁ new₂,
        b₁.Completes runner xs s₁ new₁ ∧ b₂.Completes runner ys s₂ new₂ ∧
        b.Completes runner (xs ++ ys) ⟨s₁.total + s₂.total, s₁.failed + s₂.failed⟩ new ∧
        (b.course runner (xs ++ ys)).map Attempt.finding =
          (b₁.course runner xs).map Attempt.finding ++ (b₂.course runner ys).map Attempt.finding ∧
        new.map Capture.Record.finding =
          new₁.map Capture.Record.finding ++ new₂.map Capture.Record.finding ∧
        new.map Capture.Record.seq =
          new₁.map Capture.Record.seq ++ new₂.map fun r => xs.length + r.seq) ∧
      ∀ (b b' : Bench σ) (xs ys : List TestCase), b.Ready builder → b'.Ready builder → xs.Perm ys →
        ∃ s new new', b.Completes runner xs s new ∧ b'.Completes runner ys s new' ∧
          ∀ c i j, xs[i]? = some c → ys[j]? = some c → ∃ r r' a a',
            new[i]? = some r ∧ new'[j]? = some r' ∧
            (b.course runner xs)[i]? = some a ∧ (b'.course runner ys)[j]? = some a' ∧
            r.seq = i + 1 ∧ r'.seq = j + 1 ∧ r.finding = r'.finding ∧ a.finding = a'.finding := by
  refine ⟨fun b b₁ b₂ xs ys hb h₁ h₂ => ?_, fun b b' xs ys hb hb' hperm => ?_⟩
  · have hcourse : (b.course runner (xs ++ ys)).map Attempt.finding =
        (b₁.course runner xs).map Attempt.finding ++ (b₂.course runner ys).map Attempt.finding := by
      simp only [map_finding_course h, hb.builder, h₁.builder, h₂.builder, List.map_append]
    have hall := b.completes runner (xs ++ ys) hb.sink
    have hfirst := b₁.completes runner xs h₁.sink
    have hsecond := b₂.completes runner ys h₂.sink
    rw [summary_append h (h₁.builder.trans hb.builder.symm) (h₂.builder.trans hb.builder.symm)] at hall
    refine ⟨_, _, _, _, _, hfirst, hsecond, hall, hcourse, ?_, ?_⟩
    · rw [hall.finding, hfirst.finding, hsecond.finding, hcourse, List.map_append]
    · -- the numbers of a run go from one, so those of the second run go on when they are moved
      rw [hall.seq, hfirst.seq, List.length_append, ← List.range'_append_1, Nat.add_comm 1,
        ← List.map_add_range', ← hsecond.seq, List.map_map]
      rfl
  · have hfirst := b.completes runner xs hb.sink
    have hsecond := b'.completes runner ys hb'.sink
    rw [summary_perm h (hb'.builder.trans hb.builder.symm) hperm] at hsecond
    refine ⟨_, _, _, hfirst, hsecond, fun c i j hi hj => ?_⟩
    obtain ⟨r, a, hr, ha, hseq, htold⟩ := hfirst.exists_record (List.getElem?_eq_some_iff.mp hi).1
    obtain ⟨r', a', hr', ha', hseq', htold'⟩ :=
      hsecond.exists_record (List.getElem?_eq_some_iff.mp hj).1
    have hfinding : a.finding = a'.finding := by
      rw [finding_of_getElem? h hi ha, finding_of_getElem? h hj ha', hb.builder, hb'.builder]
    exact ⟨r, r', a, a', hr, hr', ha, ha', hseq, hseq', by rw [htold, htold', hfinding], hfinding⟩

/-- Answers to the cases of the small run that are the same whenever they are given: the expected hash
for the first, no hash for the second, and no output for the third. -/
def steadyAnswers (i : Invocation) : Except RunError Output :=
  if i.args.head? = some "-a" then .ok ⟨"hash of result: " ++ sampleHash, some 3⟩
  else if i.args.head? = some "-b" then .ok ⟨"done", some 0⟩
  else .error (.timeout i.program (.ofSecs 1))

/-- A runner with these answers, which takes longer for each of them. -/
def steadyRunner : Runner Nat :=
  .ofSource fun i n => (⟨steadyAnswers i, .ofMillis n, .ofNat n 0, ""⟩, n + 1)

/-- The small run in two parts, and in the opposite order. -/
theorem replay_independent_sample :
    steadyRunner.AnswersBy steadyAnswers ∧
      (∃ s₁ s₂ new new₁ new₂,
        (sampleBench .unlimited).Completes steadyRunner (sampleCases.take 1) s₁ new₁ ∧
        (sampleBench .unlimited).Completes steadyRunner (sampleCases.drop 1) s₂ new₂ ∧
        (sampleBench .unlimited).Completes steadyRunner sampleCases
          ⟨Summary.total s₁ + Summary.total s₂, Summary.failed s₁ + Summary.failed s₂⟩ new ∧
        new.map Capture.Record.seq = new₁.map Capture.Record.seq ++ new₂.map fun r => 1 + r.seq) ∧
      ∃ s new new', (sampleBench .unlimited).Completes steadyRunner sampleCases s new ∧
        (sampleBench .unlimited).Completes steadyRunner sampleCases.reverse s new' ∧
        ∃ r r', new[0]? = some r ∧ new'[2]? = some r' ∧ r.seq = 1 ∧ r'.seq = 3 ∧
          r.finding = r'.finding := by
  have hsteady : steadyRunner.AnswersBy steadyAnswers := fun _ _ _ => rfl
  have hready : (sampleBench .unlimited).Ready (Settings.standard "tool" "cases").builder :=
    ⟨rfl, Sink.takesAll_unlimited⟩
  obtain ⟨happend, hperm⟩ := replay_independent hsteady (Settings.standard "tool" "cases").builder
  obtain ⟨s₁, s₂, new, new₁, new₂, hfirst, hsecond, hall, -, -, hseq⟩ :=
    happend _ _ _ (sampleCases.take 1) (sampleCases.drop 1) hready hready hready
  obtain ⟨s, more, more', hrun, hrun', hsame⟩ :=
    hperm _ _ sampleCases sampleCases.reverse hready hready (List.reverse_perm _).symm
  obtain ⟨r, r', -, -, hr, hr', -, -, hnumber, hnumber', hfinding, -⟩ := hsame _ 0 2 rfl rfl
  exact ⟨hsteady, ⟨s₁, s₂, new, new₁, new₂, hfirst, hsecond, hall, hseq⟩,
    s, more, more', hrun, hrun', r, r', hr, hr', hnumber, hnumber', hfinding⟩

end Bench

end HashReplay
