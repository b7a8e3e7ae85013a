import HashReplay.Bench

/-!
# The course of a run

A run moves on by asking the runner, counting and recording, and it prints.  Nothing that it prints
has an influence on how it moves on; a refused piece of the report only stops it.  Here is how a run
moves on: the attempts that the cases lead to, and the bench that is left when they are settled.

## Main definitions

* `Attempt` — a case that has been launched.
* `Bench.launch`, `Bench.settle` — the bench before and after the report of a case.
* `Bench.settleAll`, `Bench.attempts` — the same for a list of cases.

## Main results

* `Bench.settle_frame` — what one case does to a bench.
* `Bench.launched_settleAll`, `Bench.failures_settleAll`, `Bench.recorded_settleAll` — what a list of
  cases adds to a bench.
-/

namespace HashReplay

/-- A case that has been launched as number `index`, with the answer to its invocation. -/
structure Attempt where
  index : Nat
  testCase : TestCase
  invocation : Invocation
  answer : Answer

namespace Attempt

/-- The result of the case. -/
def result (a : Attempt) : CaseResult := Bench.result a.index a.invocation a.answer a.testCase

/-- Whether the case passed. -/
def passed (a : Attempt) : Bool := a.result.passed

/-- The record of the case. -/
def record (a : Attempt) : Capture.Record := Bench.recordOf a.result a.answer.finished

end Attempt

namespace Bench

variable {σ : Type}

/-! ### One case -/

/-- The bench with another sink. -/
def withSink (b : Bench σ) (k : Sink) : Bench σ := { b with sink := k }

/-- The bench with case `index` announced. -/
def enter (b : Bench σ) (index : Nat) : Bench σ := { b with progress := .running index }

/-- What the runner makes of a case. -/
def respond (b : Bench σ) (runner : Runner σ) (c : TestCase) : Response σ :=
  runner (b.settings.builder.build c) b.world b.files

/-- A case launched as number `index`. -/
def attempt (b : Bench σ) (runner : Runner σ) (index : Nat) (c : TestCase) : Attempt where
  index
  testCase := c
  invocation := b.settings.builder.build c
  answer := (b.respond runner c).answer

/-- The bench when a case has been launched and counted, before its block is printed. -/
def launch (b : Bench σ) (runner : Runner σ) (index : Nat) (c : TestCase) : Bench σ :=
  (b.enter index).afterLaunch (b.attempt runner index c).result (b.respond runner c)

/-- The bench when the block of a case has been printed and the case recorded. -/
def settle (b : Bench σ) (runner : Runner σ) (index : Nat) (c : TestCase) : Bench σ :=
  (b.launch runner index c).record (b.attempt runner index c).result
    (b.attempt runner index c).answer.finished

/-- The records in the log, if there is a log. -/
def recorded (b : Bench σ) : Option (List Capture.Record) := b.log.map (·.records)

/-- Recording leaves all of a bench alone but the log, the files and the notices. -/
theorem record_eq (b : Bench σ) (r : CaseResult) (t : Timestamp) :
    ∃ log files notices, b.record r t = { b with log, files, notices } := by
  unfold record
  cases b.log with
  | none => exact ⟨b.log, b.files, b.notices, rfl⟩
  | some log => exact ⟨_, _, _, rfl⟩

/-- A view of a bench that leaves the log, the files and the notices alone goes with recording. -/
theorem record_comm {τ : Type} {f : Bench σ → Bench τ} (hlog : ∀ b, (f b).log = b.log)
    (hfiles : ∀ b, (f b).files = b.files) (hnotices : ∀ b, (f b).notices = b.notices)
    (hf : ∀ b log files notices, f { b with log, files, notices } = { f b with log, files, notices })
    (b : Bench σ) (r : CaseResult) (t : Timestamp) : (f b).record r t = f (b.record r t) := by
  unfold record
  rw [hlog]
  cases b.log with
  | none => rfl
  | some log =>
    rw [hfiles, hnotices]
    exact (hf b _ _ _).symm

theorem record_withSink (b : Bench σ) (k : Sink) (r : CaseResult) (t : Timestamp) :
    (b.withSink k).record r t = (b.record r t).withSink k :=
  record_comm (f := (·.withSink k)) (fun _ => rfl) (fun _ => rfl) (fun _ => rfl)
    (fun _ _ _ _ => rfl) b r t

/-- What recording adds to the log. -/
theorem recorded_record (b : Bench σ) (r : CaseResult) (t : Timestamp) :
    (b.record r t).recorded = b.recorded.map (· ++ [recordOf r t]) := by
  unfold record recorded
  cases hlog : b.log with
  | none => simp [hlog]
  | some log => simp

section Settle

variable (b : Bench σ) (runner : Runner σ) (index : Nat) (c : TestCase)

theorem settle_withSink (k : Sink) :
    (b.withSink k).settle runner index c = (b.settle runner index c).withSink k :=
  record_withSink (b.launch runner index c) k _ _

/-- **What one case does to a bench**, the log apart. -/
theorem settle_frame :
    (b.settle runner index c).settings = b.settings ∧
      (b.settle runner index c).world = (b.respond runner c).world ∧
      (b.settle runner index c).progress = .running index ∧
      (b.settle runner index c).launched = b.launched ++ [b.settings.builder.build c] ∧
      (b.settle runner index c).failures =
        if (b.attempt runner index c).passed then b.failures else b.failures + 1 := by
  obtain ⟨log, files, notices, h⟩ := record_eq (b.launch runner index c)
    (b.attempt runner index c).result (b.attempt runner index c).answer.finished
  rw [settle, h]
  exact ⟨rfl, rfl, rfl, rfl, rfl⟩

@[simp] theorem settings_settle : (b.settle runner index c).settings = b.settings :=
  (b.settle_frame runner index c).1

/-- What one case adds to the log. -/
theorem recorded_settle :
    (b.settle runner index c).recorded =
      b.recorded.map (· ++ [(b.attempt runner index c).record]) :=
  recorded_record (b.launch runner index c) _ _

end Settle

/-! ### Many cases -/

/-- The bench when cases, numbered from `index`, have been settled one after another. -/
def settleAll (b : Bench σ) (runner : Runner σ) (index : Nat) : List TestCase → Bench σ
  | [] => b
  | c :: cs => (b.settle runner index c).settleAll runner (index + 1) cs

/-- The attempts that cases, numbered from `index`, lead to. -/
def attempts (b : Bench σ) (runner : Runner σ) (index : Nat) : List TestCase → List Attempt
  | [] => []
  | c :: cs => b.attempt runner index c :: (b.settle runner index c).attempts runner (index + 1) cs

section Many

variable (runner : Runner σ)

/-- A view of benches that goes with every case goes with many cases. -/
theorem settleAll_comm {τ : Type} {runner' : Runner τ} {f : Bench σ → Bench τ}
    (hsettle : ∀ b index c, (f b).settle runner' index c = f (b.settle runner index c)) :
    ∀ (cs : List TestCase) (b : Bench σ) (index : Nat),
      (f b).settleAll runner' index cs = f (b.settleAll runner index cs) := by
  intro cs
  induction cs with
  | nil => intro b index; rfl
  | cons c cs ih => intro b index; rw [settleAll, hsettle, ih, settleAll]

/-- If such a view does not change what a case is answered, it does not change any attempt. -/
theorem attempts_comm {τ : Type} {runner' : Runner τ} {f : Bench σ → Bench τ}
    (hsettle : ∀ b index c, (f b).settle runner' index c = f (b.settle runner index c))
    (hattempt : ∀ b index c, (f b).attempt runner' index c = b.attempt runner index c) :
    ∀ (cs : List TestCase) (b : Bench σ) (index : Nat),
      (f b).attempts runner' index cs = b.attempts runner index cs := by
  intro cs
  induction cs with
  | nil => intro b index; rfl
  | cons c cs ih => intro b index; rw [attempts, hattempt, hsettle, ih, attempts]

theorem settleAll_append : ∀ (xs ys : List TestCase) (b : Bench σ) (index : Nat),
    b.settleAll runner index (xs ++ ys) =
      (b.settleAll runner index xs).settleAll runner (index + xs.length) ys := by
  intro xs ys
  induction xs with
  | nil => intro b index; rfl
  | cons x xs ih =>
    intro b index
    rw [List.cons_append, settleAll, ih, settleAll, List.length_cons]
    congr 1
    omega

theorem attempts_append : ∀ (xs ys : List TestCase) (b : Bench σ) (index : Nat),
    b.attempts runner index (xs ++ ys) = b.attempts runner index xs ++
      (b.settleAll runner index xs).attempts runner (index + xs.length) ys := by
  intro xs ys
  induction xs with
  | nil => intro b index; rfl
  | cons x xs ih =>
    intro b index
    rw [List.cons_append, attempts, ih, attempts, settleAll, List.length_cons, List.cons_append]
    congr 3
    omega

@[simp] theorem length_attempts : ∀ (cs : List TestCase) (b : Bench σ) (index : Nat),
    (b.attempts runner index cs).length = cs.length := by
  intro cs
  induction cs with
  | nil => intro b index; rfl
  | cons c cs ih => intro b index; rw [attempts, List.length_cons, ih, List.length_cons]

theorem map_index_attempts : ∀ (cs : List TestCase) (b : Bench σ) (index : Nat),
    (b.attempts runner index cs).map Attempt.index = List.range' index cs.length := by
  intro cs
  induction cs with
  | nil => intro b index; rfl
  | cons c cs ih =>
    intro b index
    rw [attempts, List.map_cons, ih, List.length_cons, List.range'_succ]
    rfl

theorem map_testCase_attempts : ∀ (cs : List TestCase) (b : Bench σ) (index : Nat),
    (b.attempts runner index cs).map Attempt.testCase = cs := by
  intro cs
  induction cs with
  | nil => intro b index; rfl
  | cons c cs ih => intro b index; rw [attempts, List.map_cons, ih]; rfl

theorem settleAll_withSink (cs : List TestCase) (b : Bench σ) (k : Sink) (index : Nat) :
    (b.withSink k).settleAll runner index cs = (b.settleAll runner index cs).withSink k :=
  settleAll_comm runner (fun b index c => b.settle_withSink runner index c k) cs b index

theorem map_invocation_attempts : ∀ (cs : List TestCase) (b : Bench σ) (index : Nat),
    (b.attempts runner index cs).map Attempt.invocation = cs.map b.settings.builder.build := by
  intro cs
  induction cs with
  | nil => intro b index; rfl
  | cons c cs ih =>
    intro b index
    rw [attempts, List.map_cons, ih, settings_settle, List.map_cons]
    rfl

/-- Every case is launched, in order, as the builder has it. -/
theorem launched_settleAll : ∀ (cs : List TestCase) (b : Bench σ) (index : Nat),
    (b.settleAll runner index cs).launched = b.launched ++ cs.map b.settings.builder.build := by
  intro cs
  induction cs with
  | nil => intro b index; exact (List.append_nil _).symm
  | cons c cs ih =>
    intro b index
    obtain ⟨hsettings, -, -, hlaunched, -⟩ := b.settle_frame runner index c
    rw [settleAll, ih, hsettings, hlaunched, List.map_cons, List.append_assoc, List.cons_append,
      List.nil_append]

/-- Every failed attempt is counted, and nothing else. -/
theorem failures_settleAll : ∀ (cs : List TestCase) (b : Bench σ) (index : Nat),
    (b.settleAll runner index cs).failures =
      b.failures + (b.attempts runner index cs).countP fun a => !a.passed := by
  intro cs
  induction cs with
  | nil => intro b index; rfl
  | cons c cs ih =>
    intro b index
    obtain ⟨-, -, -, -, hfailures⟩ := b.settle_frame runner index c
    -- the first attempt is counted by the bench before the others, and by `countP` after them
    rw [settleAll, ih, hfailures, attempts, List.countP_cons]
    cases (b.attempt runner index c).passed with
    | true => simp
    | false =>
      simp only [Bool.false_eq_true, if_false, Bool.not_false, if_true]
      omega

/-- Every attempt is recorded, in order, if there is a log. -/
theorem recorded_settleAll : ∀ (cs : List TestCase) (b : Bench σ) (index : Nat),
    (b.settleAll runner index cs).recorded =
      b.recorded.map (· ++ (b.attempts runner index cs).map Attempt.record) := by
  intro cs
  induction cs with
  | nil => intro b index; cases h : b.recorded <;> simp [settleAll, attempts, h]
  | cons c cs ih =>
    intro b index
    rw [settleAll, ih, recorded_settle, Option.map_map, attempts, List.map_cons]
    congr 1
    funext records
    exact (List.append_cons _ _ _).symm

end Many

end Bench

end HashReplay
