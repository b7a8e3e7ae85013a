import HashReplay.Proofs.Bench.Simulation

/-!
# Benches in lockstep

Two benches with the same log that are abreast do the same from then on, if what was different before is
never looked at again: the strictness of the settings, what is already on the error stream, and, for a
runner that overlooks it, what a file held.

What a run puts on the error stream comes from the tools, or warns of a record that is not in the journal.

## Main definitions

* `Bench.Lockstep` — benches that are abreast, with the same log.
* `Bench.FromRun`, `Bench.AddsNotices` — the notices that runs give.

## Main results

* `Bench.Lockstep.settle` — a case keeps benches in lockstep.
* `Bench.endsAlike_lockstep` — so do whole runs.
* `Bench.addsNotices_after` — what a run adds to the notices.
-/

namespace HashReplay

/-- **Recording** on related file systems is answered the same, and leaves the same log. -/
theorem Capture.Log.record_alike {S : FileSystem → FileSystem → Prop} (hS : FileSystem.Alike S)
    {fs fs' : FileSystem} (h : S fs fs') (l : Log) (r : Record) :
    (l.record r fs).log = (l.record r fs').log ∧ (l.record r fs).error = (l.record r fs').error ∧
      S (l.record r fs).files (l.record r fs').files := by
  unfold Log.record
  cases l.journal with
  | none => exact ⟨rfl, rfl, h⟩
  | some m =>
    unfold Journal.write
    cases r.line? with
    | none => exact ⟨rfl, rfl, h⟩
    | some line =>
      rcases hS.writeAt h m.path m.offset (Text.Utf8.encode line) with
        ⟨e, he, he'⟩ | ⟨fs₁, fs₁', hok, hok', hleft⟩
      · simp only [he, he', true_and]
        exact h
      · simp only [hok, hok', true_and]
        exact hleft

namespace Bench

variable {σ : Type}

/-- Benches that are abreast and have the same log.  The notices `before` are only on the first of
them. -/
structure Lockstep (S : FileSystem → FileSystem → Prop) (before : List Notice) (b b' : Bench σ) :
    Prop where
  abreast : Abreast S b b'
  log : b.log = b'.log
  notices : b.notices = before ++ b'.notices

theorem Lockstep.recorded_eq {S : FileSystem → FileSystem → Prop} {before : List Notice}
    {b b' : Bench σ} (h : Lockstep S before b b') : b.recorded = b'.recorded := by
  rw [recorded, recorded, h.log]

section Lockstep

variable {S : FileSystem → FileSystem → Prop} {before : List Notice} {runner : Runner σ}
  {b b' : Bench σ}

theorem Lockstep.launch (h : Lockstep S before b b') (hrunner : runner.Respects S) (index : Nat)
    (c : TestCase) : Lockstep S before (b.launch runner index c) (b'.launch runner index c) := by
  obtain ⟨habreast, added, hnotices, hnotices'⟩ := h.abreast.launch hrunner index c
  refine ⟨habreast, h.log, ?_⟩
  rw [hnotices, hnotices', h.notices, List.append_assoc]

/-- Recording the same keeps benches in lockstep. -/
theorem Lockstep.record (h : Lockstep S before b b') (hS : FileSystem.Alike S) (r : CaseResult)
    (t : Timestamp) : Lockstep S before (b.record r t) (b'.record r t) := by
  suffices hrecord : S (b.record r t).files (b'.record r t).files ∧
      (b.record r t).log = (b'.record r t).log ∧
      (b.record r t).notices = before ++ (b'.record r t).notices from
    ⟨h.abreast.record hrecord.1, hrecord.2.1, hrecord.2.2⟩
  unfold Bench.record
  rw [h.log]
  cases hlog : b'.log with
  | none => exact ⟨h.abreast.files, h.log, h.notices⟩
  | some log =>
    obtain ⟨hdone, herror, hfiles⟩ := log.record_alike hS h.abreast.files (recordOf r t)
    refine ⟨hfiles, congrArg some hdone, ?_⟩
    simp only [herror, h.notices, List.append_assoc]

/-- **A case keeps benches in lockstep.** -/
theorem Lockstep.settle (h : Lockstep S before b b') (hS : FileSystem.Alike S)
    (hrunner : runner.Respects S) (index : Nat) (c : TestCase) :
    Lockstep S before (b.settle runner index c) (b'.settle runner index c) := by
  rw [Bench.settle, Bench.settle, h.abreast.attempt_eq hrunner index c]
  exact (h.launch hrunner index c).record hS _ _

/-- **Runs of benches in lockstep end alike**, and leave benches in lockstep. -/
theorem endsAlike_lockstep (h : Lockstep S before b b') (hS : FileSystem.Alike S)
    (hrunner : runner.Respects S) (hsink : b.sink = b'.sink) (cases : List TestCase) :
    EndsAlike (Lockstep S before) (b.replay runner cases) (b'.replay runner cases) := by
  have hsimulation : Simulation runner runner (fun _ _ b b' => Lockstep S before b b')
      (Lockstep S before) :=
    { attempt := fun h => h.abreast.attempt_eq hrunner _ _
      settle := fun h => h.settle hS hrunner _ _
      related := fun h => h
      launch := fun h => h.launch hrunner _ _
      printed := fun h => ⟨h.abreast.verbosity, h.abreast.testcases⟩
      progress := fun h progress => ⟨h.abreast.withProgress progress, h.log, h.notices⟩
      sink := fun h k => ⟨h.abreast.withSink k, h.log, h.notices⟩ }
  exact hsimulation.endsAlike ⟨h.abreast.restart, h.log, h.notices⟩ hsink

end Lockstep

/-! ### What a run adds to the notices -/

/-- A notice of a kind that runs give. -/
inductive FromRun : Notice → Prop where
  | tool (text : String) : FromRun (.toolOutput text)
  | warning (cause : IoError) : FromRun (captureWarning cause)

/-- A bench has, after the notices `start`, only such that runs give. -/
def AddsNotices (start : List Notice) (b : Bench σ) : Prop :=
  ∃ added, b.notices = start ++ added ∧ ∀ n ∈ added, FromRun n

theorem AddsNotices.append {start more : List Notice} {b b' : Bench σ} (h : AddsNotices start b)
    (hmore : ∀ n ∈ more, FromRun n) (hnotices : b'.notices = b.notices ++ more) :
    AddsNotices start b' := by
  obtain ⟨added, hadded, hrun⟩ := h
  refine ⟨added ++ more, by rw [hnotices, hadded, List.append_assoc], fun n hn => ?_⟩
  rcases List.mem_append.mp hn with hn | hn
  · exact hrun n hn
  · exact hmore n hn

theorem AddsNotices.launch {start : List Notice} {b : Bench σ} (h : AddsNotices start b)
    (runner : Runner σ) (index : Nat) (c : TestCase) :
    AddsNotices start (b.launch runner index c) := by
  have htool : ∀ stderr, ∀ n ∈ toolNotices stderr, FromRun n := by
    intro stderr n hn
    unfold toolNotices at hn
    split at hn
    · cases hn
    · rw [List.mem_singleton.mp hn]
      exact .tool stderr
  exact h.append (htool _) rfl

theorem AddsNotices.record {start : List Notice} {b : Bench σ} (h : AddsNotices start b)
    (r : CaseResult) (t : Timestamp) : AddsNotices start (b.record r t) := by
  unfold Bench.record
  split
  · exact h
  · refine h.append ?_ rfl
    intro n hn
    rw [Option.mem_toList, Option.map_eq_some_iff] at hn
    obtain ⟨cause, -, rfl⟩ := hn
    exact .warning cause

/-- **What a run adds to the notices** comes from the tools, or warns of a record that is not in the
journal. -/
theorem addsNotices_after (b : Bench σ) (runner : Runner σ) (cases : List TestCase) :
    AddsNotices b.notices (b.after runner cases) := by
  refine after_induction (fun h index c => h.launch runner index c) (fun h index c => ?_)
    (fun h _ => h) (fun h _ => h) ⟨[], (List.append_nil _).symm, nofun⟩
  exact (h.launch runner index c).record _ _

end Bench

end HashReplay
