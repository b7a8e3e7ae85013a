import HashReplay.Proofs.Bench.Ending
import Mathlib.Data.List.Forall2

/-!
# Which launches are recorded

A case is recorded when its block has been printed, and it has been launched by then.  If the block is
refused, the run ends between the two, and that one launch has no record.  Wherever else a report is
refused, and if it is not refused at all, launches and records are one to one and in order.

## Main definitions

* `Capture.Record.TellsOf` — a record tells of an attempt.
* `Bench.EachLaunchRecorded` — a run has recorded everything that it has launched.

## Main results

* `Bench.eachLaunchRecorded_after_iff` — a run does so unless a block is refused, and otherwise lacks
  the record of its last launch.
* `Bench.unrecorded_launch` — a run that lacks a record.
-/

namespace HashReplay

/-- A record tells of an attempt: of its number, its argument vector and how it went. -/
structure Capture.Record.TellsOf (r : Capture.Record) (a : Attempt) : Prop where
  seq : r.seq = a.index
  argv : r.argv = a.invocation.argv
  outcome : r.outcome = .ofResult (Bench.judge a.answer a.testCase)

/-- The records of attempts tell of them, one by one. -/
theorem Attempt.forall₂_tellsOf (as : List Attempt) :
    List.Forall₂ Capture.Record.TellsOf (as.map Attempt.record) as := by
  rw [List.forall₂_map_left_iff, List.forall₂_same]
  intro a _
  exact ⟨rfl, rfl, rfl⟩

namespace Bench

variable {σ : Type}

/-- What a run of `b` that left `b'` has launched are these attempts, and what it has added to the log
are these records. -/
structure Adds (b : Bench σ) (runner : Runner σ) (cases : List TestCase) (b' : Bench σ)
    (attempts : List Attempt) (new : List Capture.Record) : Prop where
  launched : b'.launched = b.launched ++ attempts.map Attempt.invocation
  attempted : attempts <+: b.course runner cases
  /-- The attempts are numbered from one. -/
  index : attempts.map Attempt.index = List.range' 1 attempts.length
  recorded : b'.recorded = b.recorded.map (· ++ new)

/-- The records that a run of `b` has added to the log, when it left `b'`, tell one by one and in order
of everything that it has launched. -/
def EachLaunchRecorded (b : Bench σ) (runner : Runner σ) (cases : List TestCase) (b' : Bench σ) :
    Prop :=
  ∃ attempts new, b.Adds runner cases b' attempts new ∧
    List.Forall₂ Capture.Record.TellsOf new attempts

section Recorded

variable {b : Bench σ} {runner : Runner σ} {cases : List TestCase} {b' : Bench σ}

/-- What has been launched and recorded at a stage are the first attempts of the run. -/
theorem StandsAt.adds {launches records : Nat} {progress : Progress}
    (h : b.StandsAt runner cases launches records progress b') :
    b.Adds runner cases b' ((b.course runner cases).take launches)
      (((b.course runner cases).take records).map Attempt.record) := by
  have hinvocation := map_invocation_attempts runner cases b.restart 1
  have hindex := map_index_attempts runner cases b.restart 1
  refine ⟨?_, List.take_prefix _ _, ?_, ?_⟩
  · rw [h.launched, List.map_take, List.map_take, course, hinvocation]
    rfl
  · rw [List.map_take, course, hindex]
    exact List.ext_getElem (by simp) (by simp)
  · rw [h.recorded, newRecords, List.map_take]

/-- With as many records as launches, each launch has its record. -/
theorem StandsAt.eachLaunchRecorded {n : Nat} {progress : Progress}
    (h : b.StandsAt runner cases n n progress b') : b.EachLaunchRecorded runner cases b' :=
  ⟨_, _, h.adds, Attempt.forall₂_tellsOf _⟩

/-- At every stage but a block, there are as many records as launches. -/
theorem LeftAt.eachLaunchRecorded {stage : Report.Stage} (h : b.LeftAt runner cases stage b')
    (hstage : ∀ i, stage ≠ .block i) : b.EachLaunchRecorded runner cases b' := by
  cases stage with
  | header => exact StandsAt.eachLaunchRecorded h
  | echo i => exact h.2.2.eachLaunchRecorded
  | block i => exact absurd rfl (hstage i)
  | closing => exact StandsAt.eachLaunchRecorded h
  | flush => exact StandsAt.eachLaunchRecorded h

/-- **The launch without a record.**  At the block of a case, that case is the last launch, and the
records tell of the launches before it. -/
theorem LeftAt.unrecorded {i : Nat} (h : b.LeftAt runner cases (.block i) b') :
    ∃ before last new, b.Adds runner cases b' (before ++ [last]) new ∧ last.index = i ∧
      List.Forall₂ Capture.Record.TellsOf new before := by
  obtain ⟨hpos, hle, hstands⟩ := h
  have hlt : i - 1 < (b.course runner cases).length := by
    rw [length_course]
    omega
  have hadds := hstands.adds
  -- of the first `i` attempts, all but the last one are recorded
  have htake : (b.course runner cases).take i =
      (b.course runner cases).take (i - 1) ++ [(b.course runner cases)[i - 1]] := by
    rw [List.take_append_getElem hlt, Nat.sub_add_cancel hpos]
  rw [htake] at hadds
  refine ⟨_, _, _, hadds, ?_, Attempt.forall₂_tellsOf _⟩
  have hindex : ((b.course runner cases).map Attempt.index)[i - 1]? = some i := by
    rw [course, map_index_attempts, List.getElem?_range' (by omega)]
    congr 1
    omega
  rw [List.getElem?_map, List.getElem?_eq_getElem hlt] at hindex
  exact Option.some.inj hindex

/-- If the last launch has no record, there are fewer records than launches. -/
theorem Adds.lacks_record {before : List Attempt} {last : Attempt}
    {new old : List Capture.Record} (h : b.Adds runner cases b' (before ++ [last]) new)
    (hnew : List.Forall₂ Capture.Record.TellsOf new before) (hlog : b.recorded = some old) :
    ¬b.EachLaunchRecorded runner cases b' := by
  rintro ⟨attempts, new', h', htells⟩
  have hrecorded := h.recorded.symm.trans h'.recorded
  rw [hlog] at hrecorded
  have hnew' : new = new' := List.append_cancel_left (Option.some.inj hrecorded)
  have hlaunched := List.append_cancel_left (h.launched.symm.trans h'.launched)
  have hlength := congrArg List.length hlaunched
  rw [List.length_map, List.length_map, List.length_append, List.length_singleton] at hlength
  have hbefore := hnew.length_eq
  have hattempts := htells.length_eq
  rw [← hnew'] at hattempts
  omega

end Recorded

/-- **Which launches are recorded.**  If there is a log, a run records each of its launches, one to one
and in order, exactly when its report is not refused at the block of a case.  If it is refused there,
the last launch is the one of that case, and it is the only one without a record. -/
theorem eachLaunchRecorded_after_iff {b : Bench σ} (runner : Runner σ) (cases : List TestCase)
    {old : List Capture.Record} (hlog : b.recorded = some old) :
    (b.EachLaunchRecorded runner cases (b.after runner cases) ↔
        ∀ i, ¬Report.BreaksAt b.sink (b.report runner cases) (.block i)) ∧
      ∀ i, Report.BreaksAt b.sink (b.report runner cases) (.block i) →
        ∃ before last new, b.Adds runner cases (b.after runner cases) (before ++ [last]) new ∧
          last.index = i ∧ List.Forall₂ Capture.Record.TellsOf new before := by
  refine ⟨⟨?_, ?_⟩, fun i hbreaks => (leftAt_after hbreaks).unrecorded⟩
  · intro heach i hbreaks
    obtain ⟨before, last, new, hadds, -, hnew⟩ := (leftAt_after hbreaks).unrecorded
    exact hadds.lacks_record hnew hlog heach
  · intro hblock
    rcases b.after_cases runner cases with ⟨stage, hbreaks, hleft⟩ | ⟨-, hcomplete⟩
    · refine hleft.eachLaunchRecorded fun i hstage => ?_
      rw [hstage] at hbreaks
      exact hblock i hbreaks
    · exact hcomplete.eachLaunchRecorded

/-- A sink that is full after two lines refuses the block of the second case, whose launch is then the
one without a record. -/
theorem eachLaunchRecorded_after_iff_sample : ∃ before last new,
    (sampleBench ⟨"", .upTo 2, .noSpace, none⟩).Adds sampleRunner sampleCases
        ((sampleBench ⟨"", .upTo 2, .noSpace, none⟩).after sampleRunner sampleCases)
        (before ++ [last]) new ∧
      last.index = 2 ∧ List.Forall₂ Capture.Record.TellsOf new before := by
  obtain ⟨-, hlast⟩ := eachLaunchRecorded_after_iff (b := sampleBench ⟨"", .upTo 2, .noSpace, none⟩)
    sampleRunner sampleCases rfl
  -- the header, both echoes and the block of the first case are taken
  refine hlast 2 (.write (List.take_append_drop 4 _).symm rfl ?_)
  decide

/-- **A launch without a record.**  A sink that takes nothing refuses the block of the first case, which
has been launched by then. -/
theorem unrecorded_launch :
    ((sampleBench ⟨"", .upTo 0, .noSpace, none⟩).after sampleRunner sampleCases).launched.length = 1 ∧
      ((sampleBench ⟨"", .upTo 0, .noSpace, none⟩).after sampleRunner sampleCases).recorded =
        some [] ∧
      ¬(sampleBench ⟨"", .upTo 0, .noSpace, none⟩).EachLaunchRecorded sampleRunner sampleCases
        ((sampleBench ⟨"", .upTo 0, .noSpace, none⟩).after sampleRunner sampleCases) := by
  refine ⟨rfl, rfl, ?_⟩
  rintro ⟨attempts, new, hadds, htells⟩
  have hlaunched : attempts.length = 1 := by
    have h := congrArg List.length hadds.launched
    rw [List.length_append, List.length_map] at h
    exact (Nat.zero_add _).symm.trans h.symm
  have hrecorded : new = [] := (Option.some.inj hadds.recorded).symm
  have hlength := htells.length_eq
  rw [hrecorded, hlaunched] at hlength
  cases hlength

end Bench

end HashReplay
