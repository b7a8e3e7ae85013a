import HashReplay.Proofs.Bench.Simulation
import HashReplay.Proofs.Capture.History
import Mathlib.Data.List.ReduceOption

/-!
# Recording has no part in a run

A bench with a log does what the bench without it does.  If the line of a case does not get into the
journal, the case is in the log all the same, and there is a warning more; the run goes on as if it had
been written.

A journal that is written is a file that changes while the cases run, so here the runner must overlook
that file.  One that cannot be written changes nothing, and any runner will do.

## Main definitions

* `Bench.withLog` — the bench with another log.
* `Bench.faults` — for each case, the error of its line.
* `Bench.Warned` — notices with warnings among them.
* `Bench.AlikeButWarnings` — what may differ between two runs with a log.

## Main results

* `Bench.simulation_journal` — a run with a log keeps pace with one that has no journal.
* `Bench.faults_fullDevice` — nothing is ever written to a device that is full.
* `Bench.replay_withLog` — runs without a log, with one in memory, with a journal that cannot be written
  and with one that can.
-/

namespace HashReplay.Bench

variable {σ : Type}

/-- The bench with another log. -/
def withLog (b : Bench σ) (log : Option Capture.Log) : Bench σ := { b with log }

/-! ### Faults -/

/-- The error of recording a case, if its line does not get into the journal. -/
def fault (b : Bench σ) (runner : Runner σ) (index : Nat) (c : TestCase) : Option IoError :=
  b.log.bind fun log =>
    (log.record (b.attempt runner index c).record (b.launch runner index c).files).error

/-- The errors of recording cases, numbered from `index`, one after another. -/
def faults (b : Bench σ) (runner : Runner σ) (index : Nat) : List TestCase → List (Option IoError)
  | [] => []
  | c :: cs => b.fault runner index c :: (b.settle runner index c).faults runner (index + 1) cs

/-- No case of a run gets its line into the journal. -/
def NeverWrites (b : Bench σ) (runner : Runner σ) (cases : List TestCase) : Prop :=
  ∀ fault ∈ b.restart.faults runner 1 cases, fault ≠ none

/-- Every case of a run gets its line into the journal. -/
def AlwaysWrites (b : Bench σ) (runner : Runner σ) (cases : List TestCase) : Prop :=
  ∀ fault ∈ b.restart.faults runner 1 cases, fault = none

instance (b : Bench σ) (runner : Runner σ) (cases : List TestCase) :
    Decidable (b.AlwaysWrites runner cases) := inferInstanceAs (Decidable (∀ _ ∈ _, _))

section Settle

variable {b : Bench σ} {runner : Runner σ} {index : Nat} {c : TestCase} {log : Capture.Log}

/-- Without a log, a case is settled when it is launched. -/
theorem settle_of_log_eq_none (h : b.log = none) :
    b.settle runner index c = b.launch runner index c := by
  have hlog : (b.launch runner index c).log = none := h
  rw [settle, record, hlog]

/-- **Recording a case** notes it in the log, changes the files as the journal does, and warns of a
fault. -/
theorem settle_of_log_eq_some (h : b.log = some log) :
    b.settle runner index c = { b.launch runner index c with
      log := some (log.record (b.attempt runner index c).record (b.launch runner index c).files).log
      files := (log.record (b.attempt runner index c).record (b.launch runner index c).files).files
      notices := (b.launch runner index c).notices ++
        ((b.fault runner index c).map captureWarning).toList } := by
  have hlog : (b.launch runner index c).log = some log := h
  rw [settle, record, hlog, fault, h]
  rfl

/-- A case with a fault changes no file. -/
theorem files_settle_of_fault (h : b.fault runner index c ≠ none) :
    (b.settle runner index c).files = (b.launch runner index c).files := by
  cases hlog : b.log with
  | none => rw [settle_of_log_eq_none hlog]
  | some log =>
    rw [fault, hlog] at h
    rw [settle_of_log_eq_some hlog]
    rcases log.record_cases (b.attempt runner index c).record (b.launch runner index c).files with
      ⟨-, hdone⟩ | ⟨_, _, -, hdone⟩ | ⟨_, _, _, -, -, hdone⟩
    · simp only [hdone]
    · simp only [hdone]
    · -- this case was written
      exact absurd (congrArg Capture.Log.Recorded.error hdone) h

/-- The fault of a case is warned of. -/
theorem notices_settle (b : Bench σ) (runner : Runner σ) (index : Nat) (c : TestCase) :
    (b.settle runner index c).notices = (b.launch runner index c).notices ++
      ((b.fault runner index c).map captureWarning).toList := by
  cases hlog : b.log with
  | none => rw [settle_of_log_eq_none hlog, fault, hlog]; exact (List.append_nil _).symm
  | some log => rw [settle_of_log_eq_some hlog]

end Settle

/-! ### Benches without a journal -/

/-- A bench that has no log, or one without a journal. -/
def Journalless (b : Bench σ) : Prop := ∀ log, b.log = some log → log.journal = none

/-- A bench without a journal has no faults, changes no files by recording, and never gets a journal. -/
theorem Journalless.settle {b : Bench σ} (h : b.Journalless) (runner : Runner σ) (index : Nat)
    (c : TestCase) :
    (b.settle runner index c).Journalless ∧ b.fault runner index c = none ∧
      (b.settle runner index c).files = (b.launch runner index c).files := by
  cases hlog : b.log with
  | none =>
    rw [settle_of_log_eq_none hlog, fault, hlog]
    exact ⟨h, rfl, rfl⟩
  | some log =>
    have hrecord (r : Capture.Record) (fs : FileSystem) :
        log.record r fs = ⟨⟨log.records ++ [r], none⟩, fs, none⟩ := by
      rw [Capture.Log.record, h log hlog]
    rw [settle_of_log_eq_some hlog, fault, hlog]
    refine ⟨?_, ?_, ?_⟩
    · intro log' hlog'
      rw [← Option.some.inj hlog', hrecord]
    · rw [Option.bind_some, hrecord]
    · rw [hrecord]

/-- None of its cases has a fault. -/
theorem Journalless.faults (runner : Runner σ) : ∀ (cs : List TestCase) {b : Bench σ} (index : Nat),
    b.Journalless → ∀ fault ∈ b.faults runner index cs, fault = none := by
  intro cs
  induction cs with
  | nil => intro b index _ fault hfault; cases hfault
  | cons c cs ih =>
    intro b index h fault hfault
    obtain ⟨hnext, hnone, -⟩ := h.settle runner index c
    rcases List.mem_cons.mp hfault with rfl | hfault
    · exact hnone
    · exact ih (index + 1) hnext fault hfault

/-! ### Warnings -/

/-- The notices `ns'` are the notices `ns` with a warning for each of the causes put in. -/
inductive Warned : List IoError → List Notice → List Notice → Prop where
  | nil : Warned [] [] []
  | notice {causes : List IoError} {ns ns' : List Notice} (n : Notice) (h : Warned causes ns ns') :
      Warned causes (ns ++ [n]) (ns' ++ [n])
  | warning {causes : List IoError} {ns ns' : List Notice} (cause : IoError)
      (h : Warned causes ns ns') : Warned (causes ++ [cause]) ns (ns' ++ [captureWarning cause])

/-- The same is added to both. -/
theorem Warned.append {causes : List IoError} {ns ns' : List Notice} (h : Warned causes ns ns') :
    ∀ added : List Notice, Warned causes (ns ++ added) (ns' ++ added) := by
  intro added
  induction added using List.reverseRecOn with
  | nil => rwa [List.append_nil, List.append_nil]
  | append_singleton added n ih =>
    rw [← List.append_assoc, ← List.append_assoc]
    exact .notice n ih

theorem Warned.refl (ns : List Notice) : Warned [] ns ns := Warned.nil.append ns

/-- Where there is no cause, there is no difference. -/
theorem Warned.eq_of_nil {ns ns' : List Notice} (h : Warned [] ns ns') : ns = ns' := by
  generalize hcauses : ([] : List IoError) = causes at h
  induction h with
  | nil => rfl
  | notice n _ ih => rw [ih hcauses]
  | warning cause _ _ => simp at hcauses

/-- If there is a fault, one more warning is put in. -/
theorem Warned.fault {causes : List IoError} {ns ns' : List Notice} (h : Warned causes ns ns')
    (fault : Option IoError) :
    Warned (causes ++ fault.toList) ns (ns' ++ (fault.map captureWarning).toList) := by
  cases fault with
  | none => rwa [Option.map_none, Option.toList_none, Option.toList_none, List.append_nil,
      List.append_nil]
  | some cause => exact .warning cause h

/-! ### Keeping pace -/

/-- Two benches that were started with the records `start?`, if there is a log, and `start`, and that have
both added the records `new` since.  The second has had a fault or none for each of them, and has warned
of the faults. -/
structure KeepsPace (S : FileSystem → FileSystem → Prop) (start? : Option (List Capture.Record))
    (start new : List Capture.Record) (faults : List (Option IoError)) (b b' : Bench σ) : Prop where
  abreast : Abreast S b b'
  recorded : b.recorded = start?.map (· ++ new)
  recorded' : b'.recorded = some (start ++ new)
  length : faults.length = new.length
  warned : Warned faults.reduceOption b.notices b'.notices

section KeepsPace

variable {S : FileSystem → FileSystem → Prop} {start? : Option (List Capture.Record)}
  {start new : List Capture.Record} {faults all : List (Option IoError)} {runner : Runner σ}
  {b b' : Bench σ}

/-- Benches that keep pace do so until a case is launched. -/
theorem KeepsPace.launch (h : KeepsPace S start? start new faults b b') (hrunner : runner.Respects S)
    (index : Nat) (c : TestCase) :
    KeepsPace S start? start new faults (b.launch runner index c) (b'.launch runner index c) := by
  obtain ⟨habreast, added, hnotices, hnotices'⟩ := h.abreast.launch hrunner index c
  refine ⟨habreast, h.recorded, h.recorded', h.length, ?_⟩
  rw [hnotices, hnotices']
  exact h.warned.append added

/-- **Benches that keep pace** do so when a case is settled, if the first has no journal and the files
stay related. -/
theorem KeepsPace.settle (h : KeepsPace S start? start new faults b b') (hrunner : runner.Respects S)
    {index : Nat} {c : TestCase} (hjournal : b.Journalless)
    (hfiles : S (b.settle runner index c).files (b'.settle runner index c).files) :
    KeepsPace S start? start (new ++ [(b'.attempt runner index c).record])
      (faults ++ [b'.fault runner index c]) (b.settle runner index c) (b'.settle runner index c) := by
  have hattempt := h.abreast.attempt_eq hrunner index c
  obtain ⟨-, hnone, -⟩ := hjournal.settle runner index c
  have hwarned := (h.launch hrunner index c).warned.fault (b'.fault runner index c)
  refine ⟨h.abreast.settle hrunner hfiles, ?_, ?_, ?_, ?_⟩
  · rw [recorded_settle, h.recorded, hattempt, Option.map_map]
    congr 1
    funext records
    exact List.append_assoc ..
  · rw [recorded_settle, h.recorded', Option.map_some, List.append_assoc]
  · rw [List.length_append, List.length_append, h.length, List.length_singleton,
      List.length_singleton]
  · rw [notices_settle, notices_settle, hnone, Option.map_none, Option.toList_none, List.append_nil,
      List.reduceOption_append, List.reduceOption_singleton]
    exact hwarned

/-- **A run with a log keeps pace with one that has no journal.**  What is assumed of the bench with the
log is that recording on it keeps the files related. -/
theorem simulation_journal {P : Nat → List TestCase → Bench σ → Prop} (hrunner : runner.Respects S)
    (hnext : ∀ {index c cs b}, P index (c :: cs) b → P (index + 1) cs (b.settle runner index c))
    (hfiles : ∀ {index c cs b files}, P index (c :: cs) b →
      S files (b.launch runner index c).files → S files (b.settle runner index c).files) :
    Simulation runner runner
      (fun index cs b b' => b.Journalless ∧ P index cs b' ∧ ∃ new faults,
        KeepsPace S start? start new faults b b' ∧ all = faults ++ b'.faults runner index cs)
      (fun b b' => ∃ new faults, KeepsPace S start? start new faults b b' ∧ faults <+: all) where
  attempt := by
    rintro index c cs b b' ⟨-, -, new, faults, h, -⟩
    exact h.abreast.attempt_eq hrunner index c
  settle := by
    rintro index c cs b b' ⟨hjournal, hP, new, faults, h, hall⟩
    obtain ⟨hjournal', -, hsame⟩ := hjournal.settle runner index c
    have hrelated : S (b.settle runner index c).files (b'.settle runner index c).files := by
      rw [hsame]
      exact hfiles hP (h.launch hrunner index c).abreast.files
    refine ⟨hjournal', hnext hP, _, _, h.settle hrunner hjournal hrelated, ?_⟩
    rw [hall, Bench.faults, List.append_assoc, List.singleton_append]
  related := by
    rintro index cs b b' ⟨-, -, new, faults, h, hall⟩
    exact ⟨new, faults, h, _, hall.symm⟩
  launch := by
    rintro index c cs b b' ⟨-, -, new, faults, h, hall⟩
    exact ⟨new, faults, h.launch hrunner index c, _, hall.symm⟩
  printed := by
    rintro b b' ⟨new, faults, h, -⟩
    exact ⟨h.abreast.verbosity, h.abreast.testcases⟩
  progress := by
    rintro b b' ⟨new, faults, h, hall⟩ progress
    exact ⟨new, faults, ⟨h.abreast.withProgress progress, h.recorded, h.recorded', h.length, h.warned⟩,
      hall⟩
  sink := by
    rintro b b' ⟨new, faults, h, hall⟩ k
    exact ⟨new, faults, ⟨h.abreast.withSink k, h.recorded, h.recorded', h.length, h.warned⟩, hall⟩

/-- What this says of whole runs: of a bench without a journal, and of the same bench with a log. -/
theorem endsAlike_withLog {P : Nat → List TestCase → Bench σ → Prop} (hrunner : runner.Respects S)
    (hnext : ∀ {index c cs b}, P index (c :: cs) b → P (index + 1) cs (b.settle runner index c))
    (hfiles : ∀ {index c cs b files}, P index (c :: cs) b →
      S files (b.launch runner index c).files → S files (b.settle runner index c).files)
    (cases : List TestCase) (log : Option Capture.Log) (hlog : (b.withLog log).Journalless)
    (old : List Capture.Record) (journal : Option Capture.Journal)
    (hP : P 1 cases (b.withLog (some ⟨old, journal⟩)).restart) (hS : S b.files b.files) :
    EndsAlike (fun left left' => ∃ new faults,
        KeepsPace S (log.map (·.records)) old new faults left left' ∧
          faults <+: (b.withLog (some ⟨old, journal⟩)).restart.faults runner 1 cases)
      ((b.withLog log).replay runner cases)
      ((b.withLog (some ⟨old, journal⟩)).replay runner cases) := by
  have habreast : Abreast S (b.withLog log) (b.withLog (some ⟨old, journal⟩)) :=
    ⟨rfl, rfl, rfl, rfl, rfl, rfl, rfl, hS⟩
  refine (simulation_journal hrunner hnext hfiles).endsAlike
    ⟨hlog, hP, [], [], ⟨habreast.restart, ?_, ?_, rfl, .refl _⟩, rfl⟩ rfl
  · cases log <;> simp [recorded, withLog, restart]
  · exact congrArg some (List.append_nil old).symm

end KeepsPace

/-! ### Journals that are never written -/

/-- A device that is full never gets a line, if the runner leaves it where it is. -/
theorem faults_fullDevice {m : Capture.Journal}
    (hrunner : ∀ invocation world files, files.lookup m.path = some .fullDevice →
      (runner invocation world files).files.lookup m.path = some .fullDevice) :
    ∀ (cs : List TestCase) (index : Nat) (b : Bench σ) (old : List Capture.Record),
      b.log = some ⟨old, some m⟩ → b.files.lookup m.path = some .fullDevice →
        ∀ fault ∈ b.faults runner index cs, fault ≠ none := by
  intro cs
  induction cs with
  | nil => intro index b old _ _ fault hfault; cases hfault
  | cons c cs ih =>
    intro index b old hlog hdevice fault hfault
    have hlaunch : (b.launch runner index c).files.lookup m.path = some .fullDevice :=
      hrunner _ _ _ hdevice
    have hwrite (r : Capture.Record) : ∃ e, m.write r (b.launch runner index c).files = .error e := by
      unfold Capture.Journal.write
      cases r.line? with
      | none => exact ⟨_, rfl⟩
      | some line =>
        simp only [FileSystem.writeAt, hlaunch]
        exact ⟨_, rfl⟩
    obtain ⟨e, he⟩ := hwrite (b.attempt runner index c).record
    have hdone : Capture.Log.record ⟨old, some m⟩ (b.attempt runner index c).record
        (b.launch runner index c).files =
          ⟨⟨old ++ [(b.attempt runner index c).record], some m⟩, (b.launch runner index c).files,
            some e⟩ := by
      simp only [Capture.Log.record, he]
    have hfaulty : b.fault runner index c = some e := by
      rw [Bench.fault, hlog, Option.bind_some, hdone]
    rcases List.mem_cons.mp hfault with rfl | hfault
    · rw [hfaulty]
      exact Option.some_ne_none e
    · refine ih (index + 1) _ (old ++ [(b.attempt runner index c).record]) ?_ ?_ fault hfault
      · rw [settle_of_log_eq_some hlog, hdone]
      · rwa [files_settle_of_fault (hfaulty ▸ Option.some_ne_none e)]

/-! ### Journals that are written -/

/-- A bench whose journal is at a path. -/
def JournalAt (p : Path) (b : Bench σ) : Prop :=
  ∃ log m, b.log = some log ∧ log.journal = some m ∧ m.path = p

/-- The journal stays where it is, and recording changes only the file there. -/
theorem JournalAt.settle {p : Path} {b : Bench σ} (h : b.JournalAt p) (runner : Runner σ)
    (index : Nat) (c : TestCase) :
    (b.settle runner index c).JournalAt p ∧
      ∀ files : FileSystem, files.AgreeBut p (b.launch runner index c).files →
        files.AgreeBut p (b.settle runner index c).files := by
  obtain ⟨log, m, hlog, hm, hpath⟩ := h
  rw [settle_of_log_eq_some hlog]
  rcases log.record_cases (b.attempt runner index c).record (b.launch runner index c).files with
    ⟨hnone, -⟩ | ⟨n, e, hn, hdone⟩ | ⟨n, n', fs', hn, hwrite, hdone⟩
  · rw [hm] at hnone
    cases hnone
  · obtain rfl : m = n := Option.some.inj (hm.symm.trans hn)
    rw [hdone]
    exact ⟨⟨_, m, rfl, rfl, hpath⟩, fun _ hagree => hagree⟩
  · obtain rfl : m = n := Option.some.inj (hm.symm.trans hn)
    obtain ⟨text, -, hat, rfl⟩ := Capture.Journal.write_ok hwrite
    rw [hdone]
    refine ⟨⟨_, _, rfl, rfl, hpath⟩, fun files hagree => ?_⟩
    rcases FileSystem.writeAt_ok hat with ⟨bytes, hfile, rfl⟩ | ⟨-, rfl⟩
    · subst hpath
      exact (hagree.symm.put_left hfile _).symm
    · exact hagree

/-! ### Runs with a log and without -/

/-- What is left of two runs that both have a log, which held the records `old` before, if the second of
them gets no line into its journal.  All is the same but the warnings, of which there is one for each
record that has been added. -/
def AlikeButWarnings (S : FileSystem → FileSystem → Prop) (old : List Capture.Record)
    (left left' : Bench σ) : Prop :=
  Abreast S left left' ∧ ∃ new causes, left.recorded = some (old ++ new) ∧
    left'.recorded = some (old ++ new) ∧ causes.length = new.length ∧
    Warned causes left.notices left'.notices

/-- **Recording has no part in a run.**  Whatever its sink refuses, a run without a log and one with a log
in memory end the same and leave the same.  So does a run with a journal that cannot be written: it has
recorded what the others have, and differs from them only in the warnings, one for each record.

Of a run with a journal that is written the same is true, except that the file of the journal is another
one, so the runner must not look at that. -/
theorem replay_withLog (b : Bench σ) (runner : Runner σ) (cases : List TestCase)
    (old : List Capture.Record) :
    let silent := b.withLog none
    let memory := b.withLog (some ⟨old, none⟩)
    EndsAlike (fun left left' => Abreast Eq left left' ∧ left.notices = left'.notices)
        (silent.replay runner cases) (memory.replay runner cases) ∧
      ∀ m : Capture.Journal,
        let failing := b.withLog (some ⟨old, some m⟩)
        failing.NeverWrites runner cases →
          EndsAlike (AlikeButWarnings Eq old) (memory.replay runner cases)
              (failing.replay runner cases) ∧
            ∀ m' : Capture.Journal,
              let working := b.withLog (some ⟨old, some m'⟩)
              working.AlwaysWrites runner cases → runner.Overlooks m'.path →
                EndsAlike (AlikeButWarnings (FileSystem.AgreeBut m'.path) old)
                  (working.replay runner cases) (failing.replay runner cases) := by
  intro silent memory
  have hmemory : memory.Journalless := by
    intro log hlog
    rw [← Option.some.inj hlog]
  refine ⟨?_, ?_⟩
  · -- a log in memory has no faults, so nothing is warned of
    have h := endsAlike_withLog (b := b) runner.respects_eq (P := fun _ _ b => b.Journalless)
      (fun h => (h.settle ..).1) (fun h hfiles => hfiles.trans (h.settle ..).2.2.symm) cases none nofun
      old none hmemory rfl
    refine h.imp ?_
    rintro left left' ⟨new, faults, hpace, hpart⟩
    have hnone : faults.reduceOption = [] :=
      List.filterMap_eq_nil_iff.mpr fun fault hfault =>
        Journalless.faults runner cases 1 (b := memory.restart) hmemory fault (hpart.mem hfault)
    have hwarned := hpace.warned
    rw [hnone] at hwarned
    exact ⟨hpace.abreast, hwarned.eq_of_nil⟩
  · intro m failing hnever
    have h := endsAlike_withLog (b := b) runner.respects_eq
      (P := fun index cs b => ∀ fault ∈ b.faults runner index cs, fault ≠ none)
      (fun h fault hfault => h fault (List.mem_cons_of_mem _ hfault))
      (fun h hfiles => hfiles.trans (files_settle_of_fault (h _ List.mem_cons_self)).symm) cases
      (some ⟨old, none⟩) hmemory old (some m) hnever rfl
    have hcauses {faults : List (Option IoError)} {new : List Capture.Record}
        (hpart : faults <+: failing.restart.faults runner 1 cases)
        (hlength : faults.length = new.length) : faults.reduceOption.length = new.length := by
      rw [← hlength, List.reduceOption_length_eq_iff]
      intro fault hfault
      exact Option.isSome_iff_ne_none.mpr (hnever fault (hpart.mem hfault))
    refine ⟨h.imp ?_, ?_⟩
    · rintro left left' ⟨new, faults, hpace, hpart⟩
      exact ⟨hpace.abreast, new, _, hpace.recorded, hpace.recorded', hcauses hpart hpace.length,
        hpace.warned⟩
    · intro m' working halways hoverlooks
      -- both runs are compared with the one in memory
      have h' := endsAlike_withLog (b := b) hoverlooks (P := fun _ _ b => b.JournalAt m'.path)
        (fun h => (h.settle ..).1) (fun h hfiles => (h.settle ..).2 _ hfiles) cases (some ⟨old, none⟩)
        hmemory old (some m') ⟨_, m', rfl, rfl, rfl⟩ (.refl _ _)
      refine h'.join ?_ h
      rintro left left₁ left₂ ⟨new₁, faults₁, hpace₁, hpart₁⟩ ⟨new, faults, hpace, hpart⟩
      have hnone : faults₁.reduceOption = [] :=
        List.filterMap_eq_nil_iff.mpr fun fault hfault => halways fault (hpart₁.mem hfault)
      have hnotices := hpace₁.warned
      rw [hnone] at hnotices
      have hnew : new₁ = new :=
        List.append_cancel_left (Option.some.inj (hpace₁.recorded.symm.trans hpace.recorded))
      refine ⟨hpace₁.abreast.join hpace.abreast ?_, new, _, hnew ▸ hpace₁.recorded', hpace.recorded',
        hcauses hpart hpace.length, hnotices.eq_of_nil ▸ hpace.warned⟩
      rw [← hpace.abreast.files]
      exact hpace₁.abreast.files.symm

/-- A bench beside a device that is full and a file. -/
def journalBench : Bench Nat :=
  { sampleBench .unlimited with files := ⟨[(["full"], .fullDevice), (["log"], .file [])], []⟩ }

/-- A journal on the device is never written, and one on the file always is. -/
theorem replay_withLog_sample :
    EndsAlike (AlikeButWarnings Eq [])
        ((journalBench.withLog (some ⟨[], none⟩)).replay sampleRunner sampleCases)
        ((journalBench.withLog (some ⟨[], some ⟨["full"], 0⟩⟩)).replay sampleRunner sampleCases) ∧
      EndsAlike (AlikeButWarnings (FileSystem.AgreeBut ["log"]) [])
        ((journalBench.withLog (some ⟨[], some ⟨["log"], 0⟩⟩)).replay sampleRunner sampleCases)
        ((journalBench.withLog (some ⟨[], some ⟨["full"], 0⟩⟩)).replay sampleRunner sampleCases) := by
  have hnever : (journalBench.withLog (some ⟨[], some ⟨["full"], 0⟩⟩)).NeverWrites sampleRunner
      sampleCases := faults_fullDevice (m := ⟨["full"], 0⟩) (fun _ _ _ h => h) sampleCases 1 _ [] rfl rfl
  have halways : (journalBench.withLog (some ⟨[], some ⟨["log"], 0⟩⟩)).AlwaysWrites sampleRunner
      sampleCases := by decide +kernel
  obtain ⟨-, hjournal⟩ := replay_withLog journalBench sampleRunner sampleCases []
  obtain ⟨hmemory, hfile⟩ := hjournal ⟨["full"], 0⟩ hnever
  exact ⟨hmemory, hfile ⟨["log"], 0⟩ halways (Runner.overlooks_ofSource sampleSource ["log"])⟩

end HashReplay.Bench
