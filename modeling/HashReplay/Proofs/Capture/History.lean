import HashReplay.Capture.Log
import HashReplay.Proofs.Capture.RoundTrip
import HashReplay.Proofs.FileSystem.Entries
import HashReplay.Text.Lines

/-!
# Histories of capture logs

An archive is asked for new logs, with a journal or without, for further handles, and to record.  What
was asked and answered, one event after another, tells which log every handle belongs to and which
records were added to it.  The logs agree with that account at every moment: every handle sees the
records of its log in the order of the calls, whether or not the journal could be written, and the calls
on one log change no other.

A journal that no other log writes to holds one line of JSON for each call that was answered without an
error.  Devices are exempt, since they keep nothing.

## Main definitions

* `Operation`, `Event` — what an archive is asked, and how it answers.
* `Archive.perform`, `Archive.history` — one operation, and several in a row.
* `Ledger`, `ledger` — for every log its path, and for every handle its log, by the events.
* `callsOn` — the calls to record on a log, with their answers, by the events.
* `Log.Partitioned` — how the questions to a log hang together.
* `HoldsLines` — a file holds one line of JSON for each record.
* `Sound` — an archive agrees with the events.

## Main results

* `sound_perform` — every operation keeps an archive in agreement with the events.
* `sound_history` — so does every history.
* `Archive.history_sees` — what the handles see after any history, and what the journals hold.
-/

namespace HashReplay.Capture

open Text (ofLines)
open FileSystem (IsDevice)

/-! ### Operations and events -/

/-- What an archive can be asked. -/
inductive Operation where
  /-- A log without a journal. -/
  | new
  /-- A log whose journal is a new file. -/
  | openAt (path : String)
  /-- One more handle to the log of a handle. -/
  | clone (handle : Nat)
  /-- To record through a handle. -/
  | record (handle : Nat) (r : Record)

/-- An operation, and the error that it was answered with, if any: the file could not be opened, or the
journal has no line for the record. -/
structure Event where
  operation : Operation
  error : Option IoError

namespace Archive

/-- Do one operation. -/
def perform (a : Archive) : Operation → Archive × Option IoError
  | .new => (a.new, none)
  | .openAt path =>
    match a.openAt path with
    | .error e => (a, some e)
    | .ok a' => (a', none)
  | .clone h => (a.clone h, none)
  | .record h r => a.record h r

/-- Do operations one after another; the events come after those of the past. -/
def history (a : Archive) (past : List Event) : List Operation → Archive × List Event
  | [] => (a, past)
  | o :: os => (a.perform o).1.history (past ++ [⟨o, (a.perform o).2⟩]) os

end Archive

/-! ### What the events tell -/

/-- For every log the path of its journal as written, if it has one, and for every handle the number of
its log. -/
structure Ledger where
  paths : List (Option String)
  owners : List Nat

namespace Ledger

/-- Note an event: a log that was made, with a handle to it, or one more handle to a log. -/
def note (b : Ledger) (e : Event) : Ledger :=
  match e.operation, e.error with
  | .new, _ => ⟨b.paths ++ [none], b.owners ++ [b.paths.length]⟩
  | .openAt path, none => ⟨b.paths ++ [some path], b.owners ++ [b.paths.length]⟩
  | .openAt _, some _ => b
  | .clone h, _ => { b with owners := b.owners ++ b.owners[h]?.toList }
  | .record _ _, _ => b

/-- The call to record on log `i` that an event is, with its answer, if it is one. -/
def call (b : Ledger) (i : Nat) (e : Event) : List (Record × Option IoError) :=
  match e.operation with
  | .record h r => if b.owners[h]? = some i then [(r, e.error)] else []
  | _ => []

/-- The calls on log `i` among further events. -/
def calls (b : Ledger) (i : Nat) : List Event → List (Record × Option IoError)
  | [] => []
  | e :: es => b.call i e ++ (b.note e).calls i es

/-- Whether no other log has a journal where log `i` has it, if that is at `path`. -/
def OwnPath (b : Ledger) (files : FileSystem) (i : Nat) (path : String) : Prop :=
  ∀ j other, b.paths[j]? = some (some other) → j ≠ i → files.absolute other ≠ files.absolute path

end Ledger

/-- The ledger of all events so far. -/
def ledger (events : List Event) : Ledger := events.foldl Ledger.note ⟨[], []⟩

/-- The calls on log `i` so far. -/
def callsOn (events : List Event) (i : Nat) : List (Record × Option IoError) :=
  Ledger.calls ⟨[], []⟩ i events

theorem ledger_concat (events : List Event) (e : Event) :
    ledger (events ++ [e]) = (ledger events).note e := by
  rw [ledger, List.foldl_append]
  rfl

theorem Ledger.calls_concat (b : Ledger) (i : Nat) (events : List Event) (e : Event) :
    b.calls i (events ++ [e]) = b.calls i events ++ (events.foldl note b).call i e := by
  induction events generalizing b with
  | nil => simp [calls]
  | cons d events ih => rw [List.cons_append, calls, ih, calls, List.append_assoc, List.foldl_cons]

theorem callsOn_concat (events : List Event) (e : Event) (i : Nat) :
    callsOn (events ++ [e]) i = callsOn events i ++ (ledger events).call i e :=
  Ledger.calls_concat _ i events e

/-- An event that is no call on a log leaves the calls on it as they were. -/
theorem callsOn_concat_of_call_eq_nil {events : List Event} {e : Event} {i : Nat}
    (hcall : (ledger events).call i e = []) : callsOn (events ++ [e]) i = callsOn events i := by
  rw [callsOn_concat, hcall, List.append_nil]

/-! ### Questions to a log -/

/-- How the questions to a log hang together: its passes and its failures are its records, each in one of
them and in their order, and the numbers agree with that. -/
structure Log.Partitioned (l : Log) : Prop where
  passes_sublist : l.passes.Sublist l.records
  failures_sublist : l.failures.Sublist l.records
  perm : (l.passes ++ l.failures).Perm l.records
  passed : ∀ r ∈ l.passes, r.outcome.isPass = true
  failed : ∀ r ∈ l.failures, r.outcome.isPass = false
  size : l.size = l.passes.length + l.failures.length
  isEmpty : l.isEmpty = true ↔ l.size = 0
  count : ∀ p, l.count p = (l.records.filter p).length

/-- **Passes and failures partition the records** of every log. -/
theorem Log.partitioned (l : Log) : l.Partitioned := by
  have hperm : (l.passes ++ l.failures).Perm l.records := List.filter_append_perm _ _
  refine ⟨List.filter_sublist, List.filter_sublist, hperm, ?_, ?_, ?_, ?_, ?_⟩
  · exact fun r hr => (List.mem_filter.mp hr).2
  · intro r hr
    have hnot := (List.mem_filter.mp hr).2
    rwa [Bool.not_eq_true'] at hnot
  · rw [size, ← hperm.length_eq, List.length_append]
  · rw [isEmpty, size, List.isEmpty_iff, List.length_eq_zero_iff]
  · exact fun p => List.countP_eq_length_filter

/-! ### Journals -/

/-- The lines that calls leave in a journal: those of the calls that were answered without an error. -/
def written (calls : List (Record × Option IoError)) : List (List Char) :=
  calls.filterMap fun c => if c.2.isNone then c.1.json? else none

/-- A file holds the lines of the calls, and writing goes on at its end; or the journal is a device. -/
def Mirrors (fs : FileSystem) (m : Journal) (calls : List (Record × Option IoError)) : Prop :=
  (∃ bytes, fs.lookup m.path = some (.file bytes) ∧ m.offset = bytes.length ∧
      bytes = Text.Utf8.encode (ofLines (written calls))) ∨
    IsDevice (fs.lookup m.path)

/-- A file holds one line of JSON for each record, in their order, and no other line; a device is
exempt. -/
def HoldsLines (fs : FileSystem) (p : Path) (records : List Record) : Prop :=
  ∃ texts, records.mapM Record.json? = some texts ∧ (∀ t ∈ texts, '\n' ∉ t) ∧
    (fs.lookup p = some (.file (Text.Utf8.encode (ofLines texts))) ∨ IsDevice (fs.lookup p))

theorem written_concat (calls : List (Record × Option IoError)) (c : Record × Option IoError) :
    written (calls ++ [c]) = written calls ++ written [c] := List.filterMap_append

theorem Mirrors.congr {fs fs' : FileSystem} {m : Journal} {calls : List (Record × Option IoError)}
    (h : Mirrors fs m calls) (hlookup : fs'.lookup m.path = fs.lookup m.path) : Mirrors fs' m calls := by
  rwa [Mirrors, hlookup]

/-- **All that writing a record to a journal can do**, if it succeeds. -/
theorem Journal.write_ok {m m' : Journal} {r : Record} {fs fs' : FileSystem}
    (h : m.write r fs = .ok (m', fs')) :
    ∃ text, r.json? = some text ∧
      fs.writeAt m.path m.offset (Text.Utf8.encode (text ++ ['\n'])) = .ok fs' ∧
      m' = { m with offset := m.offset + (Text.Utf8.encode (text ++ ['\n'])).length } := by
  unfold Journal.write Record.line? at h
  cases hjson : r.json? with
  | none =>
    rw [hjson] at h
    cases h
  | some text =>
    rw [hjson] at h
    dsimp only [Option.map_some] at h
    split at h
    · cases h
    · rename_i fs'' hwrite
      cases h
      exact ⟨text, rfl, hwrite, rfl⟩

/-- A record that was written is one more line. -/
theorem Mirrors.write {fs fs' : FileSystem} {m m' : Journal} {r : Record}
    {calls : List (Record × Option IoError)} (h : Mirrors fs m calls)
    (hwrite : m.write r fs = .ok (m', fs')) : Mirrors fs' m' (calls ++ [(r, none)]) := by
  obtain ⟨text, hjson, hat, rfl⟩ := Journal.write_ok hwrite
  have hline : written (calls ++ [(r, none)]) = written calls ++ [text] := by
    rw [written_concat]
    simp [written, hjson]
  rcases h with ⟨bytes, hentry, hoffset, hbytes⟩ | hdevice
  · have hbelow : m.path ≠ [] := by
      intro hroot
      rw [hroot, FileSystem.lookup, if_pos rfl] at hentry
      cases hentry
    rcases FileSystem.writeAt_ok hat with ⟨old, hold, rfl⟩ | ⟨hnull, -⟩
    · obtain rfl : bytes = old := by
        rw [hentry] at hold
        cases hold
        rfl
      left
      refine ⟨_, FileSystem.lookup_put_self hbelow _, ?_, ?_⟩
      · rw [hoffset, FileSystem.overlay_length, List.length_append]
      · have hone : ofLines [text] = text ++ ['\n'] := by simp [ofLines]
        rw [hoffset, FileSystem.overlay_length, hline, Text.ofLines_append, hone,
          Text.Utf8.encode_append (ofLines (written calls)), ← hbytes]
    · rw [hentry] at hnull
      cases hnull
  · right
    rcases FileSystem.writeAt_ok hat with ⟨old, hold, -⟩ | ⟨-, rfl⟩
    · rcases hdevice with hnull | hfull
      · rw [hold] at hnull
        cases hnull
      · rw [hold] at hfull
        cases hfull
    · exact hdevice

/-- A record that was not written is no line. -/
theorem Mirrors.refuse {fs : FileSystem} {m : Journal} {calls : List (Record × Option IoError)}
    (h : Mirrors fs m calls) (r : Record) (e : IoError) : Mirrors fs m (calls ++ [(r, some e)]) := by
  have hline : written (calls ++ [(r, some e)]) = written calls := by
    rw [written_concat]
    simp [written]
  rwa [Mirrors, hline]

/-- **All that recording can do**: the record is added, and the journal stays where it is; without a
journal nothing else happens, and with one the answer tells whether it was written. -/
theorem Log.record_cases (l : Log) (r : Record) (fs : FileSystem) :
    (l.journal = none ∧ l.record r fs = ⟨⟨l.records ++ [r], none⟩, fs, none⟩) ∨
      (∃ m e, l.journal = some m ∧ l.record r fs = ⟨⟨l.records ++ [r], some m⟩, fs, some e⟩) ∨
      ∃ m m' fs', l.journal = some m ∧ m.write r fs = .ok (m', fs') ∧
        l.record r fs = ⟨⟨l.records ++ [r], some m'⟩, fs', none⟩ := by
  unfold Log.record
  cases hjournal : l.journal with
  | none => exact Or.inl ⟨rfl, rfl⟩
  | some m =>
    cases hwrite : m.write r fs with
    | error e => exact Or.inr (Or.inl ⟨m, e, rfl, by simp [hwrite]⟩)
    | ok done =>
      obtain ⟨m', fs'⟩ := done
      exact Or.inr (Or.inr ⟨m, m', fs', rfl, hwrite, by simp [hwrite]⟩)

/-! ### Agreement -/

/-- What a log keeps of the calls on it: the records of all of them, and a journal at its path if it has
one.  A call that was answered without an error had a written form. -/
structure Keeps (files : FileSystem) (path : Option String) (l : Log)
    (calls : List (Record × Option IoError)) : Prop where
  records : l.records = calls.map Prod.fst
  journal : l.journal.map Journal.path = path.map files.absolute
  answered : path.isSome → ∀ c ∈ calls, c.2 = none → c.1.json?.isSome

theorem Keeps.journal_path {files : FileSystem} {path : String} {l : Log}
    {calls : List (Record × Option IoError)} (h : Keeps files (some path) l calls) {m : Journal}
    (hm : l.journal = some m) : m.path = files.absolute path := by
  have hjournal := h.journal
  rw [hm] at hjournal
  exact Option.some.inj hjournal

/-- Where a log has its journal for itself, no other log writes. -/
theorem Ledger.OwnPath.elsewhere {b : Ledger} {files : FileSystem} {i j : Nat} {path : String}
    (hown : b.OwnPath files i path) (hne : j ≠ i) {p : Option String} (hp : b.paths[j]? = some p)
    {k : Log} (hjournal : k.journal.map Journal.path = p.map files.absolute) :
    ∀ m, k.journal = some m → files.absolute path ≠ m.path := by
  intro m hm
  rw [hm] at hjournal
  obtain ⟨other, rfl, hother⟩ := Option.map_eq_some_iff.mp hjournal.symm
  rw [← hother]
  exact (hown j other hp hne).symm

/-- An archive agrees with the events so far, which started from the file system `files`. -/
structure Sound (files : FileSystem) (a : Archive) (events : List Event) : Prop where
  directory : a.files.workingDirectory = files.workingDirectory
  handles : a.handles = (ledger events).owners
  logs : a.logs.length = (ledger events).paths.length
  owned : ∀ i ∈ a.handles, i < a.logs.length
  unused : ∀ i, a.logs.length ≤ i → callsOn events i = []
  keeps : ∀ i l path, a.logs[i]? = some l → (ledger events).paths[i]? = some path →
    Keeps files path l (callsOn events i)
  mirrors : ∀ i l m path, a.logs[i]? = some l → l.journal = some m →
    (ledger events).paths[i]? = some (some path) → (ledger events).OwnPath files i path →
      Mirrors a.files m (callsOn events i)

variable {files : FileSystem} {a : Archive} {events : List Event}

/-- An archive without logs agrees with no events at all. -/
theorem sound_empty (files : FileSystem) : Sound files (.empty files) [] where
  directory := rfl
  handles := rfl
  logs := rfl
  owned := fun _ hi => absurd hi List.not_mem_nil
  unused := fun _ _ => rfl
  keeps := fun _ _ _ hl => absurd hl (by simp [Archive.empty])
  mirrors := fun _ _ _ _ hl => absurd hl (by simp [Archive.empty])

/-- What stands in a list with one more at its end: one from before, or the last one. -/
theorem getElem?_concat_eq_some {α : Type} {xs : List α} {x y : α} {i : Nat}
    (h : (xs ++ [x])[i]? = some y) : xs[i]? = some y ∧ i < xs.length ∨ i = xs.length ∧ y = x := by
  rcases Nat.lt_or_ge i xs.length with hlt | hge
  · rw [List.getElem?_append_left hlt] at h
    exact Or.inl ⟨h, hlt⟩
  · rw [List.getElem?_append_right hge] at h
    obtain ⟨hi, rfl⟩ : i - xs.length = 0 ∧ x = y := by simpa [List.getElem?_singleton] using h
    exact Or.inr ⟨by omega, rfl⟩

/-- What stands in a list after one place was set: the new value there, or what stood elsewhere. -/
theorem getElem?_set_eq_some {α : Type} {xs : List α} {x y : α} {i j : Nat}
    (h : (xs.set i x)[j]? = some y) : j = i ∧ y = x ∨ j ≠ i ∧ xs[j]? = some y := by
  by_cases hj : j = i
  · subst hj
    have hlt : j < xs.length := by
      rw [← List.length_set]
      exact (List.getElem?_eq_some_iff.mp h).1
    rw [List.getElem?_set_self hlt] at h
    exact Or.inl ⟨rfl, (Option.some.inj h).symm⟩
  · rw [List.getElem?_set_ne (Ne.symm hj)] at h
    exact Or.inr ⟨hj, h⟩

/-- An event that touches no log: the archive may have other handles, as the event tells. -/
theorem Sound.handles_only (h : Sound files a events) {e : Event} {handles : List Nat}
    (hnote : (ledger events).note e = ⟨(ledger events).paths, handles⟩)
    (hcall : ∀ i, (ledger events).call i e = []) (howned : ∀ i ∈ handles, i < a.logs.length) :
    Sound files { a with handles := handles } (events ++ [e]) := by
  have hledger : ledger (events ++ [e]) = ⟨(ledger events).paths, handles⟩ := by
    rw [ledger_concat, hnote]
  have hcalls : ∀ i, callsOn (events ++ [e]) i = callsOn events i :=
    fun i => callsOn_concat_of_call_eq_nil (hcall i)
  constructor
  · exact h.directory
  · rw [hledger]
  · rw [hledger]
    exact h.logs
  · exact howned
  · exact fun i hi => hcalls i ▸ h.unused i hi
  · intro i l path hl hpath
    rw [hledger] at hpath
    exact hcalls i ▸ h.keeps i l path hl hpath
  · intro i l m path hl hm hpath hown
    rw [hledger] at hpath hown
    exact hcalls i ▸ h.mirrors i l m path hl hm hpath hown

/-- An event that tells of nothing changes nothing. -/
theorem Sound.idle (h : Sound files a events) {e : Event}
    (hnote : (ledger events).note e = ledger events) (hcall : ∀ i, (ledger events).call i e = []) :
    Sound files a (events ++ [e]) :=
  h.handles_only (h.handles ▸ hnote) hcall h.owned

/-- One more handle to a log. -/
theorem Sound.clone (h : Sound files a events) {handle i : Nat} (hi : a.handles[handle]? = some i) :
    Sound files (a.clone handle) (events ++ [⟨.clone handle, none⟩]) := by
  have howner : (ledger events).owners[handle]? = some i := h.handles ▸ hi
  have hclone : a.clone handle = { a with handles := a.handles ++ [i] } := by
    rw [Archive.clone, hi]
  rw [hclone]
  apply h.handles_only
  · simp [Ledger.note, howner, h.handles]
  · exact fun _ => rfl
  · intro j hj
    rcases List.mem_append.mp hj with hj | hj
    · exact h.owned j hj
    · rw [List.mem_singleton.mp hj]
      exact h.owned i (List.mem_of_getElem? hi)

/-- Another log, without records.  Of the file system only what its journal leads to has changed. -/
theorem Sound.add (h : Sound files a events) {e : Event} {l : Log} {fs : FileSystem}
    (path : Option String)
    (hnote : (ledger events).note e =
      ⟨(ledger events).paths ++ [path], (ledger events).owners ++ [(ledger events).paths.length]⟩)
    (hcall : ∀ i, (ledger events).call i e = []) (hempty : l.records = [])
    (hjournal : l.journal.map Journal.path = path.map files.absolute)
    (hdirectory : fs.workingDirectory = a.files.workingDirectory)
    (hframe : ∀ q, (∀ m, l.journal = some m → q ≠ m.path) → fs.lookup q = a.files.lookup q)
    (hfresh : ∀ m, l.journal = some m → Mirrors fs m []) :
    Sound files (Archive.add { a with files := fs } l) (events ++ [e]) := by
  have hledger : ledger (events ++ [e]) =
      ⟨(ledger events).paths ++ [path], (ledger events).owners ++ [(ledger events).paths.length]⟩ := by
    rw [ledger_concat, hnote]
  have hcalls : ∀ i, callsOn (events ++ [e]) i = callsOn events i :=
    fun i => callsOn_concat_of_call_eq_nil (hcall i)
  -- a log is an old one, or the new one that no call was made on
  have hsplit : ∀ (i : Nat) (k : Log) (p : Option String), (a.logs ++ [l])[i]? = some k →
      ((ledger events).paths ++ [path])[i]? = some p →
      (a.logs[i]? = some k ∧ (ledger events).paths[i]? = some p ∧ (ledger events).paths.length ≠ i) ∨
        (k = l ∧ p = path ∧ callsOn events i = []) := by
    intro i k p hk hp
    rcases getElem?_concat_eq_some hk with ⟨hk, hlt⟩ | ⟨rfl, rfl⟩
    · rcases getElem?_concat_eq_some hp with ⟨hp, hlt'⟩ | ⟨hi, -⟩
      · exact Or.inl ⟨hk, hp, Nat.ne_of_gt hlt'⟩
      · exact absurd hlt (by rw [hi, h.logs]; exact Nat.lt_irrefl _)
    · rcases getElem?_concat_eq_some hp with ⟨-, hlt⟩ | ⟨-, rfl⟩
      · exact absurd hlt (by rw [h.logs]; exact Nat.lt_irrefl _)
      · exact Or.inr ⟨rfl, rfl, h.unused _ (Nat.le_refl _)⟩
  constructor
  · exact hdirectory.trans h.directory
  · rw [hledger, ← h.handles, ← h.logs]
    rfl
  · rw [hledger]
    simp [Archive.add, h.logs]
  · intro i hi
    simp only [Archive.add, List.length_append, List.length_singleton] at hi ⊢
    rcases List.mem_append.mp hi with hi | hi
    · exact Nat.lt_succ_of_lt (h.owned i hi)
    · rw [List.mem_singleton.mp hi]
      exact Nat.lt_succ_self _
  · intro i hi
    rw [hcalls]
    simp only [Archive.add, List.length_append, List.length_singleton] at hi
    exact h.unused i (by omega)
  · intro i k p hk hp
    rw [hledger] at hp
    rw [hcalls]
    rcases hsplit i k p hk hp with ⟨hold, hpold, -⟩ | ⟨rfl, rfl, hnone⟩
    · exact h.keeps i k p hold hpold
    · rw [hnone]
      exact ⟨hempty, hjournal, fun _ c hc => absurd hc List.not_mem_nil⟩
  · intro i k m p hk hm hp hown
    rw [hledger] at hp hown
    rw [hcalls]
    rcases hsplit i k (some p) hk hp with ⟨hold, hpold, hne⟩ | ⟨rfl, -, hnone⟩
    · have hownOld : (ledger events).OwnPath files i p := by
        intro j other hj
        exact hown j other ((List.getElem?_append_left (List.getElem?_eq_some_iff.mp hj).1).trans hj)
      have hlast : ((ledger events).paths ++ [path])[(ledger events).paths.length]? = some path := by
        simp
      refine (h.mirrors i k m p hold hm hpold hownOld).congr (hframe m.path ?_)
      rw [(h.keeps i k (some p) hold hpold).journal_path hm]
      exact hown.elsewhere hne hlast hjournal
    · rw [hnone]
      exact hfresh m hm

/-- A log keeps one more call, whatever its answer. -/
theorem Keeps.record {path : Option String} {l : Log} {calls : List (Record × Option IoError)}
    (h : Keeps files path l calls) (r : Record) (fs : FileSystem) :
    Keeps files path (l.record r fs).log (calls ++ [(r, (l.record r fs).error)]) := by
  have hrecords : l.records ++ [r] = (calls ++ [(r, (l.record r fs).error)]).map Prod.fst := by
    rw [h.records, List.map_append]
    rfl
  have hanswered : (path.isSome → (l.record r fs).error = none → r.json?.isSome) →
      path.isSome → ∀ c ∈ calls ++ [(r, (l.record r fs).error)], c.2 = none → c.1.json?.isSome := by
    intro hnew hpath c hc hnone
    rcases List.mem_append.mp hc with hc | hc
    · exact h.answered hpath c hc hnone
    · rw [List.mem_singleton.mp hc] at hnone ⊢
      exact hnew hpath hnone
  rcases l.record_cases r fs with ⟨hnone, hdone⟩ | ⟨m, e, hm, hdone⟩ | ⟨m, m', fs', hm, hwrite, hdone⟩
  · rw [hdone] at hanswered hrecords ⊢
    have hjournal := h.journal
    rw [hnone] at hjournal
    refine ⟨hrecords, hjournal, hanswered fun hpath _ => ?_⟩
    obtain ⟨p, rfl⟩ := Option.isSome_iff_exists.mp hpath
    cases hjournal
  · rw [hdone] at hanswered hrecords ⊢
    exact ⟨hrecords, hm ▸ h.journal, hanswered fun _ hnone => nomatch hnone⟩
  · obtain ⟨text, hjson, -, rfl⟩ := Journal.write_ok hwrite
    rw [hdone] at hanswered hrecords ⊢
    refine ⟨hrecords, ?_, hanswered fun _ _ => Option.isSome_iff_exists.mpr ⟨text, hjson⟩⟩
    have hjournal := h.journal
    rw [hm] at hjournal
    exact hjournal

/-- Recording changes the file system only where the journal of the log is. -/
theorem Log.record_frame (l : Log) (r : Record) (fs : FileSystem) :
    (l.record r fs).files.workingDirectory = fs.workingDirectory ∧
      ∀ q, (∀ m, l.journal = some m → q ≠ m.path) → (l.record r fs).files.lookup q = fs.lookup q := by
  rcases l.record_cases r fs with ⟨-, hdone⟩ | ⟨m, e, -, hdone⟩ | ⟨m, m', fs', hm, hwrite, hdone⟩
  · rw [hdone]
    exact ⟨rfl, fun _ _ => rfl⟩
  · rw [hdone]
    exact ⟨rfl, fun _ _ => rfl⟩
  · obtain ⟨text, -, hat, -⟩ := Journal.write_ok hwrite
    obtain ⟨hdirectory, hframe⟩ := FileSystem.writeAt_frame hat
    rw [hdone]
    exact ⟨hdirectory, fun q hq => hframe q (hq m hm)⟩

/-- A journal that mirrored the calls on its log mirrors them with one more. -/
theorem Mirrors.record {l : Log} {m m' : Journal} {fs : FileSystem}
    {calls : List (Record × Option IoError)} (h : Mirrors fs m calls) (hm : l.journal = some m)
    {r : Record} (hm' : (l.record r fs).log.journal = some m') :
    Mirrors (l.record r fs).files m' (calls ++ [(r, (l.record r fs).error)]) := by
  rcases l.record_cases r fs with ⟨hnone, -⟩ | ⟨n, e, hn, hdone⟩ | ⟨n, n', fs', hn, hwrite, hdone⟩
  · rw [hm] at hnone
    cases hnone
  · rw [hdone] at hm' ⊢
    obtain rfl : m = n := Option.some.inj (hm.symm.trans hn)
    obtain rfl : m = m' := Option.some.inj hm'
    exact h.refuse r e
  · rw [hdone] at hm' ⊢
    obtain rfl : m = n := Option.some.inj (hm.symm.trans hn)
    obtain rfl : n' = m' := Option.some.inj hm'
    exact h.write hwrite

/-- A record on a log. -/
theorem Sound.record (h : Sound files a events) {handle i : Nat} (hi : a.handles[handle]? = some i)
    {l : Log} (hl : a.logs[i]? = some l) (r : Record) :
    Sound files { a with logs := a.logs.set i (l.record r a.files).log
                         files := (l.record r a.files).files }
      (events ++ [⟨.record handle r, (l.record r a.files).error⟩]) := by
  have howner : (ledger events).owners[handle]? = some i := h.handles ▸ hi
  set e : Event := ⟨.record handle r, (l.record r a.files).error⟩ with he
  have hledger : ledger (events ++ [e]) = ledger events := by rw [ledger_concat, he]; rfl
  have hcall : (ledger events).call i e = [(r, (l.record r a.files).error)] := by
    simp [he, Ledger.call, howner]
  have hother : ∀ j, j ≠ i → callsOn (events ++ [e]) j = callsOn events j := by
    intro j hj
    apply callsOn_concat_of_call_eq_nil
    simp [he, Ledger.call, howner, hj.symm]
  obtain ⟨hdirectory, hframe⟩ := l.record_frame r a.files
  have hilt : i < a.logs.length := (List.getElem?_eq_some_iff.mp hl).1
  constructor
  · exact hdirectory.trans h.directory
  · exact hledger ▸ h.handles
  · rw [hledger, List.length_set]
    exact h.logs
  · intro j hj
    rw [List.length_set]
    exact h.owned j hj
  · intro j hj
    rw [List.length_set] at hj
    rw [hother j (by omega)]
    exact h.unused j hj
  · intro j k path hk hpath
    rw [hledger] at hpath
    rcases getElem?_set_eq_some hk with ⟨rfl, rfl⟩ | ⟨hj, hk⟩
    · rw [callsOn_concat, hcall]
      exact (h.keeps j l path hl hpath).record r a.files
    · rw [hother j hj]
      exact h.keeps j k path hk hpath
  · intro j k m path hk hm hpath hown
    rw [hledger] at hpath hown
    rcases getElem?_set_eq_some hk with ⟨rfl, rfl⟩ | ⟨hj, hk⟩
    · have hkept := (h.keeps j l (some path) hl hpath).journal
      obtain ⟨n, hn, -⟩ := Option.map_eq_some_iff.mp hkept
      rw [callsOn_concat, hcall]
      exact (h.mirrors j l n path hl hn hpath hown).record hn hm
    · obtain ⟨p, hp⟩ : ∃ p, (ledger events).paths[i]? = some p :=
        ⟨_, List.getElem?_eq_getElem (h.logs ▸ hilt)⟩
      rw [hother j hj]
      refine (h.mirrors j k m path hk hm hpath hown).congr (hframe m.path ?_)
      rw [(h.keeps j k (some path) hk hpath).journal_path hm]
      exact hown.elsewhere (Ne.symm hj) hp (h.keeps i l p hl hp).journal

/-! ### Histories -/

/-- Every handle has a log. -/
theorem Sound.exists_log (h : Sound files a events) {handle i : Nat}
    (hi : a.handles[handle]? = some i) : ∃ l, a.logs[i]? = some l :=
  ⟨_, List.getElem?_eq_getElem (h.owned i (List.mem_of_getElem? hi))⟩

/-- A log that was opened has no records, its journal is at its path, and nothing else has changed. -/
theorem Log.openAt_ok {path : String} {fs fs' : FileSystem} {l : Log}
    (h : Log.openAt path fs = .ok (l, fs')) :
    ∃ m, l = ⟨[], some m⟩ ∧ m.path = fs.absolute path ∧ Mirrors fs' m [] ∧
      fs'.workingDirectory = fs.workingDirectory ∧
      ∀ q, q ≠ m.path → fs'.lookup q = fs.lookup q := by
  unfold Log.openAt at h
  split at h
  · cases h
  · rename_i p fs'' hcreate
    cases h
    obtain ⟨hpath, hbelow, hleft⟩ := FileSystem.create_ok hcreate
    obtain ⟨hdirectory, hframe⟩ := FileSystem.create_frame hcreate
    refine ⟨⟨p, 0⟩, rfl, hpath, ?_, hdirectory, hframe⟩
    rcases hleft with rfl | ⟨rfl, hdevice⟩
    · exact Or.inl ⟨[], FileSystem.lookup_put_self hbelow _, rfl, rfl⟩
    · exact Or.inr hdevice

/-- **Every operation keeps an archive in agreement** with the events. -/
theorem sound_perform (h : Sound files a events) (o : Operation) :
    Sound files (a.perform o).1 (events ++ [⟨o, (a.perform o).2⟩]) := by
  cases o with
  | new =>
    exact h.add none rfl (fun _ => rfl) rfl rfl rfl (fun _ _ => rfl) (fun _ hm => nomatch hm)
  | openAt path =>
    dsimp only [Archive.perform, Archive.openAt]
    cases hopen : Log.openAt path a.files with
    | error e => exact h.idle rfl fun _ => rfl
    | ok opened =>
      obtain ⟨l, fs⟩ := opened
      obtain ⟨m, rfl, hpath, hfresh, hdirectory, hframe⟩ := Log.openAt_ok hopen
      have hjournal : m.path = files.absolute path := by
        rw [hpath, FileSystem.absolute_congr h.directory]
      refine h.add (some path) rfl (fun _ => rfl) rfl (congrArg some hjournal) hdirectory
        (fun q hq => hframe q (hq m rfl)) ?_
      intro m' hm'
      obtain rfl : m = m' := Option.some.inj hm'
      exact hfresh
  | clone handle =>
    cases hi : a.handles[handle]? with
    | some i => exact h.clone hi
    | none =>
      have howner : (ledger events).owners[handle]? = none := h.handles ▸ hi
      have hclone : a.clone handle = a := by rw [Archive.clone, hi]
      dsimp only [Archive.perform]
      rw [hclone]
      refine h.idle ?_ fun _ => rfl
      simp [Ledger.note, howner]
  | record handle r =>
    cases hi : a.handles[handle]? with
    | some i =>
      obtain ⟨l, hl⟩ := h.exists_log hi
      have hrecord : a.record handle r =
          ({ a with logs := a.logs.set i (l.record r a.files).log
                    files := (l.record r a.files).files }, (l.record r a.files).error) := by
        simp only [Archive.record, hi, hl]
      dsimp only [Archive.perform]
      rw [hrecord]
      exact h.record hi hl r
    | none =>
      have howner : (ledger events).owners[handle]? = none := h.handles ▸ hi
      have hrecord : a.record handle r = (a, none) := by simp only [Archive.record, hi]
      dsimp only [Archive.perform]
      rw [hrecord]
      refine h.idle rfl fun i => ?_
      simp [Ledger.call, howner]

/-- **Every history keeps an archive in agreement** with the events. -/
theorem sound_history (h : Sound files a events) (ops : List Operation) :
    Sound files (a.history events ops).1 (a.history events ops).2 := by
  induction ops generalizing a events with
  | nil => exact h
  | cons o ops ih => exact ih (sound_perform h o)

/-- Calls that were all written leave a line for each of them. -/
theorem mapM_json?_eq_some {calls : List (Record × Option IoError)}
    (hanswered : ∀ c ∈ calls, c.2 = none → c.1.json?.isSome) (hall : ∀ c ∈ calls, c.2 = none) :
    (calls.map Prod.fst).mapM Record.json? = some (written calls) := by
  induction calls with
  | nil => rfl
  | cons c calls ih =>
    have hnone := hall c List.mem_cons_self
    obtain ⟨text, htext⟩ := Option.isSome_iff_exists.mp (hanswered c List.mem_cons_self hnone)
    have htail := ih (fun d hd => hanswered d (List.mem_cons_of_mem c hd))
      (fun d hd => hall d (List.mem_cons_of_mem c hd))
    have hline : written (c :: calls) = text :: written calls := by
      simp [written, hnone, htext]
    rw [List.map_cons, List.mapM_cons, htext, htail, hline]
    rfl

/-- No line that calls leave holds a line feed. -/
theorem lineFeed_not_mem_written (calls : List (Record × Option IoError)) :
    ∀ t ∈ written calls, '\n' ∉ t := by
  intro t ht
  obtain ⟨c, -, hc⟩ := List.mem_filterMap.mp ht
  split at hc
  · exact (Record.flat_of_json? hc).lineFeed_not_mem
  · cases hc

namespace Archive

/-- **What the handles see after any history.**  Handle `h` belongs to log `i`.  Then it sees the records
of all calls on that log, in the order of the calls and whatever their answers, so all handles to one log
see the same and no call on another log matters.  Its passes and failures partition these records.  And
if the log has a journal that no other log writes to, and no call on it was answered with an error, the
journal holds one line of JSON for each record, in their order, and nothing else. -/
theorem history_sees (files : FileSystem) (ops : List Operation) (h i : Nat)
    (hi : (ledger ((empty files).history [] ops).2).owners[h]? = some i) :
    let a := ((empty files).history [] ops).1
    let events := ((empty files).history [] ops).2
    ∃ l, a.log? h = some l ∧ l.records = (callsOn events i).map Prod.fst ∧ l.Partitioned ∧
      ∀ path, (ledger events).paths[i]? = some (some path) →
        (ledger events).OwnPath files i path → (∀ c ∈ callsOn events i, c.2 = none) →
          HoldsLines a.files (files.absolute path) l.records := by
  intro a events
  have hsound : Sound files a events := sound_history (sound_empty files) ops
  have hhandle : a.handles[h]? = some i := hsound.handles ▸ hi
  obtain ⟨l, hl⟩ := hsound.exists_log hhandle
  obtain ⟨p, hp⟩ : ∃ p, (ledger events).paths[i]? = some p :=
    ⟨_, List.getElem?_eq_getElem (hsound.logs ▸ hsound.owned i (List.mem_of_getElem? hhandle))⟩
  have hkeeps := hsound.keeps i l p hl hp
  refine ⟨l, ?_, hkeeps.records, l.partitioned, ?_⟩
  · rw [log?, hhandle]
    exact hl
  · intro path hpath hown hall
    obtain rfl : p = some path := Option.some.inj (hp.symm.trans hpath)
    obtain ⟨m, hm, hmpath⟩ := Option.map_eq_some_iff.mp hkeeps.journal
    have hmirrors := hsound.mirrors i l m path hl hm hpath hown
    have hrecords := mapM_json?_eq_some (hkeeps.answered rfl) hall
    rw [← hkeeps.records] at hrecords
    refine ⟨_, hrecords, lineFeed_not_mem_written _, ?_⟩
    rw [← hmpath]
    rcases hmirrors with ⟨bytes, hentry, -, rfl⟩ | hdevice
    · exact Or.inl hentry
    · exact Or.inr hdevice

/-- A directory to work in. -/
def historyFiles : FileSystem := ⟨[(["work"], .directory)], ["work"]⟩

/-- A case that passed. -/
def historyRecord : Record := ⟨1, .ofNat 1700000000 5, .zero, ["tool", "a\nb"], .passed "00FF"⟩

/-- A log with a journal, a second handle to it, a record through that handle, and a record on another
log. -/
def historyOperations : List Operation :=
  [.openAt "log.jsonl", .clone 0, .record 1 historyRecord, .new, .record 2 historyRecord]

theorem history_sees_sample :
    let a := ((empty historyFiles).history [] historyOperations).1
    (ledger ((empty historyFiles).history [] historyOperations).2).owners[1]? = some 0 ∧
      ∃ l, a.log? 1 = some l ∧ l.records = [historyRecord] ∧ l.Partitioned ∧
        HoldsLines a.files (historyFiles.absolute "log.jsonl") l.records := by
  have howner : (ledger ((empty historyFiles).history [] historyOperations).2).owners[1]? = some 0 := by
    decide +kernel
  have hpaths : (ledger ((empty historyFiles).history [] historyOperations).2).paths =
      [some "log.jsonl", none] := by
    decide +kernel
  have hcalls : callsOn ((empty historyFiles).history [] historyOperations).2 0 =
      [(historyRecord, none)] := by
    decide +kernel
  obtain ⟨l, hl, hrecords, hpartitioned, hholds⟩ :=
    history_sees historyFiles historyOperations 1 0 howner
  have hown : (ledger ((empty historyFiles).history [] historyOperations).2).OwnPath historyFiles 0
      "log.jsonl" := by
    intro j other hj hne
    rw [hpaths] at hj
    match j, hne, hj with
    | 0, hne, _ => exact absurd rfl hne
    | 1, _, hj => cases hj
    | _ + 2, _, hj => cases hj
  rw [hcalls] at hrecords
  refine ⟨howner, l, hl, hrecords, hpartitioned, hholds "log.jsonl" ?_ hown ?_⟩
  · rw [hpaths]
    rfl
  · rw [hcalls]
    intro c hc
    rw [List.mem_singleton.mp hc]

end Archive

end HashReplay.Capture
