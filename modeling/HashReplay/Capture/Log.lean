import HashReplay.Capture.Json
import HashReplay.FileSystem

/-!
# Capture logs

A log is a list of records in the order in which they came.  It may have a journal: a file that gets
one line of JSON for each record.  A record is in the log even if its line could not be written.

An archive holds several logs on one file system, and handles to them.  Handles to one log see the
same records and write on at the same place of its journal; two logs never share either, even if the
journals of both are at one path.

## Main definitions

* `Log`, `Log.record` — a log, and what recording does to it.
* `Log.failures`, `Log.passes`, `Log.count` — what can be asked of a log.
* `Archive` — logs and handles.
-/

namespace HashReplay.Capture

/-- A file that was opened for writing, and where the next byte goes. -/
structure Journal where
  path : Path
  offset : Nat
  deriving DecidableEq, Repr

/-- A list of records, with a journal or without. -/
structure Log where
  /-- The records, the oldest first. -/
  records : List Record
  journal : Option Journal
  deriving DecidableEq, Repr

/-- The line of a record in a journal. -/
def Record.line? (r : Record) : Option (List Char) := r.json?.map (· ++ ['\n'])

/-- Write a record to a journal. -/
def Journal.write (m : Journal) (r : Record) (fs : FileSystem) : Except IoError (Journal × FileSystem) :=
  match r.line? with
  | none => .error (.other beforeEpochMessage)
  | some line =>
    let bytes := Text.Utf8.encode line
    match fs.writeAt m.path m.offset bytes with
    | .error e => .error e
    | .ok fs' => .ok ({ m with offset := m.offset + bytes.length }, fs')

namespace Log

/-- The log without records and without a journal. -/
def empty : Log := ⟨[], none⟩

/-- An empty log whose journal is a new file. -/
def openAt (path : String) (fs : FileSystem) : Except IoError (Log × FileSystem) :=
  match fs.create path with
  | .error e => .error e
  | .ok (p, fs') => .ok (⟨[], some ⟨p, 0⟩⟩, fs')

/-- What recording leaves: the log, the file system, and the error if the journal has no new line. -/
structure Recorded where
  log : Log
  files : FileSystem
  error : Option IoError

/-- Add a record to a log. -/
def record (l : Log) (r : Record) (fs : FileSystem) : Recorded :=
  let records := l.records ++ [r]
  match l.journal with
  | none => ⟨⟨records, none⟩, fs, none⟩
  | some m =>
    match m.write r fs with
    | .error e => ⟨⟨records, some m⟩, fs, some e⟩
    | .ok (m', fs') => ⟨⟨records, some m'⟩, fs', none⟩

/-- The records of cases that did not pass. -/
def failures (l : Log) : List Record := l.records.filter fun r => !r.outcome.isPass

/-- The records of cases that passed. -/
def passes (l : Log) : List Record := l.records.filter fun r => r.outcome.isPass

/-- How many records satisfy a test. -/
def count (l : Log) (p : Record → Bool) : Nat := l.records.countP p

/-- How many records there are. -/
def size (l : Log) : Nat := l.records.length

/-- Whether there are none. -/
def isEmpty (l : Log) : Bool := l.records.isEmpty

/-- Recording adds the record to the log, whatever becomes of the journal. -/
@[simp] theorem records_record (l : Log) (r : Record) (fs : FileSystem) :
    (l.record r fs).log.records = l.records ++ [r] := by
  cases hm : l.journal with
  | none => simp [record, hm]
  | some m => cases h : m.write r fs <;> simp [record, hm, h]

end Log

/-! ### Archives -/

/-- Logs on one file system, and handles to them. -/
structure Archive where
  /-- The logs, in the order in which they were made. -/
  logs : List Log
  /-- For each handle, the place of its log. -/
  handles : List Nat
  files : FileSystem

namespace Archive

/-- The archive without logs. -/
def empty (files : FileSystem) : Archive := ⟨[], [], files⟩

/-- The log behind a handle. -/
def log? (a : Archive) (handle : Nat) : Option Log :=
  (a.handles[handle]?).bind fun i => a.logs[i]?

/-- Add a log and a handle to it. -/
def add (a : Archive) (l : Log) : Archive :=
  { a with logs := a.logs ++ [l], handles := a.handles ++ [a.logs.length] }

/-- A new log without a journal. -/
def new (a : Archive) : Archive := a.add .empty

/-- A new log with a journal. -/
def openAt (a : Archive) (path : String) : Except IoError Archive :=
  match Log.openAt path a.files with
  | .error e => .error e
  | .ok (l, fs) => .ok ({ a with files := fs }.add l)

/-- One more handle to the log behind a handle; nothing for a handle that was never given out. -/
def clone (a : Archive) (handle : Nat) : Archive :=
  match a.handles[handle]? with
  | none => a
  | some i => { a with handles := a.handles ++ [i] }

/-- Record through a handle. -/
def record (a : Archive) (handle : Nat) (r : Record) : Archive × Option IoError :=
  match a.handles[handle]? with
  | none => (a, none)
  | some i =>
    match a.logs[i]? with
    | none => (a, none)
    | some l =>
      let done := l.record r a.files
      ({ a with logs := a.logs.set i done.log, files := done.files }, done.error)

end Archive

end HashReplay.Capture
