import HashReplay.Programs.Shell.Clock

/-!
# Channels

What descriptors lead to, and how it is read and written.  What can be read comes with the times when it
arrives, and what is written is kept with the time.

## Main definitions

* `write`, `writeAt` — write bytes.
* `remaining`, `consume` — what can still be read, and reading it.
* `collected` — what a pipe or a substitution has collected.
* `complain`, `giveUp` — what the shell writes about faults.
-/

namespace HashReplay.Programs.Shell

/-! ### Descriptors -/

/-- The channel of a descriptor. -/
def channel? (descriptor : Nat) : Act (Option Channel) := do
  return (← get).descriptors.lookup descriptor

/-- Let a descriptor lead to a channel, or nowhere. -/
def setDescriptor (descriptor : Nat) (c : Option Channel) : Act Unit :=
  modify fun s =>
    let others := s.descriptors.filter fun d => d.1 ≠ descriptor
    { s with descriptors := (c.map fun c => (descriptor, c)).toList ++ others }

/-- Write bytes at a time; whether that worked. -/
def writeAt (time : Nat) (c : Channel) (b : Bytes) : Act Bool := do
  let s ← get
  match c with
  | .source _ => return false
  | .file id =>
    match s.world.opened[id]? with
    | none => return false
    | some f =>
      if b.isEmpty then return true
      else if f.mode = .read then return false
      else change time (.write id b.encoded)
  | c =>
    if !b.isEmpty then
      modifyWorld fun w => { w with written := ⟨s.process, c, time, b⟩ :: w.written }
    return true

/-- Write bytes to a descriptor; whether that worked. -/
def write (descriptor : Nat) (b : Bytes) : Act Bool := do
  match ← channel? descriptor with
  | none => return b.isEmpty
  | some c => writeAt (← get).world.clock c b

/-- What can still be read from a channel, with the times of arrival, and the time after which no more
will arrive. -/
def remaining (c : Channel) : Act (List (Nat × Bytes) × Nat) := do
  let w := (← get).world
  match c with
  | .source id =>
    match w.sources[id]? with
    | some source => return (source.chunks, source.closedAt)
    | none => return ([], 0)
  | .file id =>
    match w.opened[id]? with
    | none => return ([], 0)
    | some f =>
      match w.files.lookup f.path with
      | some (.file bytes) => return ([(0, Bytes.ofEncoded (bytes.drop f.offset))], 0)
      | _ => return ([], 0)
  | _ => return ([], 0)

/-- Drop bytes at the start of chunks. -/
def dropChunks : Nat → List (Nat × Bytes) → List (Nat × Bytes)
  | _, [] => []
  | n, (time, b) :: rest =>
    if b.length ≤ n then dropChunks (n - b.length) rest else (time, b.drop n) :: rest

/-- Move past bytes that were read from a channel. -/
def consume (c : Channel) (n : Nat) : Act Unit := do
  match c with
  | .source id =>
    modifyWorld fun w =>
      match w.sources[id]? with
      | none => w
      | some source =>
        { w with sources := w.sources.set id { source with chunks := dropChunks n source.chunks } }
  | .file id => let _ ← change (← get).world.clock (.advance id n)
  | _ => return ()

/-- When the first `n` bytes of chunks have arrived. -/
def arrival : Nat → List (Nat × Bytes) → Nat
  | _, [] => 0
  | n, (time, b) :: rest => if n ≤ b.length then time else max time (arrival (n - b.length) rest)

/-- A new source. -/
def addSource (source : Source) : Act Channel := do
  let id := (← get).world.sources.length
  modifyWorld fun w => { w with sources := w.sources ++ [source] }
  return .source id

/-- A source that has all its bytes at once. -/
def addBytes (b : Bytes) : Act Channel := addSource ⟨[(0, b)], 0⟩

/-- A new collector. -/
def addCollector : Act Channel := do
  let id := (← get).world.collectors
  modifyWorld fun w => { w with collectors := id + 1 }
  return .collector id

/-- Until when a channel is open, if nothing more is started. -/
def openUntil (c : Channel) (w : World) : Nat :=
  (w.holds.filter fun h => h.channel = c).foldl (fun t h => max t h.ends) w.clock

/-- Take what a collector has, as a source. -/
def collected (c : Channel) : Act Source := do
  let w := (← get).world
  let (own, others) := w.written.partition fun x => x.channel = c
  modifyWorld fun w => { w with written := others }
  return ⟨inOrder (own.reverse.map fun x => (x.time, x.bytes)), openUntil c w⟩

/-! ### Complaints -/

/-- A number in decimal. -/
def number (n : Nat) : Bytes := Text.decimal n

/-- Write a text of the shell to the error stream, after the name of the script, the line, and the
command of the shell that is running. -/
def complain (text : Bytes) : Act Unit := do
  let s ← get
  let place := [s.setting.name, number s.line] ++ s.utility.toList
  let _ ← write 2 (place.flatMap (· ++ ": ".toList) ++ text ++ ['\n'])

/-- Complain and do not go on. -/
def giveUp (text : Bytes) : Act α := do
  complain text
  setStatus 2
  throw .failed

end HashReplay.Programs.Shell
