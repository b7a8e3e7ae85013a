import HashReplay.Programs.Shell.State

/-!
# The clock

Nothing takes time but the programs that are run, so a script is stopped while it waits for one of them,
and it is then too that signals arrive and that what was to be done later is done.

## Main definitions

* `change` — changes a file or the place in an open one.
* `settle` — does to the files what is due.
* `waitUntil` — lets time pass.
* `neverEnd` — goes on for ever.
-/

namespace HashReplay.Programs.Shell

/-! ### Changes to come -/

/-- Where the next byte that is written to an open file goes. -/
def World.placeIn (w : World) (f : OpenFile) : Nat :=
  match f.mode, w.files.lookup f.path with
  | .append, some (.file bytes) => bytes.length
  | _, _ => f.offset

/-- Make a change. -/
def World.change (w : World) : FileChange → Except IoError World
  | .put path node => .ok { w with files := w.files.put path node }
  | .provide path =>
    match w.files.lookup path with
    | some _ => .ok w
    | none => .ok { w with files := w.files.put path (.file []) }
  | .write id bytes =>
    match w.opened[id]? with
    | none => .ok w
    | some f =>
      let place := w.placeIn f
      match w.files.writeAt f.path place bytes with
      | .error e => .error e
      | .ok files =>
        .ok { w with files, opened := w.opened.set id { f with offset := place + bytes.length } }
  | .advance id n =>
    match w.opened[id]? with
    | none => .ok w
    | some f => .ok { w with opened := w.opened.set id { f with offset := f.offset + n } }

/-- Make a change, as far as that is possible. -/
def World.changeIfPossible (w : World) (c : FileChange) : World :=
  match w.change c with
  | .ok w => w
  | .error _ => w

/-- Make a change that will be there at a time; whether that worked.  Unless the shell is the program,
others have yet to see it. -/
def change (time : Nat) (c : FileChange) : Act Bool := do
  let s ← get
  match s.world.change c with
  | .error _ => return false
  | .ok w =>
    let later := if s.process = 0 then w.later else ⟨s.process, time, c⟩ :: w.later
    set { s with world := { w with later } }
    return true

/-- Do to the files what is due for a process.  Unless that is the program, others have yet to see it. -/
def World.settle (process : Nat) (w : World) : World :=
  let (due, others) := w.later.partition fun c => c.process ≠ process && c.time ≤ w.clock
  let inTurn := due.reverse.mergeSort fun a b => a.time ≤ b.time
  { inTurn.foldl (fun w c => w.changeIfPossible c.change) w with
    later := (if process = 0 then [] else inTurn.reverse.map fun c => { c with process }) ++ others }

/-- Do to the files what is due. -/
def settle : Act Unit := modify fun s => { s with world := s.world.settle s.process }

/-! ### Time -/

/-- What the program that the shell is does on signals. -/
def State.ownTraps (s : State) : List (Nat × Bytes) := s.programTraps.getD s.traps

/-- Whether the shell is the program, and not one that a shell started. -/
def State.isProgram (s : State) : Bool := s.programTraps.isNone

/-- The first signal up to a moment that nothing is done on, so that it ends the program. -/
def State.deadlySignal? (s : State) (moment : Nat) : Option (Nat × Nat) :=
  if s.isProgram then
    s.world.signals.find? fun (time, n) => time ≤ moment && (s.traps.lookup n).isNone
  else none

/-- Move the clock on to a moment, but not beyond the limit. -/
def setClock (moment : Nat) : Act Unit := do
  let s ← get
  let clock := max s.world.clock moment
  match s.setting.limit.filter (· ≤ clock) with
  | some limit =>
    modifyWorld fun w => { w with clock := limit }
    settle
    throw .stopped
  | none =>
    modifyWorld fun w => { w with clock }
    settle

/-- Let time pass up to a moment, but not beyond the limit or a signal that ends the program. -/
def waitUntil (moment : Nat) : Act Unit := do
  match (← get).deadlySignal? moment with
  | some (time, n) =>
    setClock time
    throw (.killed n)
  | none => setClock moment

/-- Go on without an end. -/
def neverEnd : Act α := do
  waitUntil forever
  throw .stopped

end HashReplay.Programs.Shell
