import HashReplay.Programs.Shell.Builtin

/-!
# Running programs

How a shell runs a program: the program gets the shell's input, environment and files, what it writes
goes where the descriptors lead, and the shell waits for it.

## Main definitions

* `launch` — runs a program.
* `runNamed` — runs the program with a name and leaves its status.
-/

namespace HashReplay.Programs.Shell

/-- Why a program cannot be run, and the status that this gives. -/
def launchFault (name : Bytes) : IoError → Bytes × Nat
  | .notFound =>
    (name ++ (if name.isEmpty then ": Permission denied" else ": not found").toList, 127)
  | .notADirectory => (name ++ ": not found".toList, 127)
  | .nameTooLong => (name ++ ": File name too long".toList, 127)
  | e => (name ++ ": ".toList ++ e.reason.toList, 126)

/-- Note that from now on the shell's place is taken by something with the descriptors at hand. -/
def handOver : Act Unit :=
  modify fun s => { s with handedOver := some (s.world.clock, s.descriptors) }

/-- Times during which all descriptors in a list are open. -/
def holdsOf (process : Nat) (byProgram : Bool) (starts ends : Nat) (ds : List (Nat × Channel)) :
    List Hold :=
  ds.map fun (_, c) => ⟨process, c, starts, ends, byProgram⟩

/-- Note that descriptors are open for some time. -/
def hold (holds : List Hold) : Act Unit := modifyWorld fun w => { w with holds := holds ++ w.holds }

/-- Write to a descriptor what a program wrote, some time after its start; whether all of that worked. -/
def passOn (descriptor start : Nat) : List (Nat × Bytes) → Act Bool
  | [] => return true
  | (time, b) :: rest => do
    let worked ←
      match ← channel? descriptor with
      | none => pure b.isEmpty
      | some c => writeAt (start + time) c b
    let others ← passOn descriptor start rest
    return worked && others

/-- What a program wrote to one of its streams. -/
def emitted (stream : OutputStream) (f : Finished) : List (Nat × Bytes) :=
  inOrder ((f.emissions.filter fun e => e.stream = stream).map fun e => (e.time, e.bytes))

/-- The signals that are ignored. -/
def State.ignoredSignals (s : State) : List Nat :=
  (s.traps.filter fun t => t.1 ≠ 0 && t.2.isEmpty).map (·.1)

/-- The entries that are not as they were before. -/
def changedEntries : List (Path × Node) → List (Path × Node) → List (Path × Node)
  | [], new => new
  | _ :: _, [] => []
  | e :: es, e' :: es' => if e = e' then changedEntries es es' else e' :: changedEntries es es'

/-- Put entries that a program changed. -/
def putEntries (time : Nat) : List (Path × Node) → Act Unit
  | [] => return ()
  | (path, node) :: rest => do
    let _ ← change time (.put path node)
    putEntries time rest

/-- Why nothing can be read of a channel, if that is so. -/
def State.inputFault (s : State) : Option Channel → Option IoError
  | none => some (.other "Bad file descriptor")
  | some (.file id) =>
    match s.world.opened[id]? with
    | none => none
    | some f =>
      if f.mode = .write ∨ f.mode = .append then some (.other "Bad file descriptor")
      else if s.world.files.lookup f.path = some .directory then some .isADirectory
      else none
  | some _ => none

/-- How long it takes to start a program, and to notice that it has ended: longer than to start a shell
in the background. -/
def latency : Nat := 2

/-- Run a program and wait for it.  If it takes the shell's place, nothing else has its descriptors. -/
def launch (takesPlace : Bool) (p : Program) (name : Bytes) (args : List Bytes) : Act Ending := do
  if !takesPlace then reusePlace
  let s ← get
  let start := s.world.clock + latency
  let stdinChannel ← channel? 0
  let input := stdinChannel.getD .out
  let (chunks, closedAt) ← remaining input
  let stdin := chunks.flatMap (·.2)
  let after :=
    s.setting.behaviour p
      ⟨name, args, stdin, s.inputFault stdinChannel, closedAt - start,
        s.setting.limit.map (· - start), s.environment, s.ignoredSignals, s.world.files⟩
  let done := after.finished
  consume input (stdin.length - after.unread.length)
  putEntries (start + done.runtime) (changedEntries s.world.files.entries after.files.entries)
  if takesPlace then handOver
  if !takesPlace ∨ done.runtime < done.held then
    hold (holdsOf s.process true start (start + max done.runtime done.held) s.descriptors)
  let printed ← passOn 1 start (emitted .out done)
  let _ ← passOn 2 start (emitted .err done)
  waitUntil (start + done.runtime + latency)
  if printed then return done.ending
  else
    let _ ← write 2 (name ++ ": write error: No space left on device\n".toList)
    return .exited 1

/-- Leave the status of something that the shell has waited for. -/
def leaveEnding (e : Ending) : Act Unit := do
  mention e
  setStatus e.status

/-- Run the program with a name.  If nothing is left to do after it, it takes the shell's place. -/
def runNamed (isLast : Bool) (name : Bytes) (args : List Bytes) : Act Flow := do
  let s ← get
  match s.world.files.findProgramIn s.searchPath name.text with
  | .error e =>
    let (text, status) := launchFault name e
    complain text
    leaveStatus (if name.contains '/' then status else 127)
  | .ok p =>
    let takesPlace := isLast && s.traps.isEmpty
    let ending ← launch takesPlace p name args
    if takesPlace then
      setStatus ending.status
      throw (.leave ending)
    else
      leaveEnding ending
      return .next

/-- Let a program take the shell's place. -/
def replaceBy (name : Bytes) (args : List Bytes) : Act Flow := do
  let s ← get
  match s.world.files.findProgramIn s.searchPath name.text with
  | .error e =>
    let (text, status) := launchFault name e
    complain text
    setStatus status
    throw (.leave (.exited status))
  | .ok p =>
    modify fun s => { s with traps := [] }
    let ending ← launch true p name args
    throw (.leave ending)

end HashReplay.Programs.Shell
