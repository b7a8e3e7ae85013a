import HashReplay.Programs.Shell.Builtin.Parameters
import HashReplay.Programs.Shell.Signal

/-!
# Leaving, traps and processes

The commands of the shell that end it or what it is in, say what it does on signals, send signals, and
wait for processes in the background.

## Main definitions

* `leaveShell`, `endFunction`, `leaveLoops` — end the shell, a function, and loops.
* `trap` — sets what is done on signals.
* `kill` — sends signals.
* `wait` — waits.
* `jobs`, `moveJob` — list jobs, and would bring them to the front.
-/

namespace HashReplay.Programs.Shell

/-! ### Going on elsewhere -/

/-- End the shell. -/
def leaveShell : Utility := fun args => do
  let s ← get
  let status ←
    match args with
    | [] => pure (s.interrupted.getD s.status)
    | arg :: _ => do pure ((← naturalOf arg) % 256)
  setStatus status
  throw (.leave (.exited status))

/-- End the function or the script. -/
def endFunction : Utility := fun args => do
  match args with
  | [] => return .returns
  | arg :: _ =>
    setStatus ((← naturalOf arg) % 256)
    return .returns

/-- Leave loops, as `flow` says. -/
def leaveLoops (flow : Nat → Flow) : Utility := fun args => do
  let wanted ←
    match args with
    | [] => pure 1
    | arg :: _ => naturalOf arg
  if wanted = 0 then giveUp ("Illegal number: 0".toList)
  setStatus 0
  match min wanted (← get).loops with
  | 0 => return .next
  | n => return flow n

/-! ### Traps -/

/-- The number of a signal or of the end of the shell. -/
def trapNumber? (name : Bytes) : Option Nat :=
  if name.map Char.toUpper = "EXIT".toList then some 0 else signalNumber? name

/-- Lines that would set the traps. -/
def trapListing (traps : List (Nat × Bytes)) : Bytes :=
  traps.flatMap fun (n, action) =>
    "trap -- ".toList ++ singleQuoted action ++ [' '] ++
      (if n = 0 then "EXIT".toList else signalName n) ++ ['\n']

/-- Set traps, or drop them. -/
def setTraps (action : Option Bytes) : List Bytes → Act Flow
  | [] => leaveStatus 0
  | name :: names =>
    match trapNumber? name with
    | none => do
      let _ ← write 2 ("trap: ".toList ++ name ++ ": bad trap\n".toList)
      leaveStatus 1
    | some n => do
      modify fun s =>
        let others := s.traps.filter fun t => t.1 ≠ n
        let traps := (others ++ (action.map fun a => (n, a)).toList).mergeSort fun a b => a.1 ≤ b.1
        { s with traps }
      setTraps action names

/-- Set what is done on signals and at the end, or list it. -/
def trap : Utility := fun args => do
  match (← splitOptions [] args).2 with
  | [] => output (trapListing (← get).traps) 0
  | [name] => setTraps none [name]
  | action :: names => setTraps (if action = ['-'] then none else some action) names

/-! ### Processes -/

/-- Whether a process has ended. -/
def Process.hasEnded (p : Process) (w : World) : Bool := p.endsAt ≤ w.clock

/-- End a process in the background at once: what it would have done later is not done. -/
def endProcess (signal : Nat) (p : Process) : Act Unit :=
  modifyWorld fun w =>
    let now := w.clock
    let isOwn (process : Nat) : Bool := process = p.number
    { w with
      written := w.written.filter fun x => !(isOwn x.process && now < x.time)
      later := w.later.filter fun x => !(isOwn x.process && now < x.time)
      holds := w.holds.filterMap fun h =>
        if !isOwn h.process then some h
        else if h.byProgram then if now ≤ h.starts then none else some h
        else some { h with ends := min now h.ends }
      processes := w.processes.map fun q =>
        if isOwn q.number && now + 1 < q.endsAt then ⟨q.number, now + 1, .signalled signal⟩ else q }

/-- Send a signal to the program that the shell is. -/
def signalProgram (n : Nat) : Act Unit := do
  match signalEffect n with
  | .ignored => return ()
  | .suspends => neverEnd
  | .ends =>
    let s ← get
    if s.isProgram && (s.traps.lookup n).isNone then throw (.killed n)
    else
      modifyWorld fun w =>
        let arrived := w.signals ++ [(s.world.clock, n)]
        { w with signals := arrived.mergeSort fun a b => a.1 ≤ b.1 }

/-- Mention a signal that ended something that the shell has waited for. -/
def mention (e : Ending) : Act Unit := do
  match e with
  | .exited _ => return ()
  | .signalled n => let _ ← write 2 (signalNotice n)

/-- The job that a text after a percent sign names, if there is one. -/
def State.jobAt? (s : State) (text : Bytes) : Option Job :=
  match text with
  | [] => s.jobs.head?
  | ['%'] => s.jobs.head?
  | ['+'] => s.jobs.head?
  | ['-'] => s.jobs[1]?
  | _ =>
    if text.all Char.isDigit then s.jobs.find? fun j => j.place = Format.decimalValue text else none

/-- The job that an argument names by its place or by its process. -/
def jobOf (arg : Bytes) : Act (Option Job) := do
  let s ← get
  match arg with
  | '%' :: text =>
    match s.jobAt? text with
    | some j => return some j
    | none =>
      giveUp <|
        if text = ['-'] then "No previous job".toList
        else if text.all fun c => c = '%' || c = '+' then "No current job".toList
        else "No such job: ".toList ++ arg
  | _ =>
    let process ← naturalOf arg
    return s.jobs.find? fun j => j.process = process

/-- Send a signal to one process; the answer is whether there is one. -/
def signalProcess (n : Nat) (target : Bytes) : Act Bool := do
  let process ←
    match target with
    | '%' :: _ => do pure ((← jobOf target).map (·.process))
    | _ => do pure (some (← naturalOf target))
  if process = some processNumber then
    signalProgram n
    return true
  else
    let w := (← get).world
    match w.processes.find? fun p => some p.number = process && !p.hasEnded w with
    | some p =>
      if signalEffect n = .ends then endProcess n p
      return true
    | none => return false

/-- Send a signal to processes. -/
def signalAll (n : Nat) (status : Nat) : List Bytes → Act Flow
  | [] => leaveStatus status
  | target :: targets => do
    if ← signalProcess n target then signalAll n status targets
    else
      complain "No such process\n".toList
      signalAll n 1 targets

/-- How `kill` is used. -/
def killUsage : String :=
  "Usage: kill [-s sigspec | -signum | -sigspec] [pid | job]... or\nkill -l [exitstatus]"

/-- Send signals, or list them. -/
def kill : Utility := fun args => do
  let usage : Act Flow := giveUp killUsage.toList
  let send (n : Nat) (targets : List Bytes) : Act Flow :=
    if targets.isEmpty then usage else signalAll n 0 targets
  match args with
  | [] => usage
  | ['-', 'l'] :: [] => output ((signals.map fun g => g.name ++ "\n").flatMap String.toList) 0
  | ['-', 'l'] :: arg :: _ => do
    let n ← naturalOf arg
    output (signalName (if 128 < n then n - 128 else n) ++ ['\n']) 0
  | [['-', 's']] => giveUp "No arg for -s option".toList
  | ['-', 's'] :: name :: targets =>
    match signalNumber? name with
    | some n => send n targets
    | none => giveUp ("invalid signal number or name: ".toList ++ name)
  | ['-', '-'] :: targets => send 15 targets
  | ['-'] :: _ => giveUp "Illegal number: ".toList
  | ('-' :: c :: name) :: targets =>
    match signalNumber? (c :: name) with
    | some n => send n targets
    | none => refuseOption c
  | targets => send 15 targets

/-- The process of a job. -/
def State.processOf? (s : State) (j : Job) : Option Process :=
  s.world.processes.find? fun p => p.number = j.process

/-- Note that the end of a process was waited for. -/
def noteEnd (j : Job) : Act Unit :=
  modify fun s =>
    let noted (k : Job) : Job := if k.place = j.place then { k with waitedFor := true } else k
    { s with jobs := s.jobs.map noted }

/-- The first signal up to a moment on which something is done. -/
def State.trappedSignal? (s : State) (moment : Nat) : Option (Nat × Nat) :=
  if s.isProgram then
    s.world.signals.find? fun (time, n) => time ≤ moment && !((s.traps.lookup n).getD []).isEmpty
  else none

/-- Wait for the end of a process, or for a signal on which something is done; the answer is the signal
if there was one. -/
def awaitJob (j : Job) (p : Process) : Act (Option Nat) := do
  match (← get).trappedSignal? p.endsAt with
  | some (time, n) =>
    waitUntil time
    return some n
  | none =>
    waitUntil p.endsAt
    noteEnd j
    return none

/-- Wait for the ends of jobs. -/
def awaitJobs : List Job → Act Flow
  | [] => leaveStatus 0
  | j :: js => do
    match (← get).processOf? j with
    | none => awaitJobs js
    | some p =>
      match ← awaitJob j p with
      | some n => leaveStatus (128 + n)
      | none => awaitJobs js

/-- Wait for the ends of the processes that arguments name; the status is that of the last. -/
def awaitNamed (status : Nat) : List Bytes → Act Flow
  | [] => leaveStatus status
  | arg :: args => do
    let j? ← jobOf arg
    let s ← get
    match j?, j?.bind s.processOf? with
    | some j, some p =>
      match ← awaitJob j p with
      | some n => leaveStatus (128 + n)
      | none =>
        if !p.hasEnded s.world then mention p.ending
        awaitNamed p.ending.status args
    | _, _ => awaitNamed 127 args

/-- Wait for processes in the background. -/
def wait : Utility := fun args => do
  match (← splitOptions [] args).2 with
  | [] => awaitJobs ((← get).jobs.filter fun j => !j.waitedFor)
  | args => awaitNamed 0 args

/-! ### Jobs -/

/-- The first place that no job has. -/
def State.freePlace (s : State) : Nat :=
  ((List.range (s.jobs.length + 1)).find? fun n => s.jobs.all fun j => j.place ≠ n + 1).getD 0 + 1

/-- Forget the first job that has ended and was waited for: something new takes its place. -/
def reusePlace : Act Unit :=
  modify fun s =>
    let isOver (j : Job) : Bool :=
      j.waitedFor && ((s.processOf? j).map fun p => p.hasEnded s.world).getD true
    let ended := (s.jobs.filter isOver).mergeSort fun j k => j.place ≤ k.place
    match ended.head? with
    | none => s
    | some j => { s with jobs := s.jobs.filter fun k => k.place ≠ j.place }

/-- How a process in the background is. -/
def statusText (p : Process) (w : World) : Bytes :=
  if !p.hasEnded w then "Running".toList
  else
    match p.ending with
    | .exited 0 => "Done".toList
    | .exited n => "Done(".toList ++ number n ++ [')']
    | .signalled n => signalText n

/-- The line of a job: its place, a mark for the two latest ones, its process if `withProcess` is set,
and how it is. -/
def State.jobLine (s : State) (withProcess : Bool) (j : Job) (p : Process) : Bytes :=
  let mark :=
    if s.jobs.head?.map (·.place) = some j.place then '+'
    else if s.jobs[1]?.map (·.place) = some j.place then '-'
    else ' '
  let process := if withProcess then number p.number ++ [' '] else []
  let text := ['['] ++ number j.place ++ [']', ' ', mark, ' '] ++ process ++ statusText p s.world
  let pipes := if withProcess then [] else (List.replicate (j.stages - 1) " | ".toList).flatten
  text ++ List.replicate (33 - text.length) ' ' ++ pipes ++ ['\n']

/-- List jobs, and forget those that have ended. -/
def listJobs (line : State → Job → Process → Bytes) : List Job → Act Flow
  | [] => leaveStatus 0
  | j :: js => do
    let s ← get
    if let some p := s.processOf? j then
      let _ ← write 1 (line s j p)
      if p.hasEnded s.world then
        modify fun s => { s with jobs := s.jobs.filter fun k => k.place ≠ j.place }
    listJobs line js

/-- The jobs that arguments name. -/
def jobsOf : List Bytes → Act (List Job)
  | [] => return []
  | arg :: args => do
    match ← jobOf arg with
    | some j => return j :: (← jobsOf args)
    | none => giveUp ("No such job: ".toList ++ arg)

/-- List the jobs. -/
def jobs : Utility := fun args => do
  let (letters, operands) ← splitOptions ['l', 'p'] args
  let wanted ← if operands.isEmpty then do pure (← get).jobs else jobsOf operands
  if letters.getLast? = some 'p' then listJobs (fun _ _ p => number p.number ++ ['\n']) wanted
  else listJobs (State.jobLine · (letters.getLast? = some 'l')) wanted

/-- Bring a job to the front or let it go on: without a terminal there is no job with which that could be
done. -/
def moveJob : Utility := fun args => do
  let (_, operands) ← splitOptions [] args
  let refuse (arg : Bytes) : Act Flow :=
    giveUp ("job ".toList ++ arg ++ " not created under job control".toList)
  match operands with
  | [] => if (← get).jobs.isEmpty then giveUp "No current job".toList else refuse "(null)".toList
  | arg :: _ =>
    let _ ← jobsOf [arg]
    refuse arg

end HashReplay.Programs.Shell
