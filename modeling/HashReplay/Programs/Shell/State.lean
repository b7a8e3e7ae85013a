import HashReplay.Programs.Shell.Script
import HashReplay.Programs.Shell.Switch
import HashReplay.Text.Numeral

/-!
# What a shell works on

A shell has variables, functions, parameters and descriptors of its own.  The files, the clock and
whatever has been written belong to a world that it shares with the shells that it starts.

A command in the background is carried out at once, and what it does is dated ahead.  It may hold the
channels that it was given until it ends, and what it will do to the files is kept until it is due.

## Main definitions

* `Channel`, `World` — where descriptors lead, and what shells share.
* `State` — what a shell works on.
* `Interrupt`, `Act` — why a script ends early, and what a step of it does.
* `Flow` — how a list of commands goes on after a command.
-/

namespace HashReplay.Programs.Shell

/-! ### The world -/

/-- Where a descriptor leads. -/
inductive Channel where
  /-- To the output of the program that the shell is. -/
  | out
  /-- To the error stream of the program that the shell is. -/
  | err
  /-- To what a pipe or a substitution collects. -/
  | collector (id : Nat)
  /-- From bytes that arrive. -/
  | source (id : Nat)
  | file (id : Nat)
  deriving DecidableEq, Repr

/-- An open file. -/
structure OpenFile where
  path : Path
  offset : Nat
  mode : OpenMode

/-- Bytes that arrive, with the times, and the time after which none will. -/
structure Source where
  chunks : List (Nat × Bytes)
  closedAt : Nat

/-- Bytes that a process wrote. -/
structure Written where
  process : Nat
  channel : Channel
  time : Nat
  bytes : Bytes

/-- A time during which a process, or a program that it runs, has a channel open. -/
structure Hold where
  process : Nat
  channel : Channel
  starts : Nat
  ends : Nat
  /-- Whether it is a program that the process runs. -/
  byProgram : Bool

/-- A change of the files or of the places in open files. -/
inductive FileChange where
  /-- There is something else at a path. -/
  | put (path : Path) (node : Node)
  /-- There is a file at a path, an empty one if there was none. -/
  | provide (path : Path)
  /-- Bytes are written to an open file. -/
  | write (id : Nat) (bytes : List UInt8)
  /-- Bytes of an open file are passed over. -/
  | advance (id : Nat) (n : Nat)

/-- A change that a process will make. -/
structure LaterChange where
  process : Nat
  time : Nat
  change : FileChange

/-- A process in the background. -/
structure Process where
  number : Nat
  endsAt : Nat
  ending : Ending

/-- What shells share. -/
structure World where
  files : FileSystem
  /-- What processes in the background will do to the files, the latest first. -/
  later : List LaterChange
  /-- Nanoseconds since the start. -/
  clock : Nat
  opened : List OpenFile
  sources : List Source
  /-- How many collectors there have been. -/
  collectors : Nat
  /-- What was written, the latest first. -/
  written : List Written
  holds : List Hold
  /-- How many processes were started in the background. -/
  started : Nat
  /-- Those of them of which the end is known. -/
  processes : List Process
  /-- Signals for the program that the shell is, with the times when they arrive, the earliest first. -/
  signals : List (Nat × Nat)

/-! ### Shells -/

/-- A variable; it may have no value and yet be exported. -/
structure Variable where
  name : Bytes
  value : Option Bytes
  exported : Bool
  readOnly : Bool

/-- What a shell knows of a process that it started in the background. -/
structure Job where
  /-- Its number among the jobs of the shell. -/
  place : Nat
  process : Nat
  /-- How many commands the pipeline has that it is. -/
  stages : Nat
  /-- Whether its end has been waited for. -/
  waitedFor : Bool

/-- What stays the same while a shell runs. -/
structure Setting where
  /-- The name of the script. -/
  name : Bytes
  limit : Option Nat
  /-- How programs behave. -/
  behaviour : Program → Behaviour

/-- What a shell works on. -/
structure State where
  setting : Setting
  world : World
  /-- The process that it is, or zero for the shell that is the program. -/
  process : Nat
  cells : List Variable
  functions : List (Bytes × Command)
  /-- The parameters, without the name of the script. -/
  params : List Bytes
  descriptors : List (Nat × Channel)
  /-- The switches that are on. -/
  switches : List Switch
  /-- What is done at the end or on a signal, by the number of the signal. -/
  traps : List (Nat × Bytes)
  /-- In a shell that a shell started: what the program does on signals. -/
  programTraps : Option (List (Nat × Bytes))
  /-- The exit status of the last command. -/
  status : Nat
  /-- The exit status of the last substitution in the command at hand. -/
  substituted : Option Nat
  /-- The exit status before what is being done on a signal or at the end. -/
  interrupted : Option Nat
  /-- The number of the line of the command at hand. -/
  line : Nat
  /-- The command of the shell that is running. -/
  utility : Option Bytes
  /-- How many loops the command at hand is in. -/
  loops : Nat
  /-- The variables to restore after each function that is running. -/
  frames : List (List (Bytes × Option Variable))
  /-- What it started in the background, the latest first. -/
  jobs : List Job
  /-- The process that was started last in the background. -/
  lastStarted : Option Nat
  /-- The permissions that new files do not have. -/
  mask : Nat
  /-- Names that stand for texts. -/
  aliases : List (Bytes × Bytes)
  /-- Where the reading of options stands: the number of the next argument, and how far the one before it
  was read. -/
  optionPlace : Nat × Nat
  /-- When a program took the place of the shell, and the descriptors that it got. -/
  handedOver : Option (Nat × List (Nat × Channel))

/-- Why a script ends early. -/
inductive Interrupt where
  /-- The shell ends, after what it does at its end. -/
  | leave (e : Ending)
  /-- A command cannot go on, and the shell ends if the command is more than a usual one. -/
  | failed
  /-- A signal ends the program that the shell is. -/
  | killed (signal : Nat)
  /-- The limit was reached. -/
  | stopped

/-- What a step of a script does. -/
abbrev Act (α : Type) := ExceptT Interrupt (StateM State) α

/-- How a list of commands goes on after a command. -/
inductive Flow where
  | next
  /-- Some enclosing loops end. -/
  | breaks (loops : Nat)
  /-- Some enclosing loops but the outermost of them end, and that one goes on. -/
  | continues (loops : Nat)
  /-- The function or the script ends. -/
  | returns
  deriving DecidableEq, Repr

/-- Whether a switch is on. -/
def State.isOn (s : State) (w : Switch) : Bool := s.switches.contains w

/-- The process number of the program that the shell is. -/
def processNumber : Nat := 4000

/-! ### Small steps -/

/-- Change the world. -/
def modifyWorld (f : World → World) : Act Unit := modify fun s => { s with world := f s.world }

/-- Set the exit status. -/
def setStatus (status : Nat) : Act Unit := modify fun s => { s with status }

end HashReplay.Programs.Shell
