import HashReplay.Programs.Format

/-!
# Signals

The signals that processes can be sent, by number and by name, and what they do to a program that is not
prepared for them.

## Main definitions

* `signals` — the signals.
* `signalNumber?` — a signal as it is written.
* `SignalEffect` — what a signal does.
-/

namespace HashReplay.Programs.Shell

/-- A signal. -/
structure Signal where
  number : Nat
  name : String
  /-- What is said about a program that it ended. -/
  notice : String

/-- The signals. -/
def signals : List Signal :=
  [⟨1, "HUP", "Hangup"⟩, ⟨2, "INT", "Interrupt"⟩, ⟨3, "QUIT", "Quit"⟩, ⟨4, "ILL", "Illegal instruction"⟩,
    ⟨5, "TRAP", "Trace/breakpoint trap"⟩, ⟨6, "ABRT", "Aborted"⟩, ⟨7, "BUS", "Bus error"⟩,
    ⟨8, "FPE", "Floating point exception"⟩, ⟨9, "KILL", "Killed"⟩, ⟨10, "USR1", "User defined signal 1"⟩,
    ⟨11, "SEGV", "Segmentation fault"⟩, ⟨12, "USR2", "User defined signal 2"⟩,
    ⟨13, "PIPE", "Broken pipe"⟩, ⟨14, "ALRM", "Alarm clock"⟩, ⟨15, "TERM", "Terminated"⟩,
    ⟨16, "STKFLT", "Stack fault"⟩, ⟨17, "CHLD", "Child exited"⟩, ⟨18, "CONT", "Continued"⟩,
    ⟨19, "STOP", "Stopped (signal)"⟩, ⟨20, "TSTP", "Stopped"⟩, ⟨21, "TTIN", "Stopped (tty input)"⟩,
    ⟨22, "TTOU", "Stopped (tty output)"⟩, ⟨23, "URG", "Urgent I/O condition"⟩,
    ⟨24, "XCPU", "CPU time limit exceeded"⟩, ⟨25, "XFSZ", "File size limit exceeded"⟩,
    ⟨26, "VTALRM", "Virtual timer expired"⟩, ⟨27, "PROF", "Profiling timer expired"⟩,
    ⟨28, "WINCH", "Window changed"⟩, ⟨29, "IO", "I/O possible"⟩, ⟨30, "PWR", "Power failure"⟩,
    ⟨31, "SYS", "Bad system call"⟩]

/-- The number of a signal, by its number or its name. -/
def signalNumber? (text : Bytes) : Option Nat :=
  if !text.isEmpty && text.all Char.isDigit then
    let n := Format.decimalValue text
    if n ≤ 64 then some n else none
  else (signals.find? fun g => g.name.toList == text.map Char.toUpper).map Signal.number

/-- The name of a signal by its number. -/
def signalName (n : Nat) : Bytes :=
  match signals.find? fun g => g.number == n with
  | some g => g.name.toList
  | none => Text.decimal n

/-- What is said about a program that a signal ended. -/
def signalText (n : Nat) : Bytes :=
  match signals.find? fun g => g.number == n with
  | some g => g.notice.toList
  | none => "Real-time signal ".toList ++ Text.decimal (n - 34)

/-- What the shell says by itself about a program that a signal ended: nothing about two of them. -/
def signalNotice (n : Nat) : Bytes := if n = 2 ∨ n = 13 then [] else signalText n ++ ['\n']

/-- What a signal does to a program that is not prepared for it. -/
inductive SignalEffect where
  | ignored
  | suspends
  | ends
  deriving DecidableEq, Repr

/-- The effect of a signal. -/
def signalEffect (n : Nat) : SignalEffect :=
  if n = 0 ∨ n = 17 ∨ n = 18 ∨ n = 23 ∨ n = 28 then .ignored
  else if 19 ≤ n ∧ n ≤ 22 then .suspends
  else .ends

end HashReplay.Programs.Shell
