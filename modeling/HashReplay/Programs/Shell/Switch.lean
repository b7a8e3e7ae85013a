import HashReplay.Programs.Basic

/-!
# Switches

What can be switched on and off in a shell.  Each switch has a long name, and most of them have a letter.

## Main definitions

* `Switch`, `Switch.all` — the switches, in the order in which they are listed.
* `Switch.ofLetter?`, `Switch.ofName?` — the switch that is meant.
* `Switch.turn` — what is on after a switch was turned.
-/

namespace HashReplay.Programs.Shell

/-- What can be switched. -/
inductive Switch where
  /-- A command that fails ends the shell. -/
  | endOnFailure
  /-- Patterns are not expanded. -/
  | noPaths
  | ignoreEnd
  | interactive
  /-- Processes in the background belong to a terminal. -/
  | monitor
  /-- Commands are read and not run. -/
  | onlyRead
  | fromInput
  /-- Commands are written to the error stream before they are run. -/
  | tracing
  /-- Lines are written to the error stream when they are read. -/
  | echoing
  | viEditing
  | emacsEditing
  /-- No file that is there is emptied. -/
  | keepFiles
  /-- Variables are exported when they are set. -/
  | exportAll
  | notify
  /-- A parameter that is not set is an error. -/
  | mustBeSet
  | privileged
  | noLog
  | debug
  deriving DecidableEq, Repr

namespace Switch

/-- The switches with their names and letters, in the order in which they are listed. -/
def all : List (Switch × String × Option Char) :=
  [(.endOnFailure, "errexit", some 'e'), (.noPaths, "noglob", some 'f'),
    (.ignoreEnd, "ignoreeof", some 'I'), (.interactive, "interactive", some 'i'),
    (.monitor, "monitor", some 'm'), (.onlyRead, "noexec", some 'n'), (.fromInput, "stdin", some 's'),
    (.tracing, "xtrace", some 'x'), (.echoing, "verbose", some 'v'), (.viEditing, "vi", some 'V'),
    (.emacsEditing, "emacs", some 'E'), (.keepFiles, "noclobber", some 'C'),
    (.exportAll, "allexport", some 'a'), (.notify, "notify", some 'b'),
    (.mustBeSet, "nounset", some 'u'), (.privileged, "privileged", some 'p'),
    (.noLog, "nolog", none), (.debug, "debug", none)]

/-- The switch with a letter. -/
def ofLetter? (c : Char) : Option Switch := (all.find? fun (_, _, l) => l = some c).map (·.1)

/-- The switch with a name. -/
def ofName? (name : Bytes) : Option Switch := (all.find? fun (_, n, _) => n.toList = name).map (·.1)

/-- What is on after a switch was turned on or off.  Of the two ways of editing at most one is on. -/
def turn (isOn : Bool) (w : Switch) (on : List Switch) : List Switch :=
  let others := on.filter (· ≠ w)
  if !isOn then others
  else if w = .viEditing then w :: others.filter (· ≠ .emacsEditing)
  else if w = .emacsEditing then w :: others.filter (· ≠ .viEditing)
  else w :: others

/-- The letters of what is on, the last in the list first. -/
def letters (on : List Switch) : Bytes :=
  all.reverse.filterMap fun (w, _, letter) => if on.contains w then letter else none

/-- What is on and what is not, for people to read. -/
def table (on : List Switch) : Bytes :=
  "Current option settings\n".toList ++ all.flatMap fun (w, name, _) =>
    name.toList ++ List.replicate (16 - name.length) ' ' ++
      (if on.contains w then "on\n" else "off\n").toList

/-- What is on and what is not, as commands that would bring it about. -/
def script (on : List Switch) : Bytes :=
  all.flatMap fun (w, name, _) =>
    (if on.contains w then "set -o " else "set +o ").toList ++ name.toList ++ ['\n']

end Switch

end HashReplay.Programs.Shell
