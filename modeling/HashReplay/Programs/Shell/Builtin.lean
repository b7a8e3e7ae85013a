import HashReplay.Programs.Shell.Builtin.Lines
import HashReplay.Programs.Shell.Builtin.Processes
import HashReplay.Programs.Shell.Builtin.Surroundings
import HashReplay.Programs.Shell.Reader

/-!
# What the shell does by itself

The commands that the shell knows, by their names, as far as they need nothing but what the shell works
on; and what a name means.

## Main definitions

* `utility?` — the command with a name.
* `State.meaning?` — what a name means.
-/

namespace HashReplay.Programs.Shell

/-! ### Directories -/

/-- A path from the root as text. -/
def pathText (p : Path) : Bytes := ('/' :: ("/".intercalate p).toList)

/-- Go to a directory. -/
def changeDirectory : Utility := fun args => do
  let (_, operands) ← splitOptions ['L', 'P'] args
  let s ← get
  let old := pathText s.world.files.workingDirectory
  let target : Bytes :=
    match operands.head? with
    | some [] => ['.']
    | some ['-'] => (s.value? "OLDPWD".toList).getD old
    | some d => d
    | none => (s.value? "HOME".toList).getD ['.']
  match s.world.files.locate target.text with
  | .ok (.found p .directory) =>
    modifyWorld fun w => { w with files := { w.files with workingDirectory := p } }
    declareAll (fun v => { v with exported := true })
      ["OLDPWD=".toList ++ old, "PWD=".toList ++ pathText p]
    if operands.head? = some ['-'] then output (pathText p ++ ['\n']) 0 else leaveStatus 0
  | _ => giveUp ("can't cd to ".toList ++ target)

/-- Print the directory. -/
def printDirectory : Utility := fun args => do
  let _ ← splitOptions ['L', 'P'] args
  output (pathText (← get).world.files.workingDirectory ++ ['\n']) 0

/-! ### What names mean -/

/-- What a name means as that of a command. -/
inductive Meaning where
  | keyword
  | special
  | function
  | regular
  | program (path : Bytes)

/-- The path of a program by its name. -/
def State.programPath? (s : State) (name : Bytes) : Option Bytes :=
  let fs := s.world.files
  let isProgram (path : String) : Bool := (fs.programAt path).isOk
  if name.isEmpty then none
  else if name.contains '/' then if (fs.entryAt? name.text).isSome then some name else none
  else
    let paths := s.searchPath.map fun d => d ++ "/" ++ name.text
    (paths.find? isProgram).map Bytes.ofString

/-- The command of the shell for a condition, which may stand in brackets. -/
def test (inBrackets : Bool) : Utility := fun args => do
  if inBrackets && args.getLast? != some [']'] then giveUp "missing ]".toList
  let args := if inBrackets then args.dropLast else args
  match Condition.holds (← get).world.files args with
  | .ok b => leaveStatus (if b then 0 else 1)
  | .error text => giveUp text

/-- The command of the shell with a name, if it needs nothing but what the shell works on. -/
def utility? (name : String) : Option Utility :=
  match name with
  | ":" => some fun _ => leaveStatus 0
  | "true" => some fun _ => leaveStatus 0
  | "false" => some fun _ => leaveStatus 1
  | "echo" => some echo
  | "printf" => some printf
  | "read" => some readFields
  | "test" => some (test false)
  | "[" => some (test true)
  | "exit" => some leaveShell
  | "return" => some endFunction
  | "break" => some (leaveLoops .breaks)
  | "continue" => some (leaveLoops .continues)
  | "shift" => some shift
  | "export" => some (declare "export" (·.exported) fun v => { v with exported := true })
  | "readonly" => some (declare "readonly" (·.readOnly) fun v => { v with readOnly := true })
  | "local" => some makeLocal
  | "unset" => some unset
  | "set" => some configure
  | "getopts" => some readOption
  | "cd" => some changeDirectory
  | "chdir" => some changeDirectory
  | "pwd" => some printDirectory
  | "trap" => some trap
  | "kill" => some kill
  | "wait" => some wait
  | "jobs" => some jobs
  | "fg" => some moveJob
  | "bg" => some moveJob
  | "umask" => some umask
  | "times" => some fun _ => output "0m0.000000s 0m0.000000s\n0m0.000000s 0m0.000000s\n".toList 0
  | "ulimit" => some ulimit
  | "alias" => some setAliases
  | "unalias" => some dropAliases
  | _ => none

/-- The commands of the shell that run other commands or look for them. -/
def runners : List String := ["eval", ".", "exec", "command", "type", "hash"]

/-- What a name means as that of a command. -/
def State.meaning? (s : State) (name : Bytes) : Option Meaning :=
  let text := String.ofList name
  if keywords.contains text then some .keyword
  else if specialBuiltins.contains text then some .special
  else if (s.functions.lookup name).isSome then some .function
  else if (utility? text).isSome || runners.contains text then some .regular
  else (s.programPath? name).map .program

/-- The text of what a name means, on a line; in many words or only as one would write it. -/
def Meaning.text (wordy : Bool) (name : Bytes) (m : Meaning) : Bytes :=
  let words (s : String) : Bytes := name ++ (if wordy then s else "").toList ++ ['\n']
  match m with
  | .keyword => words " is a shell keyword"
  | .special => words " is a special shell builtin"
  | .function => words " is a shell function"
  | .regular => words " is a shell builtin"
  | .program path => (if wordy then name ++ " is ".toList else []) ++ path ++ ['\n']

/-- Tell what names mean. -/
def describeAll (wordy : Bool) (status : Nat) : List Bytes → Act Flow
  | [] => leaveStatus status
  | name :: names => do
    match (← get).meaning? name with
    | some m =>
      let _ ← write 1 (m.text wordy name)
      describeAll wordy status names
    | none =>
      let _ ← write 1 (if wordy then name ++ ": not found\n".toList else [])
      describeAll wordy 127 names

/-- Look for what names mean; one that means nothing is complained about. -/
def lookForAll (status : Nat) : List Bytes → Act Flow
  | [] => leaveStatus status
  | name :: names => do
    match (← get).meaning? name with
    | some _ => lookForAll status names
    | none =>
      complain (name ++ ": not found".toList)
      lookForAll 1 names

/-- Look for programs, or forget where they are. -/
def hash : Utility := fun args => do
  let (_, names) ← splitOptions ['r', 'v'] args
  lookForAll 0 names

end HashReplay.Programs.Shell
