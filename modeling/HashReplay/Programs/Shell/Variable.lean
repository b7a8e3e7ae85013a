import HashReplay.Programs.Shell.Channel

/-!
# Variables

The variables of a shell.  Some of them make up the environment of the programs that it runs.

## Main definitions

* `State.value?` — the value of a variable.
* `assign`, `changeVariable` — change a variable.
* `State.environment`, `State.searchPath` — what programs get, and where they are looked for.
-/

namespace HashReplay.Programs.Shell

/-- The variable with a name. -/
def State.cell? (s : State) (name : Bytes) : Option Variable := s.cells.find? fun v => v.name = name

/-- The value of a variable. -/
def State.value? (s : State) (name : Bytes) : Option Bytes := (s.cell? name).bind (·.value)

/-- Put a variable in place of the one with its name. -/
def putVariable (v : Variable) : Act Unit :=
  modify fun s => { s with cells := v :: s.cells.filter fun u => u.name ≠ v.name }

/-- Drop a variable. -/
def dropVariable (name : Bytes) : Act Unit :=
  modify fun s => { s with cells := s.cells.filter fun u => u.name ≠ name }

/-- Change a variable, which must not be read-only; one that there is not is made. -/
def changeVariable (name : Bytes) (f : Variable → Variable) : Act Unit := do
  let s ← get
  let v := (s.cell? name).getD ⟨name, none, false, false⟩
  if v.readOnly then giveUp (name ++ ": is read only".toList)
  else putVariable (f v)

/-- Refuse a name that variables cannot have. -/
def checkName (name : Bytes) : Act Unit := do
  if !isName name then giveUp (name ++ ": bad variable name".toList)

/-- Give a variable a value. -/
def assign (name value : Bytes) : Act Unit := do
  let all := (← get).isOn .exportAll
  changeVariable name fun v => { v with value := some value, exported := v.exported || all }

/-- The environment that programs get. -/
def State.environment (s : State) : Environment :=
  s.cells.filterMap fun v => if v.exported then v.value.map fun x => (v.name, x) else none

/-- The directories in which programs are looked for. -/
def State.searchPath (s : State) : List String :=
  match s.value? "PATH".toList with
  | none => []
  | some v => (Text.pieces (· == ':') v).map fun d => if d.isEmpty then "." else Bytes.text d

end HashReplay.Programs.Shell
