import HashReplay.Programs.Shell.Builtin.Basic
import HashReplay.Programs.Shell.Condition

/-!
# Parameters, variables and switches

The commands of the shell that change what it keeps: the parameters of the script, the variables with
their marks, and the switches.

## Main definitions

* `shift`, `configure` — change the parameters and the switches.
* `declare`, `makeLocal`, `unset` — change variables.
* `readOption` — reads the options of a script.
-/

namespace HashReplay.Programs.Shell

/-! ### Parameters and variables -/

/-- Drop parameters. -/
def shift : Utility := fun args => do
  let n ←
    match args with
    | [] => pure 1
    | arg :: _ => naturalOf arg
  if (← get).params.length < n then giveUp "can't shift that many".toList
  modify fun s => { s with params := s.params.drop n }
  leaveStatus 0

/-- A text between single quotes, but for the single quotes in it, which stand between double ones. -/
def singleQuoted (s : Bytes) : Bytes :=
  match s with
  | [] => "''".toList
  | '\'' :: _ => "''".toList ++ stretches s
  | _ => stretches s
where
  /-- What is not empty, as stretches with and without single quotes. -/
  stretches (s : Bytes) : Bytes :=
    (s.splitBy fun a b => (a == '\'') == (b == '\'')).flatMap fun t =>
      let quote := if t.head? = some '\'' then '"' else '\''
      quote :: t ++ [quote]

/-- Lines that would give variables their values, each after a word. -/
def listing (word : Bytes) (vs : List Variable) : Bytes :=
  let sorted := vs.mergeSort fun a b => a.name = b.name || Condition.comesBefore a.name b.name
  sorted.flatMap fun v =>
    word ++ v.name ++ (v.value.elim [] fun x => '=' :: singleQuoted x) ++ ['\n']

/-- The name in an argument, and the value if there is one. -/
def nameAndValue (arg : Bytes) : Act (Bytes × Option Bytes) := do
  let name := arg.takeWhile (· != '=')
  checkName name
  return (name, if name.length < arg.length then some (arg.drop (name.length + 1)) else none)

/-- Change variables by names, some of which come with values. -/
def declareAll (f : Variable → Variable) : List Bytes → Act Unit
  | [] => return ()
  | arg :: args => do
    let (name, value) ← nameAndValue arg
    match value, (← get).cell? name with
    | none, some v => putVariable (f v)
    | _, _ => changeVariable name fun v => f { v with value := value.or v.value }
    declareAll f args

/-- Mark variables, or list those that are marked. -/
def declare (word : String) (isMarked : Variable → Bool) (mark : Variable → Variable) : Utility :=
  fun args => do
    let (_, operands) ← splitOptions ['p'] args
    if operands.isEmpty then
      output (listing (word.toList ++ [' ']) ((← get).cells.filter isMarked)) 0
    else
      declareAll mark operands
      leaveStatus 0

/-- Keep variables for the end of the function. -/
def keepAll : List Bytes → Act Unit
  | [] => return ()
  | ['-'] :: args => keepAll args
  | arg :: args => do
    let (name, value) ← nameAndValue arg
    modify fun s =>
      match s.frames with
      | frame :: frames =>
        if (frame.lookup name).isSome then s
        else { s with frames := ((name, s.cell? name) :: frame) :: frames }
      | [] => s
    match value with
    | some v => assign name v
    | none => pure ()
    keepAll args

/-- Let variables belong to the function. -/
def makeLocal : Utility := fun args => do
  if (← get).frames.isEmpty then giveUp "not in a function".toList
  keepAll args
  leaveStatus 0

/-- Drop variables or functions. -/
def unsetAll (isFunction : Bool) : List Bytes → Act Unit
  | [] => return ()
  | name :: names => do
    let s ← get
    if !isFunction then checkName name
    if isFunction then set { s with functions := s.functions.filter fun f => f.1 ≠ name }
    else if ((s.cell? name).map (·.readOnly)).getD false then
      giveUp (name ++ ": is read only".toList)
    else dropVariable name
    unsetAll isFunction names

/-- Drop variables, or functions after the option that says so. -/
def unset : Utility := fun args => do
  let (letters, names) ← splitOptions ['v', 'f'] args
  unsetAll (letters.getLast? = some 'f') names
  leaveStatus 0

/-! ### Switches -/

/-- Turn a switch on or off.  Where there is no terminal, nothing can belong to one. -/
def turnSwitch (isOn : Bool) (w : Switch) : Act Unit :=
  if isOn && w = .monitor then complain "can't access tty; job control turned off".toList
  else modify fun s => { s with switches := w.turn isOn s.switches }

/-- Turn switches on or off by their letters. -/
def turnAll (isOn : Bool) : Bytes → Act Unit
  | [] => return ()
  | c :: s => do
    match Switch.ofLetter? c with
    | some w => turnSwitch isOn w
    | none => refuseOption c
    turnAll isOn s

/-- Turn a switch on or off by its long name. -/
def turnNamed (isOn : Bool) (name : Bytes) : Act Unit :=
  match Switch.ofName? name with
  | some w => turnSwitch isOn w
  | none => giveUp ("Illegal option -o ".toList ++ name)

/-- Turn switches as arguments say, or list them, up to the first argument that says nothing about them;
the answer is the parameters that come after that, if the arguments give any. -/
def setSwitches : List Bytes → Act (Option (List Bytes))
  | [] => return none
  | arg :: args => do
    match arg with
    | ['-', '-'] => return some args
    | ['-'] => return if args.isEmpty then none else some args
    | sign :: c :: letters =>
      if sign = '-' ∨ sign = '+' then
        let isOn := sign = '-'
        let letters := c :: letters
        turnAll isOn (letters.filter (· != 'o'))
        if letters.contains 'o' then
          match args with
          | [] =>
            let on := (← get).switches
            let _ ← write 1 (if isOn then Switch.table on else Switch.script on)
            return none
          | name :: rest =>
            turnNamed isOn name
            setSwitches rest
        else setSwitches args
      else return some (arg :: args)
    | _ => return some (arg :: args)

/-- Turn switches and set the parameters, or list all variables. -/
def configure : Utility := fun args => do
  if args.isEmpty then
    output (listing [] ((← get).cells.filter fun v => v.value.isSome)) 0
  else
    match ← setSwitches args with
    | some params => modify fun s => { s with params }
    | none => pure ()
    leaveStatus 0

/-! ### Options of a script -/

/-- What the next option of a script is. -/
inductive OptionFound where
  | none
  | known (c : Char)
  | unknown (c : Char)
  | withValue (c : Char) (value : Bytes)
  | valueMissing (c : Char)

/-- What is known about an option letter: whether a value belongs to it. -/
def needsValue? (c : Char) : Bytes → Option Bool
  | [] => Option.none
  | d :: s =>
    if d = c && c != ':' then some (s.head? = some ':')
    else needsValue? c s

/-- The next option in arguments, of which `index` is the number of the next one, counted from one, and
`offset` tells how far the one before it was read; and where reading stands then. -/
def nextOption (known : Bytes) (args : List Bytes) (index offset : Nat) :
    OptionFound × Nat × Nat :=
  let letters := (args.getD (index - 2) []).drop offset
  let atWord := index < 2 || offset = 0 || letters.isEmpty
  let next := args[index - 1]?
  match atWord, next with
  | true, Option.none => (.none, index, 0)
  | true, some ['-', '-'] => (.none, index + 1, 0)
  | _, _ =>
    let word : Bytes := if atWord then next.getD [] else '-' :: letters
    match word with
    | '-' :: c :: s =>
      let index := if atWord then index + 1 else index
      let offset := (args.getD (index - 2) []).length - s.length
      match needsValue? c known with
      | Option.none => (.unknown c, index, offset)
      | some false => (.known c, index, offset)
      | some true =>
        if !s.isEmpty then (.withValue c s, index, 0)
        else
          match args[index - 1]? with
          | some v => (.withValue c v, index + 1, 0)
          | Option.none => (.valueMissing c, index, offset)
    | _ => (.none, index, 0)

/-- Read the next option of the script. -/
def readOption : Utility := fun args => do
  match args with
  | known :: name :: args =>
    let s ← get
    let args := if args.isEmpty then s.params else args
    let index := max 1 (Format.decimalValue ((s.value? "OPTIND".toList).getD ['1']))
    let offset := if s.optionPlace.1 = index then s.optionPlace.2 else 0
    let (found, index, offset) := nextOption known args index offset
    let quiet := known.head? = some ':'
    let argument : Bytes := "OPTARG".toList
    let fault (c : Char) (text : String) (mark : Char) : Act Char := do
      if quiet then
        assign argument [c]
        return mark
      else
        let _ ← write 2 (text.toList ++ [c] ++ (if mark = ':' then " option\n" else "\n").toList)
        dropVariable argument
        return '?'
    let answer ←
      match found with
      | .none => pure '?'
      | .known c => do
        assign argument []
        pure c
      | .withValue c v => do
        assign argument v
        pure c
      | .unknown c => fault c "Illegal option -" '?'
      | .valueMissing c => fault c "No arg for -" ':'
    assign "OPTIND".toList (number index)
    modify fun s => { s with optionPlace := (index, offset) }
    assign name [answer]
    leaveStatus (match found with | .none => 1 | _ => 0)
  | _ => giveUp "Usage: getopts optstring var [arg...]".toList

end HashReplay.Programs.Shell
