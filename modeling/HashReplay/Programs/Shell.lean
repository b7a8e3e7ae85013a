import HashReplay.Programs.Shell.Evaluation

/-!
# The shell

The shell as a program: it reads its options, finds its script, and runs it.  Commands that the shell
does not know by itself are programs, and how those behave is a parameter, so that the shell can be one
of them.

## Main definitions

* `State.start` — what a shell works on at its start.
* `runScript` — what the shell leaves after a script.
* `behaviour` — the shell.
-/

namespace HashReplay.Programs.Shell

/-- How deep running may go.  A script that goes deeper is taken to go on without an end. -/
def maxFuel : Nat := 100000

/-! ### The start -/

/-- The variables that a shell sets, whatever the environment says. -/
def ownVariables (call : Call) : List (Bytes × Bytes) :=
  [("IFS".toList, [' ', '\t', '\n']), ("OPTIND".toList, ['1']),
    ("PPID".toList, number (processNumber - 1)),
    ("PWD".toList, pathText call.files.workingDirectory)]

/-- The variables that a shell sets if the environment does not. -/
def usualVariables : List (Bytes × Bytes) :=
  [("PS1".toList, "# ".toList), ("PS2".toList, "> ".toList), ("PS4".toList, "+ ".toList),
    ("PATH".toList, "/usr/local/sbin:/usr/local/bin:/usr/sbin:/usr/bin:/sbin:/bin".toList)]

/-- The variables at the start: the environment, of which only names become variables, and the shell's
own. -/
def variablesAtStart (call : Call) : List Variable :=
  let env := call.environment
  let own := ownVariables call
  let inherited := env.filter fun v => isName v.1 && (own.lookup v.1).isNone
  let usual := usualVariables.filter fun v => (env.lookup v.1).isNone
  inherited.map (fun (name, value) => ⟨name, some value, true, false⟩) ++
    usual.map (fun (name, value) => ⟨name, some value, false, false⟩) ++
    own.map fun (name, value) =>
      ⟨name, some value, (env.lookup name).isSome || name = "PWD".toList, false⟩

/-- What a shell works on at its start. -/
def State.start (behaviour : Program → Behaviour) (call : Call) (name : Bytes) (params : List Bytes)
    (stdin : Bytes) : State where
  setting := ⟨name, call.limit, behaviour⟩
  world :=
    { files := call.files
      later := []
      clock := 0
      opened := []
      sources := [⟨[(call.inputEnd, stdin)], call.inputEnd⟩]
      collectors := 0
      written := []
      holds := []
      started := 0
      processes := []
      signals := [] }
  process := 0
  cells := variablesAtStart call
  functions := []
  params := params
  descriptors := [(0, .source 0), (1, .out), (2, .err)]
  switches := []
  traps := call.ignored.map fun n => (n, [])
  programTraps := none
  status := 0
  substituted := none
  interrupted := none
  line := 0
  utility := none
  loops := 0
  frames := []
  jobs := []
  lastStarted := none
  mask := 18
  aliases := []
  optionPlace := (1, 0)
  handedOver := none

/-! ### The end -/

/-- What was written to the streams of the program. -/
def emissionsOf (w : World) : List Emission :=
  w.written.reverse.filterMap fun x =>
    match x.channel with
    | .out => some ⟨.out, x.time, x.bytes⟩
    | .err => some ⟨.err, x.time, x.bytes⟩
    | _ => none

/-- What the shell leaves at an end. -/
def finish (call : Call) (s : State) (ending : Ending) : Aftermath where
  finished :=
    { emissions := emissionsOf s.world
      ending
      runtime := s.world.clock
      held := openUntil .out s.world }
  files :=
    { ({ s.world with clock := openUntil .out s.world }.settle 0).files with
      workingDirectory := call.files.workingDirectory }
  unread := ((s.world.sources.head?.map (·.chunks)).getD []).flatMap (·.2)

/-- What a script leaves.  The last of its commands may take the shell's place if `isText` is set. -/
def runScript (call : Call) (s : State) (isText : Bool) (text : Bytes) : Aftermath :=
  let act : Act Ending := do
    waitUntil 0
    conclude maxFuel (runText maxFuel ⟨false, isText⟩ (!isText) text)
  match act.run s with
  | (.ok ending, s) => finish call s ending
  | (.error (.killed n), s) => finish call s (.signalled n)
  | (.error _, s) => finish call s (.signalled 9)

/-! ### Options and operands -/

/-- What the shell leaves when it does not even start. -/
def refuse (call : Call) (text : Bytes) : Aftermath :=
  ⟨.complained (call.name ++ ": 0: ".toList ++ text ++ ['\n']) 2, call.files, call.stdin⟩

/-- What the arguments of the shell say: whether the first operand is a script and not the name of one,
which switches are on, and the operands. -/
structure Request where
  isText : Bool
  fromInput : Bool
  switches : List Switch
  operands : List Bytes

/-- Take the letters of options, each turned on or off. -/
def Request.turn (isOn : Bool) (r : Request) : Bytes → Except Char Request
  | [] => .ok r
  | c :: s =>
    if c = 'c' then { r with isText := true }.turn isOn s
    else if c = 's' then { r with fromInput := true }.turn isOn s
    else if c = 'l' then r.turn isOn s
    else
      match Switch.ofLetter? c with
      | some w => { r with switches := w.turn isOn r.switches }.turn isOn s
      | none => .error c

/-- Read the arguments of the shell: options first, and operands after them. -/
def Request.read (r : Request) : List Bytes → Except Bytes Request
  | [] => .ok r
  | arg :: args =>
    match arg with
    | ['-'] => .ok { r with operands := args }
    | ['-', '-'] => .ok { r with operands := args }
    | sign :: c :: letters =>
      if sign = '-' ∨ sign = '+' then
        match r.turn (sign = '-') ((c :: letters).filter (· != 'o')) with
        | .error c => .error ("Illegal option -".toList ++ [c])
        | .ok r =>
          if (c :: letters).contains 'o' then
            match args with
            | [] => .ok r
            | name :: rest =>
              match Switch.ofName? name with
              | some w => { r with switches := w.turn (sign = '-') r.switches }.read rest
              | none => .error ("Illegal option -o ".toList ++ name)
          else r.read args
      else .ok { r with operands := arg :: args }
    | _ => .ok { r with operands := arg :: args }

/-- Run what was requested: a text, perhaps with a name for it, or the file with a name, followed by
parameters; without operands, the input is the script. -/
def Request.run (behaviour : Program → Behaviour) (call : Call) (r : Request) : Aftermath :=
  let go (name : Bytes) (params : List Bytes) (stdin text : Bytes) : Aftermath :=
    let s := State.start behaviour call name params stdin
    runScript call { s with switches := r.switches } r.isText text
  match r.isText, r.operands with
  | true, [] => refuse call "-c requires an argument".toList
  | true, [text] => go call.name [] call.stdin text
  | true, text :: name :: params => go name params call.stdin text
  | false, operands =>
    match if r.fromInput then none else operands.head? with
    | none => go call.name operands [] call.stdin
    | some path =>
      match call.files.readBytes path.text with
      | .ok bytes => go path (operands.drop 1) call.stdin (Bytes.ofEncoded bytes)
      | .error .isADirectory => ⟨.silent 0, call.files, call.stdin⟩
      | .error e =>
        refuse call ("cannot open ".toList ++ path ++ ": ".toList ++ openFault "No such file" e)

/-- The shell, given how programs behave. -/
def behaviour (programs : Program → Behaviour) : Behaviour := fun call =>
  match Request.read ⟨false, false, [], []⟩ call.args with
  | .error text => refuse call text
  | .ok r => r.run programs call

end HashReplay.Programs.Shell
