import HashReplay.Programs.Shell.Launch
import HashReplay.Programs.Shell.Redirection

/-!
# Running commands

What a command does to what the shell works on.  A command in a shell of its own starts from a copy, of
which only the world comes back; the commands of a pipeline all start at the same moment.

A script may run for ever, so running takes fuel.  Without fuel a script is taken to go on without an
end, which is what its limit is for.

## Main definitions

* `Position` — what the surroundings of a command mean for it.
* `run` — runs a command.
* `runText` — runs the commands of a text, one after another.
* `conclude` — runs something as the whole of a shell.
-/

namespace HashReplay.Programs.Shell

/-- What the surroundings of a command mean for it. -/
structure Position where
  /-- They look at its failure, which then ends nothing. -/
  tested : Bool
  /-- Nothing comes after it in its shell. -/
  isLast : Bool

/-- A position whose failure is looked at. -/
def Position.inTest : Position := ⟨true, false⟩

/-- A position with something after it whose failure nothing looks at. -/
def Position.unwatched : Position := ⟨false, false⟩

/-- The same position with something after it. -/
def Position.early (p : Position) : Position := { p with isLast := false }

/-! ### Shells of their own -/

/-- What is there in a shell that a shell starts, which takes a moment: signals that are ignored still
are, other traps are gone, and so are the jobs. -/
def State.forChild (s : State) : State :=
  { s with
    traps := s.traps.filter fun t => t.2.isEmpty
    programTraps := some s.ownTraps
    jobs := []
    handedOver := none
    world := { s.world with clock := s.world.clock + 1 } }

/-- What is there after a shell that was started from a state: the world as it is now, but the directory
of before. -/
def State.afterChild (before after : State) : State :=
  let directory := before.world.files.workingDirectory
  { before with
    world := { after.world with files := { after.world.files with workingDirectory := directory } } }

/-- A world without the changes of the files and of the places in open files that have been made since
an earlier one. -/
def World.beforeChanges (earlier w : World) : World :=
  let added := w.opened.drop earlier.opened.length
  { w with
    files := earlier.files
    opened := earlier.opened ++ added.map fun f => { f with offset := 0 } }

/-- How a shell ends that does something as its whole. -/
def endingOf (act : Act Flow) : Act Ending := do
  try
    let _ ← act
    return .exited (← get).status
  catch
    | .leave e => return e
    | .failed => return .exited (← get).status
    | e => throw e

/-- Whether something ends the shell by itself, by a command for that or by a fault. -/
def leaves (act : Act Flow) : Act (Option Ending) := do
  try
    let _ ← act
    return none
  catch
    | .leave e => return some e
    | .failed => return some (.exited (← get).status)
    | e => throw e

/-- How something ended, whatever that was. -/
def outcomeOf (act : Act α) : Act (Except Interrupt α) := do
  try
    let a ← act
    return .ok a
  catch e => return .error e

/-! ### Small steps -/

/-- End the shell after a failure, if that is switched on. -/
def endOnFailure (p : Position) : Act Unit := do
  let s ← get
  if s.isOn .endOnFailure && !p.tested && s.status != 0 then throw (.leave (.exited s.status))

/-- Note on which line a command is. -/
def atLine (line : Nat) : Act Unit := modify fun s => { s with line }

/-- Whether the arguments of a command are variables with values, so that these are no fields. -/
def assignsArguments (name : Bytes) : Bool :=
  ["export", "readonly", "local"].contains (String.ofList name)

/-- The fields of words that are arguments; those that give values to names are one field each if
`assigns` is set. -/
def argumentFields (x : Expander) (assigns : Bool) : List Word → Act (List Bytes)
  | [] => return []
  | w :: ws => do
    let first ←
      match if assigns then assignment? w else none with
      | some (name, value) => do pure [name ++ '=' :: (← x.valueOf value)]
      | none => x.fields w
    return first ++ (← argumentFields x assigns ws)

/-- The fields of the words of a command. -/
def commandFields (x : Expander) : List Word → Act (List Bytes)
  | [] => return []
  | w :: ws => do
    match ← x.fields w with
    | [] => commandFields x ws
    | name :: args => return name :: args ++ (← argumentFields x (assignsArguments name) ws)

/-- Carry out the assignments in front of a command; the answer is what they say. -/
def runAssignments (x : Expander) : List (Bytes × Word) → Act (List Bytes)
  | [] => return []
  | (name, w) :: rest => do
    let v ← x.valueOf w
    assign name v
    return (name ++ '=' :: v) :: (← runAssignments x rest)

/-- Carry out assignments that are seen by programs and last until they are undone. -/
def runTemporary (x : Expander) : List (Bytes × Word) → Act (List Bytes)
  | [] => return []
  | (name, w) :: rest => do
    let v ← x.valueOf w
    changeVariable name fun c => { c with value := some v, exported := true }
    return (name ++ '=' :: v) :: (← runTemporary x rest)

/-- Put variables back as they were. -/
def restoreVariables : List (Bytes × Option Variable) → Act Unit
  | [] => return ()
  | (name, none) :: rest => do
    dropVariable name
    restoreVariables rest
  | (_, some v) :: rest => do
    putVariable v
    restoreVariables rest

/-- Write a command to the error stream before it is run, if that is switched on. -/
def trace (errors : Option Channel) (words : List Bytes) : Act Unit := do
  let s ← get
  if s.isOn .tracing && !words.isEmpty then
    let mark := (s.value? "PS4".toList).getD []
    match errors with
    | some c => let _ ← writeAt s.world.clock c (mark ++ [' '].intercalate words ++ ['\n'])
    | none => pure ()

/-- Write to the error stream what was read between two places, if that is switched on. -/
def echoLines (i j : Input) : Act Unit := do
  if (← get).isOn .echoing then
    let _ ← write 2 (i.rest.take (i.rest.length - j.rest.length))

/-- Do something as a command of the shell with a name. -/
def asUtility (name : Bytes) (act : Act α) : Act α := do
  let outer := (← get).utility
  let back : Act Unit := modify fun s => { s with utility := outer }
  modify fun s => { s with utility := some name }
  try
    let a ← act
    back
    return a
  catch e =>
    back
    throw e

/-- Do something of which a failure does not end the shell. -/
def attempt (act : Act α) : Act (Option α) := do
  try
    let a ← act
    return some a
  catch
    | .failed => return none
    | e => throw e

/-- The file that a name means for reading commands from it. -/
def sourceFile? (s : State) (name : Bytes) : Option String :=
  if name.contains '/' then some name.text
  else
    (s.searchPath.map fun d => d ++ "/" ++ name.text).find? fun path =>
      (s.world.files.readBytes path).isOk

/-- Whether one of some patterns matches a text. -/
def matchesAny (x : Expander) (text : Bytes) : List Word → Act Bool
  | [] => return false
  | w :: ws => do
    if Pattern.matchesText (← x.pattern w) text then return true else matchesAny x text ws

/-- How many functions may be running inside each other. -/
def maxCalls : Nat := 1000

/-- Run something in a loop. -/
def inLoop (act : Act Flow) : Act Flow := do
  modify fun s => { s with loops := s.loops + 1 }
  let flow ← act
  modify fun s => { s with loops := s.loops - 1 }
  return flow

/-! ### Running -/

mutual

/-- Run a command. -/
def run : Nat → Position → Command → Act Flow
  | 0, _, _ => neverEnd
  | fuel + 1, p, c => do
    if (← get).isOn .onlyRead then return .next
    match c with
    | .simple line assignments words redirects =>
      atLine line
      let flow ← runSimple fuel p assignments words redirects
      runTraps fuel
      endOnFailure p
      return flow
    | .redirected line (.subshell c) rs =>
      atLine line
      redirecting rs do
        match ← redirectAll (expander fuel) rs with
        | some text =>
          complain text
          leaveStatus 2
        | none =>
          if p.isLast then handOver
          run fuel p (.subshell c)
    | .redirected line c rs =>
      atLine line
      redirecting rs do
        match ← redirectAll (expander fuel) rs with
        | some text =>
          complain text
          leaveStatus 2
        | none => run fuel p.early c
    | .pipeline cs =>
      runStages fuel p (← get).world.clock none 0 cs
      runTraps fuel
      endOnFailure p
      return .next
    | .negated c =>
      let flow ← run fuel .inTest c
      modify fun s => { s with status := if s.status = 0 then 1 else 0 }
      return flow
    | .andThen a b =>
      let flow ← run fuel .inTest a
      if flow ≠ .next || (← get).status ≠ 0 then return flow else run fuel p b
    | .orElse a b =>
      let flow ← run fuel .inTest a
      if flow ≠ .next || (← get).status = 0 then return flow else run fuel p b
    | .sequence a b =>
      let flow ← run fuel p.early a
      if flow ≠ .next then return flow else run fuel p b
    | .background c =>
      start fuel c
      leaveStatus 0
    | .subshell c =>
      if p.isLast && (← get).traps.isEmpty then
        let ending ← conclude fuel (run fuel p c)
        setStatus ending.status
        throw (.leave ending)
      let (ending, _) ← runChild fuel (fun s => s) p.tested (some c)
      waitUntil ((← get).world.clock + 1)
      leaveEnding ending
      runTraps fuel
      endOnFailure p
      return .next
    | .conditional test body otherwise =>
      let flow ← run fuel .inTest test
      if flow ≠ .next then return flow
      else if (← get).status = 0 then run fuel p body
      else
        match otherwise with
        | some c => run fuel p c
        | none => leaveStatus 0
    | .loop whileFails test body =>
      inLoop (runLoop fuel p.early whileFails test body 0)
    | .forEach line name words body =>
      atLine line
      let values ←
        match words with
        | some ws => (expander fuel).allFields ws
        | none => do pure (← get).params
      inLoop (runForEach fuel p.early name body 0 values)
    | .choice line word branches =>
      atLine line
      let text ← (expander fuel).textOf word
      runChoice fuel p text branches
    | .define name body =>
      modify fun s => { s with functions := (name, body) :: s.functions.filter fun f => f.1 ≠ name }
      leaveStatus 0

/-- How commands inside words are run. -/
def expander : Nat → Expander
  | 0 => ⟨fun _ => neverEnd⟩
  | fuel + 1 => ⟨substitute fuel⟩

/-- What a command in a shell of its own prints. -/
def substitute : Nat → Option Command → Act Bytes
  | 0, _ => neverEnd
  | fuel + 1, c => do
    let collector ← addCollector
    let redirected (s : State) : State :=
      { s with descriptors := (1, collector) :: s.descriptors.filter fun d => d.1 ≠ 1 }
    let (ending, _) ← runChild fuel redirected false c
    let source ← collected collector
    waitUntil source.closedAt
    mention ending
    modify fun s => { s with substituted := some ending.status }
    return source.chunks.flatMap (·.2)

/-- Run a command as the whole of a shell of its own, which starts from a changed state: how that ended,
and what the shell worked on then. -/
def runChild : Nat → (State → State) → Bool → Option Command → Act (Ending × State)
  | 0, _, _, _ => neverEnd
  | fuel + 1, change, tested, c => do
    reusePlace
    let before ← get
    set (change before.forChild)
    let body : Act Flow :=
      match c with
      | some c => run fuel ⟨tested, true⟩ c
      | none => leaveStatus 0
    match ← outcomeOf (conclude fuel body) with
    | .ok ending =>
      let after ← get
      set (before.afterChild after)
      return (ending, after)
    | .error e =>
      modify before.afterChild
      throw e

/-- Run a command as the whole of a shell of its own of which nothing waits for the end.  If that is
stopped, it is taken to go on without an end. -/
def runAside : Nat → (State → State) → Bool → Command → Act (Ending × State)
  | 0, _, _, _ => neverEnd
  | fuel + 1, change, tested, c => do
    reusePlace
    let before ← get
    set (change before.forChild)
    let outcome ← outcomeOf (conclude fuel (run fuel ⟨tested, true⟩ c))
    if outcome matches .error .stopped then modifyWorld fun w => { w with clock := forever }
    let after ← get
    set (before.afterChild after)
    match outcome with
    | .ok ending => return (ending, after)
    | .error .stopped => return (.signalled 9, after)
    | .error e => throw e

/-- Run something as the whole of a shell: what is done at the end of the shell comes after it. -/
def conclude : Nat → Act Flow → Act Ending
  | 0, _ => neverEnd
  | fuel + 1, act => do
    let ending ← endingOf act
    match (← get).traps.lookup 0 with
    | none => return ending
    | some action =>
      modify fun s =>
        { s with
          traps := s.traps.filter fun t => t.1 ≠ 0
          interrupted := some ending.status
          status := ending.status
          loops := 0 }
      let other ← leaves (runText fuel .unwatched false action)
      return other.getD ending

/-- Start a command in the background. -/
def start : Nat → Command → Act Unit
  | 0, _ => neverEnd
  | fuel + 1, c => do
    let input ← addBytes []
    modifyWorld fun w => { w with started := w.started + 1 }
    let before ← get
    let process := processNumber + before.world.started
    let now := before.world.clock
    let moment := now + 1
    let descriptors := (0, input) :: before.descriptors.filter fun d => d.1 ≠ 0
    let change (s : State) : State := { s with process, descriptors }
    let body : Command :=
      match c with
      | .redirected line c rs => .redirected line (.subshell c) rs
      | c => c
    let (ending, after) ← runAside fuel change false body
    let endsAt := after.world.clock
    let own (starts ends : Nat) (ds : List (Nat × Channel)) : List Hold :=
      holdsOf process false starts ends ds
    hold <|
      match after.handedOver with
      | none => own moment endsAt descriptors
      | some (time, ds) => own moment time descriptors ++ own time endsAt ds
    let ended : Process := ⟨process, endsAt, ending⟩
    modifyWorld fun w =>
      before.world.beforeChanges { w with clock := now, processes := ended :: w.processes }
    settle
    let stages :=
      match c with
      | .pipeline cs => cs.length
      | _ => 1
    modify fun s =>
      { s with jobs := ⟨s.freePlace, process, stages, false⟩ :: s.jobs, lastStarted := some process }

/-- Run the commands of a pipeline that started at some moment, the first of which reads from a channel,
if that is not the input of the shell; the commands before these took until `latest`.  One that would go
on without an end does so until nobody reads what it writes, if it writes at all. -/
def runStages : Nat → Position → Nat → Option Channel → Nat → List Command → Act Unit
  | 0, _, _, _, _, _ => neverEnd
  | _ + 1, _, _, _, _, [] => return ()
  | fuel + 1, p, moment, input, latest, c :: cs => do
    modifyWorld fun w => { w with clock := moment }
    let pipe ← if cs.isEmpty then pure none else do pure (some (← addCollector))
    let ends := (input.map fun c => (0, c)).toList ++ (pipe.map fun c => (1, c)).toList
    let change (s : State) : State :=
      { s with
        descriptors := ends ++ s.descriptors.filter fun d => (ends.lookup d.1).isNone }
    let unlimited (s : State) : State := { change s with setting := { s.setting with limit := none } }
    match pipe with
    | none =>
      let (ending, _) ← runChild fuel change p.tested (some c)
      leaveEnding ending
      waitUntil latest
    | some pipe =>
      let (ending, _) ← runAside fuel unlimited p.tested c
      let clock := (← get).world.clock
      let source ← collected pipe
      let isCutOff := forever ≤ clock && !source.chunks.isEmpty
      if clock < forever then mention ending
      let latest := if isCutOff then latest else max latest clock
      runStages fuel p moment (some (← addSource source)) latest cs

/-- Do on signals what is to be done on them. -/
def runTraps : Nat → Act Unit
  | 0 => neverEnd
  | fuel + 1 => do
    let s ← get
    if s.isProgram then
      match s.world.signals.find? fun (time, _) => time ≤ s.world.clock with
      | none => return ()
      | some (time, n) =>
        modifyWorld fun w => { w with signals := w.signals.erase (time, n) }
        let action := (s.traps.lookup n).getD []
        modify fun s => { s with interrupted := some s.status }
        let _ ← runText fuel .unwatched false action
        modify fun t => { t with interrupted := s.interrupted, status := s.status }
        runTraps fuel

/-- Run a simple command. -/
def runSimple : Nat → Position → List (Bytes × Word) → List Word → List Redirect → Act Flow
  | 0, _, _, _, _ => neverEnd
  | fuel + 1, p, assignments, words, redirects => do
    modify fun s => { s with substituted := none }
    let x := expander fuel
    let fields ← commandFields x words
    let before ← get
    let errors := before.descriptors.lookup 2
    let isSpecial := (fields.head?.map fun n => specialBuiltins.contains (String.ofList n)).getD false
    let act : Act Flow := do
      match ← redirectAll x redirects with
      | some text =>
        complain text
        setStatus 2
        if isSpecial then throw .failed else return .next
      | none =>
        match fields with
        | [] =>
          trace errors (← runAssignments x assignments)
          leaveStatus ((← get).substituted.getD 0)
        | name :: args =>
          if isSpecial then
            trace errors ((← runAssignments x assignments) ++ fields)
            runField fuel p false name args
          else
            let old := assignments.map fun (n, _) => (n, before.cell? n)
            trace errors ((← runTemporary x assignments) ++ fields)
            let flow ← runField fuel p false name args
            restoreVariables old.reverse
            return flow
    if fields = ["exec".toList] then
      let flow ← act
      handOver
      return flow
    else redirecting redirects act

/-- Run the command with a name; functions are passed over if `bare` is set, and no failure ends the
shell then. -/
def runField : Nat → Position → Bool → Bytes → List Bytes → Act Flow
  | 0, _, _, _, _ => neverEnd
  | fuel + 1, p, bare, name, args => do
    let s ← get
    let text := String.ofList name
    let isSpecial := specialBuiltins.contains text
    let guarded (act : Act Flow) : Act Flow :=
      if isSpecial && !bare then asUtility name act
      else do return (← attempt (asUtility name act)).getD .next
    match if isSpecial ∨ bare then none else s.functions.lookup name with
    | some body => call fuel p body args
    | none =>
      match utility? text with
      | some act => guarded (act args)
      | none =>
        if text = "eval" then
          guarded (runText fuel p.early false ([' '].intercalate args))
        else if text = "." then guarded (runFile fuel p.early args)
        else if text = "exec" then
          guarded (match args with | [] => leaveStatus 0 | n :: args => replaceBy n args)
        else if text = "command" then
          match ← attempt (asUtility name (splitOptions ['p', 'v', 'V'] args)) with
          | none => return .next
          | some (letters, operands) =>
            if letters.contains 'V' then describeAll true 0 (operands.take 1)
            else if letters.contains 'v' then describeAll false 0 (operands.take 1)
            else
              match operands with
              | [] => leaveStatus 0
              | n :: args => runField fuel p true n args
        else if text = "type" then guarded (describeAll true 0 args)
        else if text = "hash" then guarded (hash args)
        else runNamed p.isLast name args

/-- Run the commands of a file. -/
def runFile : Nat → Position → List Bytes → Act Flow
  | 0, _, _ => neverEnd
  | fuel + 1, p, args => do
    let (_, operands) ← splitOptions [] args
    match operands with
    | [] => leaveStatus 0
    | name :: _ =>
      let s ← get
      match sourceFile? s name with
      | none => giveUp (name ++ ": not found".toList)
      | some path =>
        match s.world.files.readBytes path with
        | .error e =>
          giveUp ("cannot open ".toList ++ name ++ ": ".toList ++ openFault "No such file" e)
        | .ok bytes =>
          match ← asUtility name (runText fuel p true (Bytes.ofEncoded bytes)) with
          | .returns => return .next
          | flow => return flow

/-- Call a function. -/
def call : Nat → Position → Command → List Bytes → Act Flow
  | 0, _, _, _ => neverEnd
  | fuel + 1, p, body, args => do
    let before ← get
    if maxCalls ≤ before.frames.length then
      giveUp ("Maximum function recursion depth (".toList ++ number maxCalls ++ ") reached".toList)
    set { before with params := args, loops := 0, frames := [] :: before.frames }
    let flow ← run fuel p.early body
    restoreVariables ((← get).frames.headD [])
    modify fun s =>
      { s with params := before.params, loops := before.loops, frames := before.frames }
    return if flow = .returns then .next else flow

/-- Run a loop that goes on as long as a test says; `status` is what the body left. -/
def runLoop : Nat → Position → Bool → Command → Command → Nat → Act Flow
  | 0, _, _, _, _, _ => neverEnd
  | fuel + 1, p, whileFails, test, body, status => do
    let flow ← run fuel .inTest test
    match flow with
    | .next =>
      if ((← get).status == 0) == whileFails then leaveStatus status
      else
        match ← run fuel p body with
        | .next => runLoop fuel p whileFails test body (← get).status
        | .continues 1 => runLoop fuel p whileFails test body (← get).status
        | .continues n => return .continues (n - 1)
        | .breaks 1 => return .next
        | .breaks n => return .breaks (n - 1)
        | .returns => return .returns
    | .continues 1 => runLoop fuel p whileFails test body status
    | .continues n => return .continues (n - 1)
    | .breaks 1 => return .next
    | .breaks n => return .breaks (n - 1)
    | .returns => return .returns

/-- Run a loop over values; `status` is what the body left. -/
def runForEach : Nat → Position → Bytes → Command → Nat → List Bytes → Act Flow
  | 0, _, _, _, _, _ => neverEnd
  | _ + 1, _, _, _, status, [] => leaveStatus status
  | fuel + 1, p, name, body, _, value :: values => do
    assign name value
    match ← run fuel p body with
    | .next => runForEach fuel p name body (← get).status values
    | .continues 1 => runForEach fuel p name body (← get).status values
    | .continues n => return .continues (n - 1)
    | .breaks 1 => return .next
    | .breaks n => return .breaks (n - 1)
    | .returns => return .returns

/-- Run the first of some branches that has a pattern for a text. -/
def runChoice : Nat → Position → Bytes → List Branch → Act Flow
  | 0, _, _, _ => neverEnd
  | _ + 1, _, _, [] => leaveStatus 0
  | fuel + 1, p, text, .mk patterns body :: branches => do
    if ← matchesAny (expander fuel) text patterns then
      match body with
      | some c => run fuel p c
      | none => leaveStatus 0
    else runChoice fuel p text branches

/-- Run the commands of a text, which may be that of a file. -/
def runText : Nat → Position → Bool → Bytes → Act Flow
  | 0, _, _, _ => neverEnd
  | fuel + 1, p, isFile, text =>
    let endsOpen := text.getLast? ≠ some '\n'
    runInput fuel { p with isLast := p.isLast && endsOpen } isFile false (.ofText text)

/-- Run the commands that are still to be read; `hasRun` tells whether there have been some before. -/
def runInput : Nat → Position → Bool → Bool → Input → Act Flow
  | 0, _, _, _, _ => neverEnd
  | fuel + 1, p, isFile, hasRun, i => do
    match readCommand i with
    | .error (line, f) =>
      modify fun s => { s with line }
      giveUp f.message.toList
    | .ok (none, j) =>
      if isFile then echoLines i j
      if !j.isAtEnd then runInput fuel p isFile hasRun j
      else if hasRun then return .next
      else leaveStatus 0
    | .ok (some c, j) =>
      if isFile then echoLines i j
      match ← run fuel { p with isLast := p.isLast && j.isAtEnd } c with
      | .next => if j.isAtEnd then return .next else runInput fuel p isFile true j
      | flow => return flow

end

end HashReplay.Programs.Shell
