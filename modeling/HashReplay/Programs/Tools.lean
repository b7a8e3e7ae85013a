import HashReplay.Programs.Complaint
import HashReplay.Programs.Format

/-!
# Small programs

The programs that scripts use besides the shell: they print their arguments, print files, wait, or only
succeed or fail.

## Main definitions

* `echo`, `printf` — print arguments.
* `cat` — prints files and the input.
* `sleep` — waits.
-/

namespace HashReplay.Programs.Tools

/-- What a tool writes when it cannot be used like that; all complaints start with the name that the tool
was called by. -/
def tryHelp (name complaint : Bytes) : Finished :=
  .complained
    (name ++ ": ".toList ++ complaint ++ "\nTry '".toList ++ name ++
      " --help' for more information.\n".toList) 1

/-! ### Printing arguments -/

/-- Whether an argument is an option of `echo`: a dash and letters that it knows. -/
def isEchoOption (arg : Bytes) : Bool :=
  match arg with
  | '-' :: c :: s => (c :: s).all fun d => d == 'n' || d == 'e' || d == 'E'
  | _ => false

/-- Whether escapes are carried out, after the letters of the options: the last one that says so
counts. -/
def echoEscapes (letters : Bytes) : Bool :=
  (letters.filter fun c => c == 'e' || c == 'E').getLast? == some 'e'

/-- Print the arguments on a line. -/
def echo (args : List Bytes) : Finished :=
  let letters := (args.takeWhile isEchoOption).flatten
  let escapes := if echoEscapes letters then some true else none
  .printed (Format.echo escapes (!letters.contains 'n') (args.dropWhile isEchoOption))

/-- What `printf` says about an argument that is no number. -/
def numberComplaint (arg : Bytes) (f : Format.ArgumentFault) : Bytes :=
  let text :=
    match f with
    | .noNumber => "expected a numeric value"
    | .notAllNumber => "value not completely converted"
    | .outOfRange => "Numerical result out of range"
  Complaint.quotedArgument arg ++ ": ".toList ++ text.toList

/-- What `printf` says about a format or arguments that do not fit each other. -/
def formatComplaint (p : Format.Pass) : List Bytes :=
  match p.unknown, p.rest with
  | some text, _ => ['%' :: text ++ ": invalid conversion specification".toList]
  | none, [] => []
  | none, arg :: _ =>
    if p.converts then []
    else ["warning: ignoring excess arguments, starting with ".toList ++ Complaint.quotedArgument arg]

/-- Print arguments by a format. -/
def printf (name : Bytes) (args : List Bytes) : Finished :=
  match if args.head? = some ['-', '-'] then args.drop 1 else args with
  | [] => tryHelp name "missing operand".toList
  | format :: rest =>
    let p := Format.printf true format rest
    let complaints := (p.faulty.map fun (arg, f) => numberComplaint arg f) ++ formatComplaint p
    { emissions :=
        [⟨.err, 0, complaints.flatMap fun text => name ++ ": ".toList ++ text ++ ['\n']⟩,
          ⟨.out, 0, p.out⟩]
      ending := .exited (if p.faulty.isEmpty && p.unknown.isNone then 0 else 1)
      runtime := 0
      held := 0 }

/-! ### Options that are not known -/

/-- The first argument that looks like an option and is not known, as a complaint; `letters` are the
known letters and `names` the known long names.  After two dashes there are no options. -/
def unknownOption? (letters : List Char) (names : List String) : List Bytes → Option Bytes
  | [] => none
  | arg :: args =>
    match arg with
    | ['-', '-'] => none
    | '-' :: '-' :: s =>
      let name := s.takeWhile (· != '=')
      let quoted (n : Bytes) : Bytes := "'--".toList ++ n ++ ['\'']
      let fitting := (names.map String.toList).filter fun n => name.isPrefixOf n
      if fitting.contains name || fitting.length = 1 then unknownOption? letters names args
      else if fitting.isEmpty then some ("unrecognized option ".toList ++ quoted s)
      else
        some ("option ".toList ++ quoted s ++ " is ambiguous; possibilities:".toList ++
          fitting.flatMap fun n => ' ' :: quoted n)
    | '-' :: c :: s =>
      match (c :: s).find? fun d => !letters.contains d with
      | some d => some ("invalid option -- '".toList ++ [d, '\''])
      | none => unknownOption? letters names args
    | _ => unknownOption? letters names args

/-- Whether an argument is an operand, and not an option. -/
def isOperand (arg : Bytes) : Bool := arg == ['-'] || arg.head? != some '-'

/-- The arguments that are operands. -/
def operands : List Bytes → List Bytes
  | [] => []
  | arg :: args =>
    if arg = ['-', '-'] then args
    else if isOperand arg then arg :: operands args
    else operands args

/-! ### Printing files -/

/-- How `cat` shows what it prints. -/
structure Showing where
  /-- Lines are numbered. -/
  numbers : Bool
  /-- Lines are numbered that are not empty. -/
  numbersFilled : Bool
  /-- Of several empty lines one is printed. -/
  squeezes : Bool
  /-- The ends of lines are marked. -/
  ends : Bool
  /-- Tabs are written as text. -/
  tabs : Bool
  /-- Other bytes that are not printable are written as text. -/
  controls : Bool

/-- Everything as it is. -/
def Showing.plain : Showing := ⟨false, false, false, false, false, false⟩

/-- Take an option by its letter. -/
def Showing.turn (o : Showing) (c : Char) : Showing :=
  match c with
  | 'n' => { o with numbers := true }
  | 'b' => { o with numbersFilled := true }
  | 's' => { o with squeezes := true }
  | 'E' => { o with ends := true }
  | 'T' => { o with tabs := true }
  | 'v' => { o with controls := true }
  | 'e' => { o with ends := true, controls := true }
  | 't' => { o with tabs := true, controls := true }
  | 'A' => { o with ends := true, tabs := true, controls := true }
  | _ => o

/-- The long names of the options of `cat`, and their letters. -/
def catNames : List (String × Char) :=
  [("number-nonblank", 'b'), ("number", 'n'), ("squeeze-blank", 's'), ("show-nonprinting", 'v'),
    ("show-ends", 'E'), ("show-tabs", 'T'), ("show-all", 'A'), ("help", 'h'), ("version", 'V')]

/-- The option letters in an argument. -/
def catLetters (arg : Bytes) : Bytes :=
  match arg with
  | '-' :: '-' :: name =>
    ((catNames.find? fun (n, _) => n.toList == name).orElse fun _ =>
      catNames.find? fun (n, _) => !name.isEmpty && name.isPrefixOf n.toList).map (·.2) |>.toList
  | '-' :: letters => letters
  | _ => []

/-- How a byte is shown. -/
def Showing.byte (o : Showing) (c : Char) : Bytes :=
  let n := c.toNat
  if c = '\t' then if o.tabs then ['^', 'I'] else [c]
  else if !o.controls then [c]
  else
    let low := n % 128
    let mark : Bytes := if 128 ≤ n then ['M', '-'] else []
    if low < 32 then mark ++ ['^', Char.ofNat (low + 64)]
    else if low = 127 then mark ++ ['^', '?']
    else mark ++ [Char.ofNat low]

/-- Where printing stands: the number of the last line, whether a line has been begun, and how many empty
lines have just been there. -/
structure Shown where
  lines : Nat
  inLine : Bool
  empty : Nat

/-- The number in front of a line. -/
def lineNumber (n : Nat) : Bytes :=
  let ds := Text.decimal n
  List.replicate (6 - ds.length) ' ' ++ ds ++ ['\t']

/-- Show bytes, from where printing stands. -/
def Showing.bytes (o : Showing) : Shown → Bytes → Bytes × Shown
  | place, [] => ([], place)
  | place, c :: s =>
    let isEmpty := c = '\n' && !place.inLine
    let counts := if isEmpty then o.numbers && !o.numbersFilled else o.numbers || o.numbersFilled
    let numbered := !place.inLine && counts
    let lines := if numbered then place.lines + 1 else place.lines
    let front := if numbered then lineNumber lines else []
    let next : Shown := ⟨lines, c != '\n', if isEmpty then place.empty + 1 else 0⟩
    if isEmpty && o.squeezes && 0 < place.empty then o.bytes { place with empty := place.empty + 1 } s
    else
      let shown := if c = '\n' then (if o.ends then ['$', c] else [c]) else o.byte c
      let (rest, last) := o.bytes next s
      (front ++ shown ++ rest, last)

/-- Show bytes that are written one after another. -/
def Showing.emissions (o : Showing) : Shown → List Emission → List Emission
  | _, [] => []
  | place, e :: es =>
    if e.stream = .out then
      let (bytes, next) := o.bytes place e.bytes
      { e with bytes } :: o.emissions next es
    else e :: o.emissions place es

/-- What `cat` leaves of something with a name that cannot be read; of an input that is not there it also
says that it cannot be closed. -/
def catFault (call : Call) (name : Bytes) (e : IoError) : Finished :=
  let fault (place : Bytes) : Bytes :=
    call.name ++ ": ".toList ++ place ++ ": ".toList ++ (e.reason ++ "\n").toList
  match e with
  | .other _ => .complained (fault name ++ fault "closing standard input".toList) 1
  | _ => .complained (fault name) 1

/-- Print one file. -/
def catFile (call : Call) (path : Bytes) : Finished :=
  match call.files.readBytes path.text with
  | .ok bytes => .printed (Bytes.ofEncoded bytes)
  | .error e => catFault call (Complaint.fileName path) e

/-- Print the input, which ends some time after the start. -/
def catInput (call : Call) (stdin : Bytes) (start : Nat) : Finished :=
  match call.inputFault with
  | none =>
    let time := call.inputEnd - start
    ⟨[⟨.out, time, stdin⟩], .exited 0, time, 0⟩
  | some e => catFault call ['-'] e

/-- Print operands one after another, a dash standing for the input; what was not read of it is left. -/
def catAll (call : Call) : Finished → Bytes → List Bytes → Finished × Bytes
  | f, stdin, [] => (f, stdin)
  | f, stdin, operand :: rest =>
    if operand = ['-'] then catAll call (f.inTurn (catInput call stdin f.runtime)) [] rest
    else catAll call (f.inTurn (catFile call operand)) stdin rest

/-- Print files one after another, or the input if there are none. -/
def cat : Behaviour := fun call =>
  match unknownOption? "benstuvAET".toList (catNames.map (·.1)) call.args with
  | some complaint => ⟨tryHelp call.name complaint, call.files, call.stdin⟩
  | none =>
    let files := operands call.args
    let options := (call.args.takeWhile (· != ['-', '-'])).flatMap catLetters
    let (f, unread) :=
      catAll call (.silent 0) call.stdin (if files.isEmpty then [['-']] else files)
    let shown := (options.foldl Showing.turn .plain).emissions ⟨0, false, 0⟩ f.emissions
    ⟨{ f with emissions := shown }, call.files, unread⟩

/-! ### Waiting -/

/-- The number of seconds that a unit stands for. -/
def unitSeconds? : List Char → Option Nat
  | [] => some 1
  | ['s'] => some 1
  | ['m'] => some 60
  | ['h'] => some 3600
  | ['d'] => some 86400
  | _ => none

/-- The nanoseconds of an interval: a number that is not negative, perhaps with a unit. -/
def interval? (arg : Bytes) : Option Nat :=
  let lower := arg.map Char.toLower
  let (x, rest) := Format.decimalAt arg
  if lower = "inf".toList ∨ lower = "infinity".toList then some forever
  else if rest.length = arg.length then none
  else
    (unitSeconds? rest).map fun unit =>
      let seconds := x * Rat.ofInt (Int.ofNat unit)
      (seconds * Rat.ofInt 1000000000).floor.toNat

/-- What `sleep` says about an interval. -/
def intervalComplaint (arg : Bytes) : Bytes :=
  "invalid time interval ".toList ++ Complaint.quotedArgument arg

/-- Wait for the sum of the intervals. -/
def sleep (name : Bytes) (args : List Bytes) : Finished :=
  match unknownOption? [] ["help", "version"] args with
  | some complaint => tryHelp name complaint
  | none =>
    match operands args with
    | [] => tryHelp name "missing operand".toList
    | intervals =>
      match intervals.filter fun i => (interval? i).isNone with
      | [] => ⟨[], .exited 0, (intervals.filterMap interval?).foldl (· + ·) 0, 0⟩
      | wrong =>
        tryHelp name (('\n' :: name ++ ": ".toList).intercalate (wrong.map intervalComplaint))

end HashReplay.Programs.Tools
