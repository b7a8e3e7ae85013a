import HashReplay.CommandLine.Option
import HashReplay.Settings

/-!
# The command line of the program

Seven options, three of which can also be set by environment variables.  An option that is given beats
its variable, and the variable beats the value that the option has otherwise.

## Main definitions

* `OptionName`, `grammar` — the options.
* `Arguments` — what a command line and an environment say.
* `parse` — the arguments of a command line.
* `Arguments.settings` — the settings that the arguments stand for.
* `helpText`, `versionText` — what is printed on request.
-/

namespace HashReplay.CommandLine

open Text.ControlSequence (Fragment plain emphasis render)

/-- The options that take effect on a run. -/
inductive OptionName where
  | executable
  | testcases
  | verbosity
  | streamClass
  | timeout
  | strict
  | capture
  deriving DecidableEq, Repr

/-- What has been given so far. -/
structure Draft where
  executable : Option String
  testcases : Option String
  verbosity : Option Verbosity
  streamClass : Option String
  timeoutSecs : Option Nat
  strict : Bool
  capture : Option String
  deriving DecidableEq, Repr

/-- Nothing given. -/
def Draft.empty : Draft := ⟨none, none, none, none, none, false, none⟩

/-- A path, which must not be empty. -/
def pathValue (v : String) : Except ValueFault String := if v = "" then .error .missing else .ok v

/-- The greatest number of seconds. -/
def maxSeconds : Nat := 18446744073709551615

/-- A number of seconds. -/
def secondsValue (v : String) : Except ValueFault Nat :=
  match Text.readNat maxSeconds v.toList with
  | .ok n => .ok n
  | .error e => .error (.invalid e.message)

/-- A verbosity. -/
def verbosityValue (v : String) : Except ValueFault Verbosity :=
  match Verbosity.parse v with
  | .ok w => .ok w
  | .error e => .error (.invalid e.message)

/-- Take the value of an option. -/
def Draft.assign (name : OptionName) (v : String) (d : Draft) : Except ValueFault Draft :=
  match name with
  | .executable => (pathValue v).map fun p => { d with executable := some p }
  | .testcases => (pathValue v).map fun p => { d with testcases := some p }
  | .verbosity => (verbosityValue v).map fun w => { d with verbosity := some w }
  | .streamClass => .ok { d with streamClass := some v }
  | .timeout => (secondsValue v).map fun n => { d with timeoutSecs := some n }
  | .strict => .ok d
  | .capture => (pathValue v).map fun p => { d with capture := some p }

/-- Turn a switch on. -/
def Draft.turnOn (name : OptionName) (d : Draft) : Draft :=
  match name with
  | .strict => { d with strict := true }
  | _ => d

/-- The options of the program, in the order of its help text. -/
def options : List (OptionSpec OptionName) :=
  [⟨"czicmd-executable", some 'c', .value .executable "CZICMD_EXECUTABLE", false⟩,
    ⟨"testcases", some 't', .value .testcases "TESTCASES", false⟩,
    ⟨"verbosity", some 'v', .value .verbosity "VERBOSITY", false⟩,
    ⟨"source-stream-class", none, .value .streamClass "SOURCE_STREAM_CLASS", false⟩,
    ⟨"timeout-secs", none, .value .timeout "SECS", false⟩,
    ⟨"strict", none, .switch .strict, false⟩,
    ⟨"capture", none, .value .capture "CAPTURE", false⟩,
    ⟨"help", some 'h', .help, false⟩,
    ⟨"version", some 'V', .version, false⟩]

/-- What the options do. -/
def grammar : Grammar OptionName Draft := ⟨options, Draft.assign, Draft.turnOn⟩

/-! ### The environment -/

/-- The environment variables that are set. -/
abbrev Environment := List (String × String)

/-- The variable that can stand for an option. -/
def OptionName.variable? : OptionName → Option String
  | .executable => some "CZICMD_EXECUTABLE"
  | .testcases => some "CZICMD_TESTCASES"
  | .capture => some "CZICMD_REGRESS_CAPTURE"
  | _ => none

/-- The value that an option has from the environment. -/
def OptionName.fromEnvironment (env : Environment) (name : OptionName) : Option String :=
  name.variable?.bind fun v => env.lookup v

/-! ### Arguments -/

/-- What a command line and an environment say. -/
structure Arguments where
  executable : String
  testcases : String
  verbosity : Verbosity
  streamClass : String
  timeoutSecs : Option UInt64
  strict : Bool
  capture : Option String
  deriving DecidableEq, Repr

/-- The executable unless another is given. -/
def defaultExecutable : String := "CZIcmd"

/-- The fixture unless another is given. -/
def defaultTestcases : String := "testcases.txt"

/-- What has been given, completed. -/
def Draft.complete (d : Draft) : Arguments where
  executable := d.executable.getD defaultExecutable
  testcases := d.testcases.getD defaultTestcases
  verbosity := d.verbosity.getD .standard
  streamClass := d.streamClass.getD defaultStreamClass
  timeoutSecs := d.timeoutSecs.map UInt64.ofNat
  strict := d.strict
  capture := d.capture

/-- The arguments of a command line, without the name of the program, in an environment. -/
def parse (env : Environment) (args : List String) : Except Interruption Arguments :=
  (grammar.parse .empty args).bind fun p =>
  (grammar.fallBack .executable (OptionName.executable.fromEnvironment env) p).bind fun p =>
  (grammar.fallBack .testcases (OptionName.testcases.fromEnvironment env) p).bind fun p =>
  (grammar.fallBack .capture (OptionName.capture.fromEnvironment env) p).map fun p =>
  p.state.complete

/-- The settings that arguments stand for. -/
def Arguments.settings (a : Arguments) : Settings where
  executable := a.executable
  testcases := a.testcases
  verbosity := a.verbosity
  streamClass := a.streamClass
  timeout := a.timeoutSecs.map Duration.ofSecs
  strict := a.strict
  capture := a.capture

/-! ### Help and version -/

/-- The name and version of the program. -/
def versionText : String := "czicmd-regress 0.1.0\n"

/-- A text whose lines after the first one are indented like the notes on options. -/
def indented (s : String) : String :=
  String.ofList (s.toList.flatMap fun c => if c = '\n' then c :: List.replicate 10 ' ' else [c])

/-- The note on the variable of an option, with its value. -/
def variableNote (env : Environment) (name : OptionName) : String :=
  match name.variable? with
  | none => ""
  | some v => " [env: " ++ v ++ "=" ++ indented ((env.lookup v).getD "") ++ "]"

/-- The note on the value that an option has otherwise. -/
def defaultNote (value : String) : String := " [default: " ++ value ++ "]"

/-- The entry of an option in the help text: how it is written and, on the next line, what it is. -/
def entry (o : OptionSpec OptionName) (about : String) : List Fragment :=
  let letter :=
    match o.letter with
    | some c => [plain "  ", emphasis ("-" ++ String.singleton c), plain ", "]
    | none => [plain "      "]
  let value :=
    match o.effect with
    | .value _ placeholder => " <" ++ placeholder ++ ">"
    | _ => ""
  letter ++ [emphasis ("--" ++ o.long), plain (value ++ "\n          " ++ about ++ "\n")]

/-- What the options are, in their order. -/
def abouts (env : Environment) : List String :=
  ["Path to the CZIcmd executable under test" ++ variableNote env .executable ++
      defaultNote defaultExecutable,
    "Test-case file (4-line records: args, input, output, hash)" ++ variableNote env .testcases ++
      defaultNote defaultTestcases,
    "Verbosity: 0-3 or none, normal, chatty, debug" ++ defaultNote Verbosity.standard.label,
    "Stream class passed to CZIcmd for reading the source" ++ defaultNote defaultStreamClass,
    "Kill a test case's CZIcmd process after this many seconds",
    "Fail before running anything if the last record is incomplete",
    "Write one JSON line per test case to this file" ++ variableNote env .capture,
    "Print help",
    "Print version"]

/-- What stands above the options in the help text. -/
def helpHead : String :=
  "Replay CZIcmd test cases and compare the reported result hashes\n\n" ++
    "Usage: czicmd-regress [OPTIONS]\n\nOptions:\n"

/-- The help text in an environment. -/
def helpText (env : Environment) : String :=
  render (plain helpHead :: (options.zip (abouts env)).flatMap fun (o, about) => entry o about)

end HashReplay.CommandLine
