import HashReplay.CommandLine.Option
import HashReplay.Digest.Sha256
import HashReplay.Programs.Basic
import HashReplay.Text.Numeral

/-!
# The stand-in

A program that can take the place of the tool under test.  It reports the digest of its source, or a
hash that it is told to report, or none.  It knows five flags and drops every other argument, so it can
be given whatever the tool would be given.

## Main definitions

* `knownFlags` — the flags, and which of them take a value.
* `keep`, `argumentVector` — the arguments that are not dropped, alone and behind the program's name.
* `sourceHash` — the hash of a source.
* `run` — the program.
-/

namespace HashReplay.Programs.StandIn

open HashReplay.CommandLine

/-! ### Which arguments are kept -/

/-- The flags that the stand-in knows, and whether each takes a value. -/
def knownFlags : List (String × Bool) :=
  [("--source", true), ("--calc-hash", false), ("--stub-hash", true), ("--stub-silent", false),
    ("--stub-exit", true)]

/-- Whether an argument is a known flag that takes a value; nothing for any other argument. -/
def takesValue? (arg : String) : Option Bool := knownFlags.lookup arg

/-- The known flags among the arguments, each with the argument after it if it takes a value. -/
def keep : List String → List String
  | [] => []
  | [a] => if (takesValue? a).isSome then [a] else []
  | a :: b :: rest =>
    match takesValue? a with
    | none => keep (b :: rest)
    | some false => a :: keep (b :: rest)
    | some true => a :: b :: keep rest

/-- The name of the program. -/
def programName : String := "czicmd-stub"

/-- The argument vector that is read: the name of the program, then the arguments that are kept. -/
def argumentVector (args : List String) : List String := programName :: keep args

/-! ### What the kept arguments say -/

/-- The flags. -/
inductive Flag where
  | source
  | calcHash
  | hash
  | silent
  | exit
  deriving DecidableEq, Repr

/-- What the kept arguments say. -/
structure Orders where
  source : Option String
  calcHash : Bool
  /-- The hash to report in place of the digest. -/
  hash : Option String
  silent : Bool
  exit : Int
  deriving DecidableEq, Repr

/-- Nothing said. -/
def Orders.empty : Orders := ⟨none, false, none, false, 0⟩

/-- The least exit code that can be asked for. -/
def minExit : Int := -2147483648

/-- The greatest exit code that can be asked for. -/
def maxExit : Int := 2147483647

/-- The greatest number that can be read at all. -/
def maxNumeral : Nat := 9223372036854775807

/-- The value of an exit code. -/
def exitValue (v : String) : Except ValueFault Int :=
  match Text.readInt maxNumeral v.toList with
  | .error e => .error (.invalid e.message)
  | .ok n =>
    if minExit ≤ n ∧ n ≤ maxExit then .ok n
    else
      .error (.invalid (toString n ++ " is not in " ++ toString minExit ++ "..=" ++ toString maxExit))

/-- Take the value of a flag. -/
def Orders.assign (flag : Flag) (v : String) (o : Orders) : Except ValueFault Orders :=
  match flag with
  | .source => .ok { o with source := some v }
  | .hash => .ok { o with hash := some v }
  | .exit => (exitValue v).map fun n => { o with exit := n }
  | .calcHash => .ok o
  | .silent => .ok o

/-- Turn a flag on. -/
def Orders.turnOn (flag : Flag) (o : Orders) : Orders :=
  match flag with
  | .calcHash => { o with calcHash := true }
  | .silent => { o with silent := true }
  | _ => o

/-- The options of the stand-in. -/
def grammar : Grammar Flag Orders where
  options :=
    [⟨"source", none, .value .source "SOURCE", false⟩,
      ⟨"calc-hash", none, .switch .calcHash, false⟩,
      ⟨"stub-hash", none, .value .hash "STUB_HASH", false⟩,
      ⟨"stub-silent", none, .switch .silent, false⟩,
      ⟨"stub-exit", none, .value .exit "STUB_EXIT", true⟩,
      ⟨"help", some 'h', .help, false⟩]
  assign := Orders.assign
  turnOn := Orders.turnOn

/-! ### What it prints -/

/-- The hash of a source: the first half of its digest. -/
def sourceHash (source : String) : List Char :=
  Digest.upperHex ((Digest.digest (Text.Utf8.encode source.toList)).take 16)

/-- The first line of the output. -/
def processingLine (o : Orders) : String := "czicmd-stub: processing " ++ o.source.getD "<none>"

/-- The hash that is reported, if any. -/
def reported? (o : Orders) : Option String :=
  if o.calcHash && !o.silent then
    some (o.hash.getD (String.ofList (sourceHash (o.source.getD ""))))
  else none

/-- The output. -/
def output (o : Orders) : String :=
  processingLine o ++ "\n" ++
    match reported? o with
    | none => ""
    | some hash => "hash of result: " ++ hash ++ "\n"

/-- The exit code as the system keeps it: its last eight bits. -/
def exitCode (o : Orders) : Nat := (o.exit % 256).toNat

/-- The help text. -/
def helpText : String :=
  String.join <| List.map (· ++ "\n")
    ["CZIcmd stand-in for harness tests",
      "",
      "Usage: czicmd-stub [OPTIONS]",
      "",
      "Options:",
      "      --source <SOURCE>        Input the harness passes through",
      "      --calc-hash              Print the result hash line",
      "      --stub-hash <STUB_HASH>  Hash to report instead of the source digest",
      "      --stub-silent            Print no hash line even with --calc-hash",
      "      --stub-exit <STUB_EXIT>  Exit code after printing [default: 0]",
      "  -h, --help                   Print help"]

/-- The program. -/
def run (args : List String) : Finished :=
  match grammar.parse .empty (argumentVector args).tail with
  | .error (.usage e) => .complained (.ofString (e.complaint programName)) 2
  | .error .help => .printed (.ofString helpText)
  | .error .version => .silent 0
  | .ok p => ⟨[⟨.out, 0, .ofString (output p.state)⟩], .exited (exitCode p.state), 0, 0⟩

end HashReplay.Programs.StandIn
