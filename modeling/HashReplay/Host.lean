import HashReplay.Programs.Shell
import HashReplay.Programs.StandIn
import HashReplay.Programs.Tools
import HashReplay.Runner

/-!
# Hosts

A host is a file system with the usual devices and programs.  It answers invocations: the program is
found and run, its output is read as text, and a program that does not end within its time is stopped.

## Main definitions

* `usual` — the usual entries of a file system.
* `behaviour` — how programs behave.
* `launch` — what comes of starting a program by its name.
* `runner` — the answers of a host.
-/

namespace HashReplay.Host

open HashReplay.Programs

/-! ### What there is -/

/-- The directories that there always are. -/
def directories : List Path :=
  [["bin"], ["dev"], ["etc"], ["home"], ["opt"], ["root"], ["tmp"], ["usr"], ["usr", "bin"], ["var"],
    ["var", "tmp"], FileSystem.standInDirectory]

/-- The devices. -/
def devices : List (Path × Node) :=
  [(["dev", "null"], .nullDevice), (["dev", "full"], .fullDevice)]

/-- The file with the users. -/
def userFile : Path × Node :=
  (["etc", "passwd"], .file (Bytes.ofString "root:x:0:0:root:/root:/bin/sh\n").encoded)

/-- The programs in the directories for programs. -/
def commonPrograms : List (String × Program) :=
  [("sh", .shell), ("echo", .echo), ("printf", .printf), ("cat", .cat), ("sleep", .sleep),
    ("true", .true), ("false", .false)]

/-- The names of the stand-in. -/
def standInNames : List String := ["czicmd-stub", "CZIcmd"]

/-- The programs, each under all its paths. -/
def programs : List (Path × Node) :=
  standInNames.map (fun n => (FileSystem.standInDirectory ++ [n], Node.program .standIn)) ++
    [["usr", "bin"], ["bin"]].flatMap fun d =>
      commonPrograms.map fun (n, p) => (d ++ [n], Node.program p)

/-- The usual entries of a file system. -/
def usual : List (Path × Node) :=
  directories.map (fun d => (d, Node.directory)) ++ devices ++ [userFile] ++ programs

/-- A file system with the usual entries and others. -/
def withEntries (entries : List (Path × Node)) (workingDirectory : Path) : FileSystem :=
  ⟨usual ++ entries, workingDirectory⟩

/-! ### How programs behave -/

/-- A program that looks only at its name and its arguments. -/
def ofArguments (f : Bytes → List Bytes → Finished) : Behaviour := fun call =>
  ⟨f call.name call.args, call.files, call.stdin⟩

/-- How programs behave when shells may run shells up to a depth. -/
def behaviourTo : Nat → Program → Behaviour
  | _, .standIn => ofArguments fun _ args => StandIn.run (args.map Bytes.text)
  | _, .echo => ofArguments fun _ args => Tools.echo args
  | _, .printf => ofArguments Tools.printf
  | _, .cat => Tools.cat
  | _, .sleep => ofArguments Tools.sleep
  | _, .true => ofArguments fun _ _ => .silent 0
  | _, .false => ofArguments fun _ _ => .silent 1
  | 0, .shell => fun call => Shell.refuse call "Cannot fork".toList
  | depth + 1, .shell => Shell.behaviour (behaviourTo depth)

/-- How many shells may run each other. -/
def maxDepth : Nat := 64

/-- How programs behave. -/
def behaviour : Program → Behaviour := behaviourTo maxDepth

/-! ### Launching -/

/-- The environment of programs: variables, and the directories of programs if none of them says
those. -/
def environmentOf (bindings : List (String × String)) : Environment :=
  let given := bindings.map fun (name, value) => (Bytes.ofString name, Bytes.ofString value)
  let path : Bytes := "PATH".toList
  if (given.lookup path).isSome then given
  else given ++ [(path, Bytes.ofString (":".intercalate FileSystem.searchPath))]

/-- Start a program by its name and wait for it, or until `limit` if there is one. -/
def launch (env : Environment) (limit : Option Nat) (i : Invocation) (fs : FileSystem) :
    Except IoError Aftermath :=
  if i.argv.any fun a => a.toList.contains '\x00' then .error .nulInArgument
  else
    match fs.findProgram i.program with
    | .error e => .error e
    | .ok p =>
      let name := Bytes.ofString i.program
      .ok (behaviour p ⟨name, i.args.map Bytes.ofString, [], none, 0, limit, env, [], fs⟩)

/-- What a finished program left, as text. -/
def outputOf (done : Finished) : Output where
  stdout := String.ofList (Text.Utf8.decodeLossy done.stdout)
  exitCode := done.ending.code?.map Int.ofNat

/-- What comes of a program that was launched: its output if it was complete before its time was
over. -/
def resultOf (timeout : Option Duration) (program : String) (done : Finished) :
    Except RunError Output :=
  match timeout with
  | none => .ok (outputOf done)
  | some t => if done.completion < t.toNanos then .ok (outputOf done) else .error (.timeout program t)

/-- How long it took until there was an answer, in nanoseconds. -/
def elapsedOf (timeout : Option Duration) (done : Finished) : Nat :=
  match timeout with
  | none => done.completion
  | some t => min done.completion t.toNanos

/-- The answer of a program that was launched. -/
def answerOf (timeout : Option Duration) (program : String) (done : Finished) : Answer where
  result := resultOf timeout program done
  elapsed := .ofNanos (elapsedOf timeout done)
  finished := .epoch
  stderr := String.ofList (Text.Utf8.decodeLossy done.stderr)

/-- The answers of a host, which has no state but the files.  A program that cannot be launched leaves
them as they are. -/
def runner (env : Environment) (timeout : Option Duration) : Runner Unit := fun i _ files =>
  match launch env (timeout.map Duration.toNanos) i files with
  | .error e => ⟨⟨.error (.launchFailure i.program e), .zero, .epoch, ""⟩, (), files⟩
  | .ok after => ⟨answerOf timeout i.program after.finished, (), after.files⟩

end HashReplay.Host
