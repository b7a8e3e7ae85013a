import HashReplay.CommandLine.Replay
import HashReplay.Host
import HashReplay.Session

/-!
# Transcripts

What the program does for a command line, from the outside: what it writes, its exit code, and the
files that it leaves.

## Main definitions

* `Transcript` — the type.
* `onHost` — the transcript of a session on a host.
* `execute` — the transcript of a command line.
-/

namespace HashReplay.CommandLine

/-- What a program shows of itself. -/
structure Transcript where
  stdout : String
  stderr : String
  exitCode : Nat
  files : FileSystem

/-- The name of the program. -/
def programName : String := "czicmd-regress"

/-- A session on a host whose programs get an environment, with the report going to a sink that takes
everything. -/
def onHost (env : Environment) (settings : Settings) (fs : FileSystem) : Session.Ending Unit :=
  Session.run settings (Host.runner (Host.environmentOf env) settings.timeout) () .unlimited fs

/-- What is written about a session that has no summary. -/
def failureText (terminal : Bool) (f : Session.Failure) : String :=
  (Diagnostic.mk .error f.message).render terminal

/-- The transcript of a session that has ended. -/
def ofEnding (terminal : Bool) (e : Session.Ending Unit) : Transcript where
  stdout := e.report
  stderr :=
    e.stderr terminal ++
      match e.result with
      | .ok _ => ""
      | .error f => failureText terminal f
  exitCode :=
    match e.result with
    | .ok summary => summary.exitStatus.code
    | .error _ => ExitStatus.failure.code
  files := e.bench.files

/-- What the program does for a command line in an environment and on a host. -/
def execute (terminal : Bool) (env : Environment) (args : List String) (fs : FileSystem) :
    Transcript :=
  match parse env args with
  | .error .help => ⟨helpText env, "", ExitStatus.success.code, fs⟩
  | .error .version => ⟨versionText, "", ExitStatus.success.code, fs⟩
  | .error (.usage e) => ⟨"", e.complaint programName, ExitStatus.usage.code, fs⟩
  | .ok a => ofEnding terminal (onHost env a.settings fs)

end HashReplay.CommandLine
