import HashReplay.Duration
import HashReplay.FileSystem
import HashReplay.Invocation

/-!
# Runners

A runner answers an invocation: with what the program printed, or with the reason why it printed
nothing.  It may have a state of its own, so its answers can depend on everything asked before, and it
may look at files and change them.

## Main definitions

* `Output` — what a finished program left.
* `RunError` — why there is no output.
* `Timestamp` — a moment.
* `Answer` — an output or an error, with the time it took and what went to the error stream.
* `Response`, `Runner` — what comes of an invocation, and what answers invocations.
* `Runner.ofSource` — a runner that has nothing to do with files.
-/

namespace HashReplay

/-- What a finished program left. -/
structure Output where
  /-- What it printed, as text. -/
  stdout : String
  /-- Its exit code; none if a signal ended it. -/
  exitCode : Option Int
  deriving DecidableEq, Repr

/-- Why a case produced no output. -/
inductive RunError where
  /-- The program could not be started. -/
  | launchFailure (program : String) (cause : IoError)
  /-- The program was still running when its time was over. -/
  | timeout (program : String) (after : Duration)
  deriving DecidableEq, Repr

/-- The wording of a run error. -/
def RunError.message : RunError → String
  | .launchFailure program cause => "failed to launch '" ++ program ++ "': " ++ cause.message
  | .timeout program after => "'" ++ program ++ "' did not finish within " ++ after.text

/-- A moment: whole seconds since the start of 1970, negative before it, and nanoseconds after that
second. -/
structure Timestamp where
  secs : Int
  nanos : Fin 1000000000
  deriving DecidableEq, Repr

/-- The moment so many seconds and nanoseconds after the start of 1970; of the nanoseconds, what is
beyond whole seconds counts. -/
def Timestamp.ofNat (secs nanos : Nat) : Timestamp :=
  ⟨Int.ofNat secs, Duration.beyondSeconds nanos⟩

/-- The start of 1970. -/
def Timestamp.epoch : Timestamp := .ofNat 0 0

instance : Inhabited Timestamp := ⟨Timestamp.epoch⟩

/-- The answer to an invocation. -/
structure Answer where
  /-- The output, or why there is none. -/
  result : Except RunError Output
  /-- How long it took. -/
  elapsed : Duration
  /-- When the answer was there. -/
  finished : Timestamp
  /-- What the program wrote to the error stream, which it shares with this program. -/
  stderr : String

/-- What comes of an invocation. -/
structure Response (σ : Type) where
  answer : Answer
  /-- The state of the runner. -/
  world : σ
  files : FileSystem

/-- What answers invocations, with state `σ`. -/
abbrev Runner (σ : Type) := Invocation → σ → FileSystem → Response σ

/-- A runner that has nothing to do with files. -/
def Runner.ofSource {σ : Type} (source : Invocation → σ → Answer × σ) : Runner σ :=
  fun invocation world files =>
    let (answer, world) := source invocation world
    ⟨answer, world, files⟩

end HashReplay
