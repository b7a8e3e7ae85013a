import HashReplay.Duration
import HashReplay.Invocation
import HashReplay.Verbosity

/-!
# Settings

Everything that a run needs to know.

## Main definitions

* `Settings` — the type.
* `Settings.standard` — the settings for an executable and a fixture when nothing else is said.
* `Settings.builder` — how the invocations of the run are built.
-/

namespace HashReplay

/-- Everything that a run needs to know. -/
structure Settings where
  /-- The tool under test. -/
  executable : String
  /-- The path of the fixture. -/
  testcases : String
  verbosity : Verbosity
  streamClass : String
  /-- How long a case may take; none means for ever. -/
  timeout : Option Duration
  /-- Whether an incomplete case at the end of the fixture is an error. -/
  strict : Bool
  /-- Where to write the capture log. -/
  capture : Option String
  deriving DecidableEq, Repr

namespace Settings

/-- The settings for an executable and a fixture when nothing else is said. -/
def standard (executable testcases : String) : Settings where
  executable
  testcases
  verbosity := .standard
  streamClass := defaultStreamClass
  timeout := none
  strict := false
  capture := none

/-- How the invocations of the run are built. -/
def builder (s : Settings) : Builder := ⟨s.executable, s.streamClass⟩

end Settings

end HashReplay
