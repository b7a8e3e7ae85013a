import HashReplay.CommandLine.Transcript

/-!
# The program

Reads the environment and the fixture that the command line names, replays the fixture on a host, and
writes what the transcript says: the report, the diagnostics and the capture file.

## Main definitions

* `main` — the program.
-/

namespace HashReplay

open CommandLine

/-- The environment variables that the program looks at. -/
def readEnvironment : IO Environment := do
  let names := [OptionName.executable, .testcases, .capture].filterMap OptionName.variable?
  let mut env : Environment := []
  for name in names do
    if let some value ← IO.getEnv name then env := env ++ [(name, value)]
  return env

/-- A file system that holds the file at `path` as it is on the disk, if it is there. -/
def readInto (fs : FileSystem) (path : String) : IO FileSystem := do
  match ← (IO.FS.readBinFile path).toBaseIO with
  | .ok bytes => return fs.plant path (.file bytes.toList)
  | .error _ => return fs

/-- The host that a command line needs: the usual entries and the fixture. -/
def hostFor (arguments : Except Interruption Arguments) : IO FileSystem := do
  let fs := Host.withEntries [(["work"], .directory)] ["work"]
  match arguments with
  | .ok a => readInto fs a.testcases
  | .error _ => return fs

/-- Write the file at `path` to the disk as the transcript has it, if it is there. -/
def writeBack (t : Transcript) (path : String) : IO Unit := do
  match t.files.readBytes path with
  | .ok bytes => IO.FS.writeBinFile path ⟨bytes.toArray⟩
  | .error _ => return ()

end HashReplay

open HashReplay CommandLine in
/-- The program. -/
def main (args : List String) : IO UInt32 := do
  let env ← readEnvironment
  let arguments := parse env args
  let fs ← hostFor arguments
  let stderr ← IO.getStderr
  let t := execute (← stderr.isTty) env args fs
  if let .ok a := arguments then
    if let some path := a.capture then writeBack t path
  (← IO.getStdout).putStr t.stdout
  stderr.putStr t.stderr
  return t.exitCode.toUInt32
