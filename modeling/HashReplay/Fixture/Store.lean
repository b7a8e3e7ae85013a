import HashReplay.FileSystem
import HashReplay.Fixture.Parser

/-!
# Fixture files

A fixture is read from a file.  Whoever needs all of its cases to be complete asks for that; otherwise
an incomplete case at its end is only worth a warning.

## Main definitions

* `Fixture.LoadError` — why the cases of a file cannot be had.
* `Fixture.load` — the fixture in a file.
* `Fixture.completeCases` — the cases of a fixture that must be complete.
* `Fixture.incompleteWarning` — the wording of the warning.
-/

namespace HashReplay.Fixture

/-- Why the cases of a file cannot be had. -/
inductive LoadError where
  /-- The file cannot be read. -/
  | unreadable (path : String) (cause : IoError)
  /-- Its last case is incomplete. -/
  | incomplete (path : String) (record : Incomplete)
  deriving DecidableEq, Repr

/-- The wording of such an error. -/
def LoadError.message : LoadError → String
  | .unreadable path cause => "cannot read test cases from '" ++ path ++ "': " ++ cause.message
  | .incomplete path record =>
    "incomplete test case in '" ++ path ++ "' starting at line " ++ toString record.line ++
      ": missing " ++ record.missing.label

/-- The fixture in a file. -/
def load (fs : FileSystem) (path : String) : Except LoadError Fixture :=
  match fs.readText path with
  | .error cause => .error (.unreadable path cause)
  | .ok text => .ok (parse text)

/-- The cases of a fixture from `path` that must be complete. -/
def completeCases (path : String) (f : Fixture) : Except LoadError (List TestCase) :=
  match f.requireComplete with
  | .error record => .error (.incomplete path record)
  | .ok cases => .ok cases

/-- The wording of the warning about an incomplete case that is left out. -/
def incompleteWarning (path : String) (record : Incomplete) : String :=
  "ignoring incomplete test case at line " ++ toString record.line ++ " of " ++ path ++
    " (missing " ++ record.missing.label ++ ")"

end HashReplay.Fixture
