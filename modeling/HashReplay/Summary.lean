/-!
# Summaries

How many cases a run had and how many of them failed, and the exit status that follows from it.

## Main definitions

* `ExitStatus` — what the program tells its caller.
* `Summary` — the totals of a run.
-/

namespace HashReplay

/-- What the program tells its caller. -/
inductive ExitStatus where
  /-- Every case passed. -/
  | success
  /-- A case failed, or the run could not be done. -/
  | failure
  /-- The command line is wrong. -/
  | usage
  deriving DecidableEq, Repr

/-- The number of an exit status. -/
def ExitStatus.code : ExitStatus → Nat
  | .success => 0
  | .failure => 1
  | .usage => 2

/-- The totals of a run. -/
structure Summary where
  /-- How many cases there were. -/
  total : Nat
  /-- How many of them did not pass. -/
  failed : Nat
  deriving DecidableEq, Repr

namespace Summary

/-- How many cases passed. -/
def passed (s : Summary) : Nat := s.total - s.failed

/-- Whether no case failed. -/
def allPassed (s : Summary) : Bool := s.failed == 0

/-- The exit status of the run. -/
def exitStatus (s : Summary) : ExitStatus := if s.allPassed then .success else .failure

/-- The closing line of a run. -/
def line (s : Summary) : String :=
  if s.allPassed then "All tests passed." else "There were " ++ toString s.failed ++ " error(s)."

end Summary

end HashReplay
