import HashReplay.Programs.Shell.Expansion

/-!
# Commands of the shell

A command that the shell carries out by itself gets its arguments, leaves its exit status, and tells how
the list of commands around it goes on.  One that cannot make sense of its arguments stops with a
complaint; whether that ends the shell is for the caller to say.

## Main definitions

* `Utility` — what such a command does with its arguments.
* `splitOptions`, `naturalOf` — arguments as options and as numbers.
* `output` — what a command prints.
-/

namespace HashReplay.Programs.Shell

/-- What a command of the shell does with its arguments. -/
abbrev Utility := List Bytes → Act Flow

/-- Leave an exit status. -/
def leaveStatus (status : Nat) : Act Flow := do
  setStatus status
  return .next

/-- Refuse an option. -/
def refuseOption (c : Char) : Act α := giveUp ("Illegal option -".toList ++ [c])

/-- The letters of the options in front of the arguments, which must be among those that are known, and
the operands. -/
def splitOptions (known : Bytes) : List Bytes → Act (Bytes × List Bytes)
  | [] => return ([], [])
  | arg :: args =>
    match arg with
    | ['-', '-'] => return ([], args)
    | '-' :: c :: s =>
      match (c :: s).find? fun d => !known.contains d with
      | some d => refuseOption d
      | none => do
        let (letters, operands) ← splitOptions known args
        return (c :: s ++ letters, operands)
    | _ => return ([], arg :: args)

/-- The number that an argument must be. -/
def naturalOf (arg : Bytes) : Act Nat :=
  match numeral? false arg with
  | some n =>
    if 0 ≤ n ∧ n ≤ 2147483647 then return n.toNat else giveUp ("Illegal number: ".toList ++ arg)
  | none => giveUp ("Illegal number: ".toList ++ arg)

/-- Write the output of a command of the shell. -/
def output (b : Bytes) (status : Nat) : Act Flow := do
  if ← write 1 b then leaveStatus status
  else
    complain ((← get).utility.getD [] ++ ": I/O error".toList)
    leaveStatus (max status 1)

end HashReplay.Programs.Shell
