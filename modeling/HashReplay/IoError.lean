/-!
# Errors of files and processes

Why a file could not be read or written or a program could not be started.

## Main definitions

* `IoError` — the causes.
* `IoError.reason` — their wording.
* `IoError.message` — their wording, with the number that the operating system gives them.
-/

namespace HashReplay

/-- Why an operation on a file or a process failed. -/
inductive IoError where
  /-- Nothing has this name. -/
  | notFound
  /-- It may not be used like that. -/
  | permissionDenied
  /-- Something that is no directory stands where the path needs one. -/
  | notADirectory
  /-- A directory stands where a file is needed. -/
  | isADirectory
  /-- The device is full. -/
  | noSpace
  /-- The path, or one of its parts, is too long. -/
  | nameTooLong
  /-- The content is no text. -/
  | invalidUtf8
  /-- The path holds a NUL character. -/
  | nulInPath
  /-- The program or an argument holds a NUL character. -/
  | nulInArgument
  /-- Any other cause, by its wording. -/
  | other (text : String)
  deriving DecidableEq, Repr

/-- The wording of a cause alone. -/
def IoError.reason : IoError → String
  | .notFound => "No such file or directory"
  | .permissionDenied => "Permission denied"
  | .notADirectory => "Not a directory"
  | .isADirectory => "Is a directory"
  | .noSpace => "No space left on device"
  | .nameTooLong => "File name too long"
  | .invalidUtf8 => "stream did not contain valid UTF-8"
  | .nulInPath => "file name contained an unexpected NUL byte"
  | .nulInArgument => "nul byte found in provided data"
  | .other text => text

/-- The number that the operating system gives a cause, if it knows the cause. -/
def IoError.number? : IoError → Option Nat
  | .notFound => some 2
  | .permissionDenied => some 13
  | .notADirectory => some 20
  | .isADirectory => some 21
  | .noSpace => some 28
  | .nameTooLong => some 36
  | _ => none

/-- The wording of a cause, with its number. -/
def IoError.message (e : IoError) : String :=
  match e.number? with
  | some n => e.reason ++ " (os error " ++ toString n ++ ")"
  | none => e.reason

end HashReplay
