import HashReplay.FileSystem

/-!
# Programs and what they leave

A program is called with arguments, an input, an environment and a file system.  It leaves what it wrote
to its two output streams, how it ended, how long it ran, and the file system.

Programs deal in bytes and not in texts.  To let bytes be read as text all the same, a byte is kept as
the character with its code.

## Main definitions

* `Bytes` — bytes as characters, with `Bytes.ofString`, `Bytes.text` and `Bytes.encoded`.
* `Emission`, `Finished` — what a program writes, and what it leaves, the file system apart.
* `Call`, `Behaviour` — what a program gets, and what it makes of it.
-/

namespace HashReplay.Programs

/-- Bytes, each as the character with its code. -/
abbrev Bytes := List Char

namespace Bytes

/-- The bytes that a sequence of bytes holds. -/
def ofEncoded (b : List UInt8) : Bytes := b.map fun b => Char.ofNat b.toNat

/-- The bytes of a text. -/
def ofString (s : String) : Bytes := ofEncoded (Text.Utf8.encode s.toList)

/-- The sequence of bytes. -/
def encoded (b : Bytes) : List UInt8 := b.map fun c => c.toNat.toUInt8

/-- Bytes as text. -/
def text (b : Bytes) : String := String.ofList (Text.Utf8.decodeLossy b.encoded)

end Bytes

/-- How a program ended. -/
inductive Ending where
  /-- By itself, with an exit code. -/
  | exited (code : Nat)
  /-- By a signal. -/
  | signalled (number : Nat)
  deriving DecidableEq, Repr

/-- The exit code, if there is one. -/
def Ending.code? : Ending → Option Nat
  | .exited code => some code
  | .signalled _ => none

/-- The status that a shell gives an ending. -/
def Ending.status : Ending → Nat
  | .exited code => code
  | .signalled n => 128 + n

/-- More nanoseconds than anything lasts. -/
def forever : Nat := 1000000000000000000000000000000

/-- The two streams that a program writes to. -/
inductive OutputStream where
  | out
  | err
  deriving DecidableEq, Repr

/-- Bytes that a program wrote at some time after its start, in nanoseconds. -/
structure Emission where
  stream : OutputStream
  time : Nat
  bytes : Bytes
  deriving DecidableEq, Repr

/-- What a program leaves. -/
structure Finished where
  /-- Everything that it wrote.  What was written later may stand earlier if another process wrote it. -/
  emissions : List Emission
  ending : Ending
  /-- How long it ran, in nanoseconds. -/
  runtime : Nat
  /-- For how long something that it started had its output stream open. -/
  held : Nat
  deriving DecidableEq, Repr

/-- Bytes with the times when they were written, in the order of time. -/
def inOrder (es : List (Nat × Bytes)) : List (Nat × Bytes) := es.mergeSort fun a b => a.1 ≤ b.1

namespace Finished

/-- What went to a stream, in the order of time. -/
def writtenTo (stream : OutputStream) (f : Finished) : List UInt8 :=
  let own := (f.emissions.filter fun e => e.stream == stream).map fun e => (e.time, e.bytes)
  Bytes.encoded ((inOrder own).flatMap (·.2))

/-- The output. -/
def stdout (f : Finished) : List UInt8 := f.writtenTo .out

/-- What went to the error stream. -/
def stderr (f : Finished) : List UInt8 := f.writtenTo .err

/-- How long it takes until the program has ended and its output is complete. -/
def completion (f : Finished) : Nat := max f.runtime f.held

/-- Ended at once, with an exit code, without output. -/
def silent (code : Nat) : Finished := ⟨[], .exited code, 0, 0⟩

/-- Ended at once with success, after writing. -/
def printed (out : Bytes) : Finished := ⟨[⟨.out, 0, out⟩], .exited 0, 0, 0⟩

/-- Ended at once with an exit code and a complaint. -/
def complained (message : Bytes) (code : Nat) : Finished :=
  ⟨[⟨.err, 0, message⟩], .exited code, 0, 0⟩

/-- Two programs of which the second starts when the first ends; the exit code is the first that is no
success. -/
def inTurn (a b : Finished) : Finished where
  emissions := a.emissions ++ b.emissions.map fun e => { e with time := a.runtime + e.time }
  ending := if a.ending = .exited 0 then b.ending else a.ending
  runtime := a.runtime + b.runtime
  held := max a.held (a.runtime + b.held)

end Finished

/-- Environment variables and their values. -/
abbrev Environment := List (Bytes × Bytes)

/-- What a program gets. -/
structure Call where
  /-- The name it is called by. -/
  name : Bytes
  args : List Bytes
  stdin : Bytes
  /-- Why nothing can be read of the input, if that is so. -/
  inputFault : Option IoError
  /-- When the input ends, in nanoseconds after the start. -/
  inputEnd : Nat
  /-- When it is stopped, in nanoseconds after its start; none if never. -/
  limit : Option Nat
  environment : Environment
  /-- The signals that do nothing to it. -/
  ignored : List Nat
  files : FileSystem

/-- What there is after a program. -/
structure Aftermath where
  finished : Finished
  files : FileSystem
  /-- What it did not read of its input. -/
  unread : Bytes

/-- What a program makes of a call. -/
abbrev Behaviour := Call → Aftermath

end HashReplay.Programs
