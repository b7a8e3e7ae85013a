import HashReplay.Programs.Shell.Builtin.Basic

/-!
# Printing and reading lines

The commands of the shell that print their arguments, and the one that reads a line of the input into
variables.

## Main definitions

* `echo`, `printf` — print arguments.
* `readFields` — reads a line.
-/

namespace HashReplay.Programs.Shell

/-! ### Printing -/

/-- Print the arguments on a line, or without its end after the option that says so. -/
def echo : Utility
  | ['-', 'n'] :: args => output (Format.echo (some false) false args) 0
  | args => output (Format.echo (some false) true args) 0

/-- What is said about an argument that should have been a number. -/
def numberComplaint (arg : Bytes) (f : Format.ArgumentFault) : Bytes :=
  let text :=
    match f with
    | .noNumber => "expected numeric value"
    | .notAllNumber => "not completely converted"
    | .outOfRange => "Numerical result out of range"
  arg ++ ": ".toList ++ text.toList

/-- Write several complaints. -/
def complainAll : List Bytes → Act Unit
  | [] => return ()
  | text :: texts => do
    complain text
    complainAll texts

/-- Print arguments by a format. -/
def printf : Utility := fun args => do
  let (_, args) ← splitOptions [] args
  match args with
  | [] => giveUp "usage: printf format [arg ...]".toList
  | format :: rest =>
    let p := Format.printf false format rest
    complainAll (p.faulty.map fun (arg, f) => numberComplaint arg f)
    match p.unknown with
    | some text =>
      complain <|
        if p.unfinished then "missing format character".toList
        else '%' :: text ++ ": invalid directive".toList
      let _ ← write 1 p.out
      setStatus 2
      throw .failed
    | none => output p.out (if p.faulty.isEmpty then 0 else 1)

/-! ### Reading a line -/

/-- The characters of a line, the number of bytes up to its end, and whether it has an end.  Unless `raw`
is set, a character after a backslash stands for itself, and so does not separate fields, and a line
feed after one is dropped. -/
def lineOf (raw : Bool) : Bytes → List Pattern.Glyph × Nat × Bool
  | [] => ([], 0, false)
  | c :: s =>
    if c = '\n' then ([], 1, true)
    else if c = '\\' && !raw then
      match s with
      | [] => ([], 1, false)
      | d :: s =>
        let (line, n, ended) := lineOf raw s
        (if d = '\n' then line else ⟨d, true⟩ :: line, n + 2, ended)
    else
      let (line, n, ended) := lineOf raw s
      (if c = '\x00' then line else ⟨c, false⟩ :: line, n + 1, ended)

/-- Whether a character separates fields. -/
def separates (separators : Bytes) (g : Pattern.Glyph) : Bool := !g.quoted && separators.contains g.char

/-- Whether a character separates fields and is blank. -/
def separatesBlank (separators : Bytes) (g : Pattern.Glyph) : Bool :=
  separates separators g && (g.char == ' ' || g.char == '\t' || g.char == '\n')

/-- A text without the blanks in front, at most one other separator, and the blanks after that. -/
def afterSeparator (separators : Bytes) (s : List Pattern.Glyph) : List Pattern.Glyph :=
  let rest := s.dropWhile (separatesBlank separators)
  match rest with
  | g :: more =>
    if separates separators g then more.dropWhile (separatesBlank separators) else rest
  | [] => []

/-- The fields for so many names.  The last one gets all that is left. -/
def fieldsFor (separators : Bytes) : Nat → List Pattern.Glyph → List Bytes
  | 0, _ => []
  | n + 1, s =>
    let s := s.dropWhile (separatesBlank separators)
    let field := s.takeWhile fun g => !separates separators g
    let rest := afterSeparator separators (s.drop field.length)
    if n = 0 && !rest.isEmpty then
      [Pattern.plain (s.reverse.dropWhile (separatesBlank separators)).reverse]
    else Pattern.plain field :: fieldsFor separators n rest

/-- Give values to names. -/
def assignAll : List (Bytes × Bytes) → Act Unit
  | [] => return ()
  | (name, value) :: rest => do
    checkName name
    assign name value
    assignAll rest

/-- Whether backslashes are left alone, and the names, after the options. -/
def readOptions : List Bytes → Act (Bool × List Bytes)
  | [] => return (false, [])
  | arg :: args => do
    match arg with
    | ['-', '-'] => return (false, args)
    | ['-', 'p'] =>
      match args with
      | [] => giveUp "No arg for -p option".toList
      | _ :: rest => readOptions rest
    | '-' :: c :: letters =>
      match (c :: letters).find? (· != 'r') with
      | some 'p' =>
        let raw := c = 'r'
        let (more, names) ← readOptions args
        return (raw || more, names)
      | some d => refuseOption d
      | none => do
        let (_, names) ← readOptions args
        return (true, names)
    | _ => return (false, arg :: args)

/-- Read a line of the input into variables. -/
def readFields : Utility := fun args => do
  let (raw, names) ← readOptions args
  if names.isEmpty then giveUp "arg count".toList
  let input := (← channel? 0).getD .out
  let (chunks, closedAt) ← remaining input
  let (line, n, ended) := lineOf raw (chunks.flatMap (·.2))
  waitUntil (if ended then arrival n chunks else closedAt)
  consume input n
  let s ← get
  assignAll (names.zip (fieldsFor s.separators names.length line))
  leaveStatus (if ended then 0 else 1)

end HashReplay.Programs.Shell
