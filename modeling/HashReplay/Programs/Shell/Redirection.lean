import HashReplay.Programs.Shell.Expansion

/-!
# Redirections

A redirection lets a descriptor lead to a file, to what another descriptor leads to, or to a text.  The
descriptors are part of a shell, so what was redirected for one command is undone by putting the old ones
back.

## Main definitions

* `redirect`, `redirectAll` — redirections; the answer is what the shell has to complain about.
* `redirecting` — something that redirects descriptors only for itself.
-/

namespace HashReplay.Programs.Shell

/-- Why a file could not be opened. -/
def openFault (missing : String) : IoError → Bytes
  | .notFound => missing.toList
  | .notADirectory => missing.toList
  | e => e.reason.toList

/-- Open a file for reading as it is: its path. -/
def openExisting (fs : FileSystem) (name : String) : Except IoError (Path × FileSystem) :=
  match fs.locate name with
  | .error e => .error e
  | .ok (.free _) => .error .notFound
  | .ok (.found p node) =>
    if node ≠ .directory ∧ FileSystem.endsInSlash name then .error .notADirectory else .ok (p, fs)

/-- Open a file in a mode. -/
def openIn (mode : OpenMode) (fs : FileSystem) (name : String) : Except IoError (Path × FileSystem) :=
  match mode with
  | .read => openExisting fs name
  | .write => fs.create name
  | .replace => fs.create name
  | .append => fs.extend name
  | .update => fs.extend name

/-- Whether an entry is a file, and not a directory or a device. -/
def isRegular : Option Node → Bool
  | some (.file _) => true
  | some (.program _) => true
  | _ => false

/-- Open a file by its name: the channel to it, or what the shell complains. -/
def openFile (mode : OpenMode) (name : Bytes) : Act (Except Bytes Channel) := do
  let s ← get
  let w := s.world
  let fault (e : IoError) : Bytes :=
    if mode = .read then
      "cannot open ".toList ++ name ++ ": ".toList ++ openFault "No such file" e
    else "cannot create ".toList ++ name ++ ": ".toList ++ openFault "Directory nonexistent" e
  if mode = .write && s.isOn .keepFiles && isRegular (w.files.entryAt? name.text) then
    return .error (fault (.other "File exists"))
  match openIn mode w.files name.text with
  | .ok (path, files) =>
    let mode := if mode = .replace then .write else mode
    if files.lookup path ≠ w.files.lookup path then
      let _ ← change w.clock (if mode = .write then .put path (.file []) else .provide path)
    modifyWorld fun w => { w with opened := w.opened ++ [⟨path, 0, mode⟩] }
    return .ok (.file w.opened.length)
  | .error e => return .error (fault e)

/-- Carry out a redirection; the answer is the complaint, if there is one. -/
def redirect (x : Expander) : Redirect → Act (Option Bytes)
  | .file descriptor mode w => do
    let name ← x.textOf w
    match ← openFile mode name with
    | .ok c =>
      setDescriptor descriptor (some c)
      return none
    | .error text => return some text
  | .duplicate descriptor w => do
    match ← x.textOf w with
    | ['-'] =>
      setDescriptor descriptor none
      return none
    | name =>
      if name.isEmpty || !name.all Char.isDigit then giveUp "Syntax error: Bad fd number".toList
      else
        match ← channel? (Format.decimalValue name) with
        | some c =>
          setDescriptor descriptor (some c)
          return none
        | none => return some (name ++ ": Bad file descriptor".toList)
  | .document descriptor w => do
    let text ← x.textOf w
    setDescriptor descriptor (some (← addBytes text))
    return none

/-- Carry out redirections one after another, up to the first that fails. -/
def redirectAll (x : Expander) : List Redirect → Act (Option Bytes)
  | [] => return none
  | r :: rs => do
    match ← redirect x r with
    | none => redirectAll x rs
    | complaint => return complaint

/-- The descriptor of a redirection. -/
def Redirect.descriptor : Redirect → Nat
  | .file d _ _ => d
  | .duplicate d _ => d
  | .document d _ => d

/-- Let descriptors lead where they led in a list. -/
def restoreDescriptors (before : List (Nat × Channel)) : List Nat → Act Unit
  | [] => return ()
  | d :: ds => do
    setDescriptor d (before.lookup d)
    restoreDescriptors before ds

/-- Run something that redirects descriptors, and let them lead where they led before. -/
def redirecting (rs : List Redirect) (act : Act α) : Act α := do
  let before := (← get).descriptors
  let undo := restoreDescriptors before (rs.map Redirect.descriptor)
  try
    let a ← act
    undo
    return a
  catch e =>
    undo
    throw e

end HashReplay.Programs.Shell
