import HashReplay.Programs.Shell.Builtin.Parameters

/-!
# Aliases, permissions and limits

The commands of the shell about what lies around commands: texts that names stand for, the permissions
of new files, and limits.

## Main definitions

* `setAliases`, `dropAliases` — set and drop texts that names stand for.
* `umask` — sets the permissions that new files do not have.
* `ulimit` — tells a limit.
-/

namespace HashReplay.Programs.Shell

/-! ### Aliases -/

/-- A line that would set a text that a name stands for. -/
def aliasLine (name text : Bytes) : Bytes := name ++ ['='] ++ singleQuoted text ++ ['\n']

/-- Set or show texts that names stand for. -/
def setAllAliases (status : Nat) : List Bytes → Act Flow
  | [] => leaveStatus status
  | arg :: args => do
    let name := arg.take 1 ++ (arg.drop 1).takeWhile (· != '=')
    if name.length < arg.length then
      let text := arg.drop (name.length + 1)
      modify fun s => { s with aliases := s.aliases.filter (fun a => a.1 ≠ name) ++ [(name, text)] }
      setAllAliases status args
    else
      match (← get).aliases.lookup arg with
      | some text =>
        let _ ← write 1 (aliasLine arg text)
        setAllAliases status args
      | none =>
        let _ ← write 2 ("alias: ".toList ++ arg ++ " not found\n".toList)
        setAllAliases 1 args

/-- Set or show texts that names stand for; without arguments, show all. -/
def setAliases : Utility := fun args => do
  if args.isEmpty then output ((← get).aliases.flatMap fun (name, text) => aliasLine name text) 0
  else setAllAliases 0 args

/-- Drop texts that names stand for. -/
def dropAllAliases (status : Nat) : List Bytes → Act Flow
  | [] => leaveStatus status
  | name :: names => do
    if ((← get).aliases.lookup name).isSome then
      modify fun s => { s with aliases := s.aliases.filter fun a => a.1 ≠ name }
      dropAllAliases status names
    else
      let _ ← write 2 ("unalias: ".toList ++ name ++ " not found\n".toList)
      dropAllAliases 1 names

/-- Drop texts that names stand for, or all of them. -/
def dropAliases : Utility := fun args => do
  let (letters, names) ← splitOptions ['a'] args
  if letters.isEmpty then dropAllAliases 0 names
  else
    modify fun s => { s with aliases := [] }
    leaveStatus 0

/-! ### Permissions -/

/-- The groups of permissions, with the place of their bits. -/
def permissionGroups : List (Char × Nat) := [('u', 64), ('g', 8), ('o', 1)]

/-- The kinds of permissions, with their bits. -/
def permissionKinds : List (Char × Nat) := [('r', 4), ('w', 2), ('x', 1)]

/-- The permissions that a mask leaves, in letters. -/
def permissionText (mask : Nat) : Bytes :=
  [','].intercalate (permissionGroups.map fun (group, place) =>
    let taken := mask / place % 8
    group :: '=' :: permissionKinds.filterMap fun (kind, bit) =>
      if taken / bit % 2 = 0 then some kind else none)

/-- A mask in octal, with four digits. -/
def maskText (mask : Nat) : Bytes :=
  let ds := Nat.toDigits 8 mask
  List.replicate (4 - ds.length) '0' ++ ds

/-- A mask after a change of one permission: whether new files shall have it. -/
def changePermission (mask : Nat) (bit : Nat) (isGiven : Bool) : Nat :=
  let isTaken := mask / bit % 2 = 1
  if isGiven && isTaken then mask - bit else if !isGiven && !isTaken then mask + bit else mask

/-- A mask after a change in letters: for whom, how, and which permissions. -/
def changeMask? (mask : Nat) (clause : Bytes) : Option Nat :=
  let isGroup (c : Char) : Bool := ['u', 'g', 'o', 'a'].contains c
  let named := clause.takeWhile isGroup
  let isMeant (g : Char) : Bool := named.isEmpty || named.contains 'a' || named.contains g
  match clause.dropWhile isGroup with
  | [] => none
  | how :: kinds =>
    let isChange := how = '+' || how = '-' || how = '='
    if !(isChange && kinds.all fun c => c = 'r' || c = 'w' || c = 'x') then none
    else
      let bits := permissionGroups.flatMap fun (g, place) =>
        if isMeant g then permissionKinds.map fun (k, bit) => (k, bit * place) else []
      some <| bits.foldl
        (fun m (k, bit) =>
          if kinds.contains k then changePermission m bit (how != '-')
          else if how = '=' then changePermission m bit false
          else m)
        mask

/-- A mask after changes in letters. -/
def changeMaskAll? (mask : Nat) : List Bytes → Option Nat
  | [] => some mask
  | clause :: clauses => (changeMask? mask clause).bind fun m => changeMaskAll? m clauses

/-- Set or show the permissions that new files do not have. -/
def umask : Utility := fun args => do
  let (letters, operands) ← splitOptions ['S'] args
  let mask := (← get).mask
  match operands with
  | [] => output ((if letters.isEmpty then maskText mask else permissionText mask) ++ ['\n']) 0
  | arg :: _ =>
    let mask ←
      if (arg.head?.map Char.isDigit).getD false then
        if arg.all Format.isOctal then pure (Format.octalValue arg % 512)
        else giveUp ("Illegal number: ".toList ++ arg)
      else
        match changeMaskAll? mask (arg.splitOn ',') with
        | some m => pure m
        | none => giveUp ("Illegal mode: ".toList ++ arg)
    modify fun s => { s with mask }
    leaveStatus 0

/-! ### Limits -/

/-- Tell the limit of the size of files, which is none; others cannot be set. -/
def ulimit : Utility := fun args => do
  let (_, operands) ← splitOptions "HSatfdscmlpnvwr".toList args
  match operands with
  | [] => output "unlimited\n".toList 0
  | [arg] =>
    if arg.all Char.isDigit || arg = "unlimited".toList then leaveStatus 0
    else giveUp "bad number".toList
  | _ => giveUp "too many arguments".toList

end HashReplay.Programs.Shell
