import HashReplay.IoError
import HashReplay.Text.Blank
import HashReplay.Text.Utf8

/-!
# File systems

A tree of directories, files, two devices and a few programs, as far as reading a text file, creating
a file, writing to it and finding a program go.  A path is a list of names from the root; a path as
written may also be relative to the working directory and hold the names `.` and `..`.

## Main definitions

* `FileSystem` — the entries and the working directory.
* `FileSystem.locate` — where a written path leads.
* `FileSystem.plant` — an entry put where a written path says.
* `FileSystem.readText` — the text of a file.
* `FileSystem.create`, `FileSystem.extend` — a file for writing, empty or as it is.
* `FileSystem.writeAt` — bytes written at a place of a file.
* `FileSystem.findProgram` — the program that a name means.
-/

namespace HashReplay

/-- The programs that can be launched. -/
inductive Program where
  /-- The stand-in for the tool under test. -/
  | standIn
  | shell
  | echo
  | printf
  | cat
  | sleep
  | true
  | false
  deriving DecidableEq, Repr

/-- What a path can lead to. -/
inductive Node where
  | file (bytes : List UInt8)
  | directory
  /-- The device that takes every byte and keeps none. -/
  | nullDevice
  /-- The device that is always full. -/
  | fullDevice
  /-- A file that may be executed. -/
  | program (p : Program)
  deriving DecidableEq, Repr

/-- The names that lead from the root to an entry. -/
abbrev Path := List String

/-- A tree of entries.  The root is a directory and has no entry of its own. -/
structure FileSystem where
  entries : List (Path × Node)
  workingDirectory : Path
  deriving Repr

/-- Where a written path leads. -/
inductive Place where
  /-- To an entry. -/
  | found (path : Path) (node : Node)
  /-- To a free name in a directory. -/
  | free (path : Path)
  deriving DecidableEq, Repr

namespace FileSystem

/-- The entry with a path. -/
def lookup (fs : FileSystem) (p : Path) : Option Node :=
  if p = [] then some .directory else (fs.entries.find? fun e => e.1 == p).map (·.2)

/-- Put an entry in place of the one with its path, if there is one, and after all others otherwise. -/
def putEntry (p : Path) (n : Node) : List (Path × Node) → List (Path × Node)
  | [] => [(p, n)]
  | e :: es => if e.1 == p then (p, n) :: es else e :: putEntry p n es

/-- The file system with an entry put in. -/
def put (fs : FileSystem) (p : Path) (n : Node) : FileSystem :=
  { fs with entries := putEntry p n fs.entries }

/-! ### Paths as written -/

/-- The greatest length of a name, in bytes. -/
def maxName : Nat := 255

/-- The greatest length of a path as written, in bytes. -/
def maxPath : Nat := 4095

/-- The names of a path as written. -/
def names (path : String) : List String :=
  ((Text.pieces (· == '/') path.toList).filter fun p => !p.isEmpty).map String.ofList

/-- Whether a path as written ends in a slash, so that only a directory can be meant. -/
def endsInSlash (path : String) : Bool := path.toList.getLast? == some '/'

/-- Follow names from the directory `here`. -/
def follow (fs : FileSystem) (here : Path) : List String → Except IoError Place
  | [] => .ok (.found here .directory)
  | n :: rest =>
    if n = "." then follow fs here rest
    else if n = ".." then follow fs here.dropLast rest
    else if maxName < n.utf8ByteSize then .error .nameTooLong
    else
      match fs.lookup (here ++ [n]), rest with
      | none, [] => .ok (.free (here ++ [n]))
      | none, _ :: _ => .error .notFound
      | some .directory, _ => follow fs (here ++ [n]) rest
      | some node, [] => .ok (.found (here ++ [n]) node)
      | some _, _ :: _ => .error .notADirectory

/-- Where a path as written leads. -/
def locate (fs : FileSystem) (path : String) : Except IoError Place :=
  if path.toList.contains '\x00' then .error .nulInPath
  else if path = "" then .error .notFound
  else if maxPath < path.utf8ByteSize then .error .nameTooLong
  else
    follow fs (if path.toList.head? = some '/' then [] else fs.workingDirectory) (names path)

/-- The names from the root that a path as written stands for. -/
def absolute (fs : FileSystem) (path : String) : Path :=
  (names path).foldl (fun p n => if n = "." then p else if n = ".." then p.dropLast else p ++ [n])
    (if path.toList.head? = some '/' then [] else fs.workingDirectory)

/-- Put an entry at a path as written, together with the directories on the way that are not there. -/
def plant (fs : FileSystem) (path : String) (n : Node) : FileSystem :=
  let p := fs.absolute path
  let withDirectory (fs : FileSystem) (size : Nat) : FileSystem :=
    if (fs.lookup (p.take size)).isNone then fs.put (p.take size) .directory else fs
  if p = [] then fs else ((List.range p.length).foldl withDirectory fs).put p n

/-! ### Reading and writing -/

/-- The bytes that reading an entry gives.  The code of a program is not kept: whoever reads it finds
that it is no text. -/
def contents : Node → Except IoError (List UInt8)
  | .file bytes => .ok bytes
  | .directory => .error .isADirectory
  | .nullDevice => .ok []
  | .fullDevice => .ok []
  | .program _ => .error .invalidUtf8

/-- The bytes of a file. -/
def readBytes (fs : FileSystem) (path : String) : Except IoError (List UInt8) :=
  match fs.locate path with
  | .error e => .error e
  | .ok (.free _) => .error .notFound
  | .ok (.found _ node) =>
    if node ≠ .directory ∧ endsInSlash path then .error .notADirectory else contents node

/-- The text of a file. -/
def readText (fs : FileSystem) (path : String) : Except IoError String :=
  match fs.readBytes path with
  | .error e => .error e
  | .ok bytes =>
    match Text.Utf8.decode? bytes with
    | none => .error .invalidUtf8
    | some s => .ok (String.ofList s)

/-- Open a file for writing: it is created, or emptied if it is there.  The answer is the path under
which to write. -/
def create (fs : FileSystem) (path : String) : Except IoError (Path × FileSystem) :=
  match fs.locate path with
  | .error e => .error e
  | .ok (.free p) => if endsInSlash path then .error .isADirectory else .ok (p, fs.put p (.file []))
  | .ok (.found p node) =>
    if endsInSlash path then .error .isADirectory
    else
      match node with
      | .directory => .error .isADirectory
      | .file _ => .ok (p, fs.put p (.file []))
      | .nullDevice => .ok (p, fs)
      | .fullDevice => .ok (p, fs)
      | .program _ => .error .permissionDenied

/-- Open a file for writing at its end; it is created if it is not there. -/
def extend (fs : FileSystem) (path : String) : Except IoError (Path × FileSystem) :=
  match fs.locate path with
  | .ok (.found p (.file _)) => if endsInSlash path then .error .isADirectory else .ok (p, fs)
  | _ => fs.create path

/-- Bytes with others written over them from `offset` on; a gap before that is filled with zeros. -/
def overlay (bytes : List UInt8) (offset : Nat) (new : List UInt8) : List UInt8 :=
  bytes.take offset ++ List.replicate (offset - bytes.length) 0 ++ new ++
    bytes.drop (offset + new.length)

/-- Write bytes into an entry that was opened for writing, from `offset` on. -/
def writeAt (fs : FileSystem) (p : Path) (offset : Nat) (new : List UInt8) :
    Except IoError FileSystem :=
  match fs.lookup p with
  | some (.file bytes) => .ok (fs.put p (.file (overlay bytes offset new)))
  | some .nullDevice => .ok fs
  | some .fullDevice => .error .noSpace
  | some .directory => .error .isADirectory
  | some (.program _) => .error .permissionDenied
  | none => .error .notFound

/-- The names in a directory, in the order of their characters. -/
def namesIn (fs : FileSystem) (directory : Path) : List String :=
  let inside := fs.entries.filterMap fun e => if e.1.dropLast = directory then e.1.getLast? else none
  inside.mergeSort fun a b => a ≤ b

/-- The entry that a path as written leads to, if there is one. -/
def entryAt? (fs : FileSystem) (path : String) : Option Node :=
  match fs.locate path with
  | .ok (.found _ node) => if node ≠ .directory ∧ endsInSlash path then none else some node
  | _ => none

/-! ### Programs -/

/-- The program at a path as written. -/
def programAt (fs : FileSystem) (path : String) : Except IoError Program :=
  match fs.locate path with
  | .error e => .error e
  | .ok (.free _) => .error .notFound
  | .ok (.found _ .directory) => .error .permissionDenied
  | .ok (.found _ node) =>
    if endsInSlash path then .error .notADirectory
    else
      match node with
      | .program p => .ok p
      | _ => .error .permissionDenied

/-- The directory of the stand-in. -/
def standInDirectory : Path := ["opt", "stand-in"]

/-- The directories in which programs are looked for. -/
def searchPath : List String := ["/" ++ "/".intercalate standInDirectory, "/usr/bin", "/bin"]

/-- The program with a name, looked for in directories one after another.  If there is none, `refused`
tells whether something with that name was no program. -/
def searchProgram (fs : FileSystem) (name : String) (refused : Bool) :
    List String → Except IoError Program
  | [] => .error (if refused then .permissionDenied else .notFound)
  | d :: ds =>
    match fs.programAt (d ++ "/" ++ name) with
    | .ok p => .ok p
    | .error .permissionDenied => searchProgram fs name true ds
    | .error .notFound => searchProgram fs name refused ds
    | .error .notADirectory => searchProgram fs name refused ds
    | .error e => .error e

/-- The program that a name means: a name with a slash is a path, and any other one is looked for in
directories. -/
def findProgramIn (fs : FileSystem) (directories : List String) (name : String) :
    Except IoError Program :=
  if name = "" then .error .notFound
  else if name.toList.contains '/' then fs.programAt name
  else if maxName < name.utf8ByteSize then .error .nameTooLong
  else searchProgram fs name false directories

/-- The program that a name means, if it is looked for where programs usually are. -/
def findProgram (fs : FileSystem) (name : String) : Except IoError Program :=
  fs.findProgramIn searchPath name

end FileSystem

end HashReplay
