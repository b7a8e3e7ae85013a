import HashReplay.Programs.Format
import HashReplay.Programs.Shell.Arithmetic
import HashReplay.Programs.Shell.Pattern
import HashReplay.Programs.Shell.Variable

/-!
# Expansion

What the words of a command stand for.  A word is first expanded to pieces: characters that know where
they came from, and boundaries between fields.  Characters that came from an expansion without quotes
are then looked at for separators, and what is left between these are fields; a field with an unquoted
pattern stands for the paths that it matches.

How a command inside a word is run is a parameter of all this.

## Main definitions

* `Piece` — what words are expanded to.
* `Expander.parts` — the pieces of a word.
* `Expander.fields`, `Expander.textOf`, `Expander.pattern` — a word as fields, as one text, and as a
  pattern.
-/

namespace HashReplay.Programs.Shell

open Pattern (Glyph)

/-- Where a character of a word came from. -/
inductive Origin where
  | script
  | quotes
  | expansion
  deriving DecidableEq, Repr

/-- A piece of an expanded word. -/
inductive Piece where
  | char (c : Char) (origin : Origin)
  /-- Nothing, but quoted, so that there is a field. -/
  | mark
  /-- The boundary between two fields. -/
  | boundary
  deriving DecidableEq, Repr

/-! ### Parameters -/

/-- The separators of fields. -/
def State.separators (s : State) : Bytes := (s.value? "IFS".toList).getD [' ', '\t', '\n']

/-- The parameters as one text. -/
def State.joinedParams (s : State) : Bytes :=
  (s.separators.take 1).intercalate s.params

/-- The value of a parameter by its name. -/
def State.parameter? (s : State) (name : Bytes) : Option Bytes :=
  match name with
  | ['?'] => some (number s.status)
  | ['$'] => some (number processNumber)
  | ['#'] => some (number s.params.length)
  | ['@'] => some s.joinedParams
  | ['*'] => some s.joinedParams
  | ['!'] => s.lastStarted.map number
  | ['-'] => some (Switch.letters s.switches)
  | c :: _ =>
    if c.isDigit then
      match Format.decimalValue name with
      | 0 => some s.setting.name
      | n => s.params[n - 1]?
    else s.value? name
  | [] => none

/-- A blank in front of a number or after it. -/
def isNumberBlank (c : Char) : Bool := c == ' ' || (0x09 ≤ c.toNat && c.toNat ≤ 0x0D)

/-- The number that a text says: a numeral, perhaps with a sign and blanks around it.  Where the base may
be any, blanks alone say zero. -/
def numeral? (anyBase : Bool) (text : Bytes) : Option Int :=
  let s := text.dropWhile isNumberBlank
  let (negative, s) := match s with
    | '-' :: t => (true, t)
    | '+' :: t => (false, t)
    | t => (false, t)
  let (n, rest) :=
    if anyBase then Arithmetic.readNumber s
    else (Int.ofNat (Format.decimalValue (s.takeWhile Char.isDigit)), s.dropWhile Char.isDigit)
  if anyBase && text.all isNumberBlank then some 0
  else if rest.length = s.length ∨ !rest.all isNumberBlank ∨ Arithmetic.greatest < n then none
  else some (if negative then -n else n)

/-- The value of a variable in an arithmetic expression. -/
def arithmeticValue (name : Bytes) : Act Int := do
  let s ← get
  match s.parameter? name with
  | none => return 0
  | some text =>
    match numeral? true text with
    | some n => return n
    | none => giveUp ("Illegal number: ".toList ++ text)

/-- A number with its sign. -/
def signedNumber (n : Int) : Bytes := if n < 0 then '-' :: number n.natAbs else number n.natAbs

/-- The value of an arithmetic expression, given its text. -/
def arithmetic (text : Bytes) : Act Int :=
  let refuse (f : Arithmetic.Fault) : Act Int := giveUp (f.message text)
  match Arithmetic.parse text with
  | .error f => refuse f
  | .ok e =>
    e.evaluate
      ⟨arithmeticValue, fun name n => assign name (signedNumber n), refuse .divisionByZero⟩

/-! ### Pieces -/

/-- The characters of pieces. -/
def charsOf (ps : List Piece) : Bytes :=
  ps.filterMap fun p =>
    match p with
    | .char c _ => some c
    | .mark => none
    | .boundary => some ' '

/-- The characters of pieces as a pattern. -/
def glyphsOf (ps : List Piece) : List Glyph :=
  ps.filterMap fun p =>
    match p with
    | .char c origin => some ⟨c, origin = .quotes⟩
    | .mark => none
    | .boundary => some ⟨' ', false⟩

/-- A text as pieces. -/
def piecesOf (origin : Origin) (s : Bytes) : List Piece := s.map fun c => .char c origin

/-- A value as pieces. -/
def valuePieces (quoted : Bool) (s : Bytes) : List Piece :=
  piecesOf (if quoted then .quotes else .expansion) s

/-- Texts that are fields of their own, as pieces. -/
def listPieces (quoted : Bool) : List Bytes → List Piece
  | [] => []
  | [t] => (if quoted then [.mark] else []) ++ valuePieces quoted t
  | t :: ts =>
    (if quoted then [.mark] else []) ++ valuePieces quoted t ++ .boundary :: listPieces quoted ts

/-- A word in braces is looked at for separators like a value, unless it is quoted. -/
def asValue (ps : List Piece) : List Piece :=
  ps.map fun p =>
    match p with
    | .char c .script => .char c .expansion
    | p => p

/-- The value of a parameter as pieces. -/
def parameterPieces (name : Bytes) (quoted : Bool) : Act (List Piece) := do
  let s ← get
  if name = ['@'] ∨ (name = ['*'] ∧ !quoted) then return listPieces quoted s.params
  else
    match s.parameter? name with
    | some v => return valuePieces quoted v
    | none =>
      if s.isOn .mustBeSet then giveUp (name ++ ": parameter not set".toList)
      else return []

/-- The complaint about a parameter that must be set. -/
def unsetComplaint (name : Bytes) (orEmpty : Bool) (text : Bytes) : Bytes :=
  let message :=
    if !text.isEmpty then text
    else if orEmpty then "parameter not set or null".toList
    else "parameter not set".toList
  name ++ ": ".toList ++ message

/-- A text without the line feeds at its end and without null characters. -/
def trimOutput (b : Bytes) : Bytes :=
  ((b.filter (· != '\x00')).reverse.dropWhile (· == '\n')).reverse

/-- The directory that a user's name after a tilde stands for. -/
def State.home? (s : State) (user : Bytes) : Option Bytes :=
  match user with
  | [] => s.value? "HOME".toList
  | ['r', 'o', 'o', 't'] => some "/root".toList
  | _ => none

/-- A text with a tilde at its start as parts, the directory in place of the tilde and the name. -/
def State.tildeParts (s : State) (text : Bytes) : List Part :=
  match text with
  | '~' :: rest =>
    match s.home? (rest.takeWhile (· != '/')) with
    | some d => [.text d true, .text (rest.dropWhile (· != '/')) false]
    | none => [.text text false]
  | _ => [.text text false]

/-- A word with what the tilde at its start stands for. -/
def expandTilde : Word → Act Word
  | .text t false :: w => do return (← get).tildeParts t ++ w
  | w => return w

/-- Pieces with what the tilde at their start stands for: only if it and the name after it are written as
they are. -/
def State.tildePieces (s : State) (ps : List Piece) : List Piece :=
  let isName (p : Piece) : Bool :=
    match p with
    | .char c .script => c != '/'
    | _ => false
  match ps with
  | .char '~' .script :: rest =>
    let after := rest.dropWhile isName
    if after.isEmpty || after.head? = some (.char '/' .script) then
      match s.home? (charsOf (rest.takeWhile isName)) with
      | some d => piecesOf .quotes d ++ after
      | none => ps
    else ps
  | _ => ps

/-- A value with what the tildes at its start and after colons stand for. -/
def expandTildes (w : Word) : Act Word := do
  let s ← get
  let pieces (t : Bytes) : List Part :=
    [Part.text [':'] false].intercalate ((Text.pieces (· == ':') t).map s.tildeParts)
  return w.flatMap fun p =>
    match p with
    | .text t false => pieces t
    | p => [p]

/-- How the commands inside words are run: the answer is what they print. -/
structure Expander where
  run : Option Command → Act Bytes

namespace Expander

mutual

/-- The pieces of a part. -/
def part (x : Expander) : Part → Act (List Piece)
  | .text s quoted =>
    return if quoted then .mark :: piecesOf .quotes s else piecesOf .script s
  | .parameter name use quoted => x.used name quoted use
  | .substitution c quoted => do return valuePieces quoted (trimOutput (← x.run c))
  | .arithmetic expression quoted => do
    let ps ← x.parts expression
    return valuePieces quoted (signedNumber (← arithmetic (charsOf ps)))

/-- The pieces of a parameter, after what is made of it. -/
def used (x : Expander) (name : Bytes) (quoted : Bool) : Use → Act (List Piece)
  | .value => parameterPieces name quoted
  | .length => do
    let s ← get
    match s.parameter? name with
    | some v => return valuePieces quoted (number v.length)
    | none =>
      if s.isOn .mustBeSet then giveUp (name ++ ": parameter not set".toList)
      else return valuePieces quoted ['0']
  | .senseless => giveUp "Bad substitution".toList
  | .unlessSet substitute orEmpty word => do
    let value? := (← get).parameter? name
    let isSet := value?.isSome && !(orEmpty && value? == some [])
    let instead : Act (List Piece) := do
      let ps ← x.parts word
      let s ← get
      return asValue (if quoted then ps else s.tildePieces ps)
    match substitute with
    | .word => if isSet then parameterPieces name quoted else instead
    | .alternative => if isSet then instead else return []
    | .assigned =>
      if isSet then parameterPieces name quoted
      else
        let v := charsOf (← instead)
        checkName name
        assign name v
        return valuePieces quoted v
    | .complaint =>
      if isSet then parameterPieces name quoted
      else giveUp (unsetComplaint name orEmpty (charsOf (← x.parts word)))
  | .trimmed atEnd longest pattern => do
    let s ← get
    let es := Pattern.elements (glyphsOf (← x.parts pattern))
    let trim (v : Bytes) : Bytes :=
      if atEnd then Pattern.trimEnd longest es v else Pattern.trimStart longest es v
    match s.parameter? name with
    | some v =>
      if name = ['@'] ∨ (name = ['*'] ∧ !quoted) then return listPieces quoted (s.params.map trim)
      else return valuePieces quoted (trim v)
    | none =>
      if s.isOn .mustBeSet then giveUp (name ++ ": parameter not set".toList) else return []

/-- The pieces of parts. -/
def parts (x : Expander) : List Part → Act (List Piece)
  | [] => return []
  | p :: ps => do
    let first ← x.part p
    return first ++ (← x.parts ps)

end

end Expander

/-! ### Fields -/

/-- Where the cutting of pieces into fields stands. -/
structure Cutting where
  done : List (List Glyph)
  current : Option (List Glyph)
  /-- Whether blanks have just ended a field, so that one more separator belongs to them. -/
  afterBlank : Bool

namespace Cutting

/-- End the field at hand, if there is one. -/
def finish (k : Cutting) : Cutting := ⟨k.done ++ k.current.toList, none, k.afterBlank⟩

/-- Add a glyph to the field at hand. -/
def add (g : Glyph) (k : Cutting) : Cutting := ⟨k.done, some (k.current.getD [] ++ [g]), false⟩

/-- Take a piece. -/
def take (separators : Bytes) (k : Cutting) : Piece → Cutting
  | .mark => ⟨k.done, some (k.current.getD []), false⟩
  | .boundary => { k.finish with afterBlank := false }
  | .char c origin =>
    if origin = .expansion ∧ c ∈ separators then
      if c = ' ' ∨ c = '\t' ∨ c = '\n' then
        { k.finish with afterBlank := k.afterBlank || k.current.isSome }
      else if k.afterBlank && k.current.isNone then { k with afterBlank := false }
      else ⟨k.done ++ [k.current.getD []], none, false⟩
    else k.add ⟨c, origin = .quotes⟩

end Cutting

/-- The fields of pieces. -/
def cut (separators : Bytes) (ps : List Piece) : List (List Glyph) :=
  (ps.foldl (Cutting.take separators) ⟨[], none, false⟩).finish.done

/-- The paths that a field stands for, or the field itself if there are none. -/
def pathsOf (s : State) (field : List Glyph) : List Bytes :=
  if s.isOn .noPaths || !Pattern.isMagic field then [Pattern.plain field]
  else
    match Pattern.paths s.world.files field with
    | [] => [Pattern.plain field]
    | found => found

/-- Whether a word is only the quoted list of parameters. -/
def isQuotedList : Word → Bool
  | [.text [] true, .parameter ['@'] .value true] => true
  | _ => false

namespace Expander

/-- A word as fields. -/
def fields (x : Expander) (w : Word) : Act (List Bytes) := do
  if isQuotedList w && (← get).params.isEmpty then return []
  else
    let ps ← x.parts (← expandTilde w)
    let s ← get
    return (cut s.separators ps).flatMap (pathsOf s)

/-- A word as one text. -/
def textOf (x : Expander) (w : Word) : Act Bytes := do
  return charsOf (← x.parts (← expandTilde w))

/-- The value that a word gives a variable. -/
def valueOf (x : Expander) (w : Word) : Act Bytes := do
  return charsOf (← x.parts (← expandTildes w))

/-- A word as a pattern. -/
def pattern (x : Expander) (w : Word) : Act (List Pattern.Element) := do
  return Pattern.elements (glyphsOf (← x.parts (← expandTilde w)))

/-- The fields of words. -/
def allFields (x : Expander) : List Word → Act (List Bytes)
  | [] => return []
  | w :: ws => do
    let first ← x.fields w
    return first ++ (← x.allFields ws)

end Expander

end HashReplay.Programs.Shell
