import HashReplay.Programs.Shell.Script

/-!
# Reading shell scripts

A script is read one complete command at a time: what stands on a line, with as many further lines as
the command on it needs.  So an error on a later line is not seen before the earlier lines have been run.

Reading goes by descent: a list holds conditional lists, these hold pipelines, and these hold commands.
Which words are keywords depends on where they stand.  The body of a document begins on the line after
the one that asks for it; it is taken out of the text as soon as it is asked for.

## Main definitions

* `Fault` — what goes wrong in a script, and its wording.
* `Input` — where reading stands.
* `readCommand` — the next complete command of a text.
-/

namespace HashReplay.Programs.Shell

/-! ### Tokens and faults -/

/-- The operators of redirections. -/
inductive Arrow where
  | output
  /-- An output that replaces what is there in any case. -/
  | replacement
  | append
  | input
  | both
  | duplicateOutput
  | duplicateInput
  /-- A document follows; whether tabs in front of its lines are dropped. -/
  | document (dropTabs : Bool)
  deriving DecidableEq, Repr

/-- A token of a script. -/
inductive Token where
  | endOfText
  | newline
  | semicolon
  | background
  | andIf
  | orIf
  | pipe
  | leftParenthesis
  | rightParenthesis
  | endOfBranch
  | arrow (descriptor : Option Nat) (a : Arrow)
  | word (w : Word)

/-- The words that may be keywords. -/
def keywords : List String :=
  ["!", "case", "do", "done", "elif", "else", "esac", "fi", "for", "if", "in", "then", "until", "while",
    "\x7b", "\x7d"]

/-- The keyword that a token is. -/
def Token.keyword? : Token → Option String
  | .word w => (literal? w).bind fun s => keywords.find? fun k => k.toList == s
  | _ => none

/-- How a token is named in complaints. -/
def Token.wording (t : Token) : String :=
  match t with
  | .endOfText => "end of file"
  | .newline => "newline"
  | .semicolon => "\";\""
  | .background => "\"&\""
  | .andIf => "\"&&\""
  | .orIf => "\"||\""
  | .pipe => "\"|\""
  | .leftParenthesis => "\"(\""
  | .rightParenthesis => "\")\""
  | .endOfBranch => "\";;\""
  | .arrow .. => "redirection"
  | .word _ =>
    match t.keyword? with
    | some k => "\"" ++ k ++ "\""
    | none => "word"

/-- What goes wrong in a script. -/
inductive Fault where
  | unterminatedQuote
  | unterminatedBackquote
  | missingBrace
  | missingParentheses
  | badLoopVariable
  | badFunctionName
  /-- A token stands where it cannot; what could stand there may be known. -/
  | unexpected (token : String) (expected : Option String)
  deriving DecidableEq, Repr

/-- The wording of a fault. -/
def Fault.message (f : Fault) : String :=
  "Syntax error: " ++
    match f with
    | .unterminatedQuote => "Unterminated quoted string"
    | .unterminatedBackquote => "EOF in backquote substitution"
    | .missingBrace => "Missing '\x7d'"
    | .missingParentheses => "Missing '))'"
    | .badLoopVariable => "Bad for loop variable"
    | .badFunctionName => "Bad function name"
    | .unexpected token none => token ++ " unexpected"
    | .unexpected token (some expected) => token ++ " unexpected (expecting " ++ expected ++ ")"

/-- Where reading stands. -/
structure Input where
  rest : Bytes
  /-- The number of the line. -/
  line : Nat
  /-- How many lines were taken out after the end of this one. -/
  skipped : Nat
  /-- A token that was read and given back. -/
  pushed : Option Token

/-- What is read, or the number of a line and what is wrong there. -/
abbrev Read (α : Type) := StateT Input (Except (Nat × Fault)) α

namespace Read

/-- Stop with a fault. -/
def fail (f : Fault) : Read α := fun i => .error (i.line, f)

/-- Stop at a token that cannot stand here. -/
def refuse (t : Token) : Read α := fail (.unexpected t.wording none)

/-- Stop at a token in whose place something else should stand. -/
def refuseFor (expected : String) (t : Token) : Read α := fail (.unexpected t.wording (some expected))

/-- Stop at a token in whose place a keyword should stand. -/
def refuseForKeyword (keyword : String) (t : Token) : Read α :=
  refuseFor ("\"" ++ keyword ++ "\"") t

/-- Drop line feeds that follow a backslash. -/
def joinLines : Bytes → Nat → Bytes × Nat
  | '\\' :: '\n' :: s, n => joinLines s (n + 1)
  | s, n => (s, n)

/-- The next character, which stays; a line feed after a backslash is passed over. -/
def peek : Read (Option Char) := fun i =>
  let (rest, line) := joinLines i.rest i.line
  .ok (rest.head?, { i with rest, line })

/-- Move past a character. -/
def skip : Read Unit := fun i =>
  match i.rest with
  | [] => .ok ((), i)
  | '\n' :: rest => .ok ((), { i with rest, line := i.line + 1 + i.skipped, skipped := 0 })
  | _ :: rest => .ok ((), { i with rest })

/-- Move past a character, and do not count it as the end of a line. -/
def passOver : Read Unit := fun i => .ok ((), { i with rest := i.rest.drop 1 })

/-- Take the next character, whatever it is. -/
def takeRaw : Read (Option Char) := fun i =>
  (skip i).map fun (_, after) => (i.rest.head?, after)

/-- Take characters as long as they satisfy a test. -/
def takeWhile (p : Char → Bool) : Read Bytes := fun i =>
  .ok (i.rest.takeWhile p, { i with rest := i.rest.dropWhile p })

/-- Give a token back. -/
def giveBack (t : Token) : Read Unit := fun i => .ok ((), { i with pushed := some t })

/-- Read another text, of which nothing may be left that is not wanted. -/
def within (text : Bytes) (r : Read α) : Read α := fun i =>
  match r ⟨text, i.line, 0, none⟩ with
  | .error e => .error e
  | .ok (a, _) => .ok (a, i)

/-- Read the text of a document.  What is wrong in it is noticed after it, and quotes mean nothing
there. -/
def withinDocument (text : Bytes) (r : Read α) : Read α := fun i =>
  match within text r i with
  | .error (_, .unterminatedQuote) => .error (i.line + 1 + i.skipped, .missingBrace)
  | .error (_, f) => .error (i.line + 1 + i.skipped, f)
  | .ok a => .ok a

end Read

open Read

/-! ### Small readers -/

/-- A character that ends a word. -/
def endsWord (c : Char) : Bool :=
  c == ' ' || c == '\t' || c == '\n' || c == ';' || c == '&' || c == '|' || c == '<' || c == '>' ||
    c == '(' || c == ')'

/-- A backquote. -/
def backquote : Char := Char.ofNat 96

/-- A character that is a parameter by itself. -/
def isSpecial (c : Char) : Bool :=
  c.isDigit || c == '@' || c == '*' || c == '#' || c == '?' || c == '$' || c == '!' || c == '-'

/-- A character in front of the parts of a word. -/
def addChar (c : Char) (quoted : Bool) : Word → Word
  | .text s q :: w => if q == quoted then .text (c :: s) q :: w else .text [c] quoted :: .text s q :: w
  | w => .text [c] quoted :: w

/-- Read up to the closing single quote. -/
def readSingle : Read Bytes := do
  let i ← get
  let s := i.rest.takeWhile (· != '\'')
  set { i with rest := i.rest.drop (s.length + 1), line := i.line + s.count '\n' }
  if s.length = i.rest.length then fail .unterminatedQuote else return s

/-- Read up to the closing backquote; a backslash keeps its meaning only before the characters that
`escapes` tells. -/
def readBackquoted (escapes : Char → Bool) : Nat → Read Bytes
  | 0 => fail .unterminatedBackquote
  | fuel + 1 => do
    match ← takeRaw with
    | none => fail .unterminatedBackquote
    | some c =>
      if c = backquote then return []
      else if c = '\\' then
        match ← takeRaw with
        | none => fail .unterminatedBackquote
        | some d =>
          let rest ← readBackquoted escapes fuel
          return if d = '\n' then rest else if escapes d then d :: rest else '\\' :: d :: rest
      else return c :: (← readBackquoted escapes fuel)

/-- What is wrong where a brace is still open at the end: within double quotes, that those are open. -/
def openBrace (quoted : Bool) : Fault := if quoted then .unterminatedQuote else .missingBrace

/-- Read the name of a variable or the number of a parameter, which starts with the given character. -/
def readName (first : Char) : Read Bytes :=
  Read.takeWhile (if first.isDigit then Char.isDigit else isNameChar)

/-- Read the word that ends a document: its text, and whether any of it is quoted. -/
def readDelimiter : Nat → Read (Bytes × Bool)
  | 0 => return ([], false)
  | fuel + 1 => do
    match ← peek with
    | none => return ([], false)
    | some c =>
      if endsWord c then return ([], false)
      else
        skip
        if c = '\'' then
          let s ← readSingle
          let (rest, _) ← readDelimiter fuel
          return (s ++ rest, true)
        else if c = '"' then
          let s ← Read.takeWhile (· != '"')
          skip
          let (rest, _) ← readDelimiter fuel
          return (s ++ rest, true)
        else if c = '\\' then
          let d ← takeRaw
          let (rest, _) ← readDelimiter fuel
          return (d.toList ++ rest, true)
        else
          let (rest, quoted) ← readDelimiter fuel
          return (c :: rest, quoted)

/-- The lines of a document up to its delimiter, what follows, and how many lines that were. -/
def splitDocument (delimiter : Bytes) (dropTabs : Bool) : List Bytes → List Bytes × List Bytes × Nat
  | [] => ([], [], 0)
  | l :: ls =>
    let line := if dropTabs then l.dropWhile (· == '\t') else l
    if line = delimiter then ([], ls, 1)
    else
      let (body, rest, n) := splitDocument delimiter dropTabs ls
      (line :: body, rest, n + 1)

/-- Take the body of a document out of the lines after this one. -/
def takeDocument (delimiter : Bytes) (dropTabs : Bool) : Read Bytes := do
  let i ← get
  match i.rest.dropWhile (· != '\n') with
  | [] => return []
  | _ :: below =>
    let lines := below.splitOn '\n'
    let (body, rest, n) := splitDocument delimiter dropTabs lines
    set { i with
      rest := i.rest.takeWhile (· != '\n') ++ '\n' :: ['\n'].intercalate rest, skipped := i.skipped + n }
    return if body.length < n then body.flatMap (· ++ ['\n']) else ['\n'].intercalate body

/-! ### Tokens -/

/-- Read the rest of an arrow that starts with a greater-than sign. -/
def readOutputArrow : Read Arrow := do
  match ← peek with
  | some '>' => skip; return .append
  | some '|' => skip; return .replacement
  | some '&' => skip; return .duplicateOutput
  | _ => return .output

/-- Read the rest of an arrow that starts with a less-than sign. -/
def readInputArrow : Read Arrow := do
  match ← peek with
  | some '<' =>
    skip
    match ← peek with
    | some '-' => skip; return .document true
    | _ => return .document false
  | some '&' => skip; return .duplicateInput
  | some '>' => skip; return .both
  | _ => return .input

/-- Read an arrow whose first character is `c`. -/
def readArrow (descriptor : Option Nat) (c : Char) : Read Token := do
  skip
  return .arrow descriptor (← if c = '>' then readOutputArrow else readInputArrow)

/-- Read a second character that makes an operator a longer one. -/
def readDouble (c : Char) (single double : Token) : Read Token := do
  skip
  if (← peek) = some c then
    skip
    return double
  else return single

/-- Move past blanks and a comment. -/
def skipBlanks : Nat → Read Unit
  | 0 => return ()
  | fuel + 1 => do
    match ← peek with
    | some ' ' => skip; skipBlanks fuel
    | some '\t' => skip; skipBlanks fuel
    | some '#' => let _ ← Read.takeWhile (· != '\n')
    | _ => return ()

/-- The tokens after which a nested list ends. -/
def Token.endsList (t : Token) : Bool :=
  match t with
  | .endOfText => true
  | .rightParenthesis => true
  | .endOfBranch => true
  | .word _ =>
    match t.keyword? with
    | some k => ["do", "done", "elif", "else", "esac", "fi", "then", "\x7d"].contains k
    | none => false
  | _ => false

/-- The descriptor that a word names directly in front of an arrow. -/
def descriptor? (w : Word) : Option Nat :=
  match literal? w with
  | some [c] => if c.isDigit then some (c.toNat - '0'.toNat) else none
  | _ => none

/-- The builtins that no function can be named like. -/
def specialBuiltins : List String :=
  [".", ":", "break", "continue", "eval", "exec", "exit", "export", "local", "readonly", "return", "set",
    "shift", "times", "trap", "unset"]

/-- The command that runs two others, of which the first may be missing. -/
def after? (a : Option Command) (b : Command) : Command :=
  match a with
  | none => b
  | some a => .sequence a b

/-! ### Words and commands

In all readers below, `fuel` bounds how deep they call each other. -/

mutual

/-- Read a word. -/
def readWord : Nat → Read Word
  | 0 => return []
  | fuel + 1 => do
    match ← peek with
    | none => return []
    | some c =>
      if endsWord c then return []
      else
        skip
        if c = '\'' then
          let s ← readSingle
          return .text s true :: (← readWord fuel)
        else if c = '"' then
          let inside ← readQuoted fuel
          return .text [] true :: inside ++ (← readWord fuel)
        else if c = '\\' then
          match ← takeRaw with
          | none => return [.text ['\\'] true]
          | some d => return .text [d] true :: (← readWord fuel)
        else if c = '$' then
          let parts ← readDollar fuel false
          return parts ++ (← readWord fuel)
        else if c = backquote then
          let part ← readBackquote fuel false
          return part :: (← readWord fuel)
        else return addChar c false (← readWord fuel)

/-- Read what stands between double quotes, after the first. -/
def readQuoted : Nat → Read Word
  | 0 => fail .unterminatedQuote
  | fuel + 1 => do
    match ← peek with
    | none => fail .unterminatedQuote
    | some c =>
      skip
      if c = '"' then return []
      else if c = '\\' then
        match ← takeRaw with
        | none => fail .unterminatedQuote
        | some d =>
          let rest ← readQuoted fuel
          return if d = '$' ∨ d = backquote ∨ d = '"' ∨ d = '\\' then addChar d true rest
            else addChar '\\' true (addChar d true rest)
      else if c = '$' then
        let parts ← readDollar fuel true
        return parts ++ (← readQuoted fuel)
      else if c = backquote then
        let part ← readBackquote fuel true
        return part :: (← readQuoted fuel)
      else return addChar c true (← readQuoted fuel)

/-- Read the body of a document in which parameters are expanded. -/
def readDocument : Nat → Read Word
  | 0 => return []
  | fuel + 1 => do
    match ← peek with
    | none => return []
    | some c =>
      skip
      if c = '\\' then
        match ← takeRaw with
        | none => return [.text ['\\'] true]
        | some d =>
          let rest ← readDocument fuel
          return if d = '$' ∨ d = backquote ∨ d = '\\' then addChar d true rest
            else addChar '\\' true (addChar d true rest)
      else if c = '$' then
        let parts ← readDollar fuel true
        return parts ++ (← readDocument fuel)
      else if c = backquote then
        let part ← readBackquote fuel true
        return part :: (← readDocument fuel)
      else return addChar c true (← readDocument fuel)

/-- Read a word in braces, up to the closing one; `quoted` tells whether the braces are quoted. -/
def readBraced : Nat → Bool → Read Word
  | 0, quoted => fail (openBrace quoted)
  | fuel + 1, quoted => do
    match ← peek with
    | none => fail (openBrace quoted)
    | some c =>
      skip
      if c = '\x7d' then return []
      else if c = '\'' ∧ !quoted then
        let s ← readSingle
        return .text s true :: (← readBraced fuel quoted)
      else if c = '"' then
        let inside ← readQuoted fuel
        return .text [] true :: inside ++ (← readBraced fuel quoted)
      else if c = '\\' then
        match ← takeRaw with
        | none => fail (openBrace quoted)
        | some d =>
          let rest ← readBraced fuel quoted
          return if !quoted ∨ d = '$' ∨ d = backquote ∨ d = '"' ∨ d = '\\' ∨ d = '\x7d' then
              addChar d true rest
            else addChar '\\' true (addChar d true rest)
      else if c = '$' then
        let parts ← readDollar fuel quoted
        return parts ++ (← readBraced fuel quoted)
      else if c = backquote then
        let part ← readBackquote fuel quoted
        return part :: (← readBraced fuel quoted)
      else return addChar c quoted (← readBraced fuel quoted)

/-- Read an arithmetic expression up to the two closing parentheses; `depth` counts those open inside. -/
def readArithmetic : Nat → Nat → Read Word
  | 0, _ => fail .missingParentheses
  | fuel + 1, depth => do
    match ← peek with
    | none => fail .missingParentheses
    | some c =>
      skip
      if c = ')' then
        if depth = 0 then
          match ← peek with
          | some ')' => skip; return []
          | _ => return addChar ')' true (← readArithmetic fuel 0)
        else return addChar ')' true (← readArithmetic fuel (depth - 1))
      else if c = '(' then return addChar '(' true (← readArithmetic fuel (depth + 1))
      else if c = '$' then
        let parts ← readDollar fuel true
        return parts ++ (← readArithmetic fuel depth)
      else if c = backquote then
        let part ← readBackquote fuel true
        return part :: (← readArithmetic fuel depth)
      else return addChar c true (← readArithmetic fuel depth)

/-- Read what follows a dollar sign. -/
def readDollar : Nat → Bool → Read Word
  | 0, quoted => return [.text ['$'] quoted]
  | fuel + 1, quoted => do
    match ← peek with
    | none => return [.text ['$'] quoted]
    | some c =>
      if c = '(' then
        skip
        if (← peek) = some '(' then
          skip
          return [.arithmetic (← readArithmetic fuel 0) quoted]
        else
          let before := (← get).pushed
          modify fun i => { i with pushed := none }
          let body ← readNested fuel true
          match ← readToken fuel with
          | .rightParenthesis =>
            modify fun i => { i with pushed := before }
            return [.substitution body quoted]
          | t => refuseFor "\")\"" t
      else if c = '\x7b' then
        skip
        return [← readParameter fuel quoted]
      else if startsName c then
        return [.parameter (← Read.takeWhile isNameChar) .value quoted]
      else if isSpecial c then
        skip
        return [.parameter [c] .value quoted]
      else return [.text ['$'] quoted]

/-- Read a parameter in braces, after the first brace. -/
def readParameter : Nat → Bool → Read Part
  | 0, quoted => fail (openBrace quoted)
  | fuel + 1, quoted => do
    match ← peek with
    | none => fail (openBrace quoted)
    | some c =>
      if isNameChar c then readUse fuel quoted (← readName c)
      else if c = '\x7d' then readSenseless fuel quoted
      else
        passOver
        if c = '#' then readCount fuel quoted
        else if isSpecial c then readUse fuel quoted [c]
        else readSenseless fuel quoted

/-- Read what follows a number sign in braces: the parameter whose length is meant, or what is made of
the number of parameters. -/
def readCount : Nat → Bool → Read Part
  | 0, quoted => fail (openBrace quoted)
  | fuel + 1, quoted => do
    match ← peek with
    | none => fail (openBrace quoted)
    | some c =>
      if isNameChar c then
        let name ← readName c
        if (← peek) = some '\x7d' then
          skip
          return .parameter name .length quoted
        else readSenseless fuel quoted
      else if c ≠ '\x7d' ∧ (← get).rest[1]? = some '\x7d' then
        passOver
        if isSpecial c then
          skip
          return .parameter [c] .length quoted
        else readSenseless fuel quoted
      else readUse fuel quoted ['#']

/-- Read what is made of a parameter in braces, after its name. -/
def readUse : Nat → Bool → Bytes → Read Part
  | 0, quoted, _ => fail (openBrace quoted)
  | fuel + 1, quoted, name => do
    let orEmpty := (← peek) = some ':'
    if orEmpty then skip
    match ← peek with
    | none => fail (openBrace quoted)
    | some c =>
      let substitute? : Option Substitute :=
        if c = '-' then some .word
        else if c = '=' then some .assigned
        else if c = '?' then some .complaint
        else if c = '+' then some .alternative
        else none
      match substitute? with
      | some substitute =>
        skip
        return .parameter name (.unlessSet substitute orEmpty (← readBraced fuel quoted)) quoted
      | none =>
        if !orEmpty && c = '\x7d' then
          skip
          return .parameter name .value quoted
        else if !orEmpty && (c = '%' || c = '#') then
          skip
          let longest := (← peek) = some c
          if longest then skip
          return .parameter name (.trimmed (c = '%') longest (← readBraced fuel false)) quoted
        else
          passOver
          readSenseless fuel quoted

/-- Read the rest of a parameter in braces that makes no sense. -/
def readSenseless : Nat → Bool → Read Part
  | 0, quoted => fail (openBrace quoted)
  | fuel + 1, quoted => do
    let _ ← readBraced fuel quoted
    return .parameter [] .senseless quoted

/-- Read a command between backquotes, after the first. -/
def readBackquote : Nat → Bool → Read Part
  | 0, _ => fail .unterminatedBackquote
  | fuel + 1, quoted => do
    let escapes (c : Char) : Bool := c == '\\' || c == '$' || c == backquote || (quoted && c == '"')
    let text ← readBackquoted escapes ((← get).rest.length + 1)
    within text do
      let body ← readNested fuel true
      match ← readToken fuel with
      | .endOfText => return .substitution body quoted
      | t => refuseFor "end of file" t

/-- Read a token. -/
def readToken : Nat → Read Token
  | 0 => return .endOfText
  | fuel + 1 => do
    match (← get).pushed with
    | some t =>
      modify fun i => { i with pushed := none }
      return t
    | none =>
      skipBlanks ((← get).rest.length + 1)
      match ← peek with
      | none => return .endOfText
      | some c =>
        if c = '\n' then
          skip
          return .newline
        else if c = '&' then readDouble '&' .background .andIf
        else if c = '|' then readDouble '|' .pipe .orIf
        else if c = ';' then readDouble ';' .semicolon .endOfBranch
        else if c = '(' then
          skip
          return .leftParenthesis
        else if c = ')' then
          skip
          return .rightParenthesis
        else if c = '<' ∨ c = '>' then readArrow none c
        else
          let w ← readWord fuel
          match ← peek, descriptor? w with
          | some '<', some n => readArrow (some n) '<'
          | some '>', some n => readArrow (some n) '>'
          | _, _ => return .word w

/-- Read a token that is no line feed. -/
def readVisible : Nat → Read Token
  | 0 => return .endOfText
  | fuel + 1 => do
    match ← readToken fuel with
    | .newline => readVisible fuel
    | t => return t

/-- Read a keyword, perhaps after line feeds. -/
def readKeyword : Nat → Bool → String → Read Unit
  | 0, _, keyword => refuseForKeyword keyword .endOfText
  | fuel + 1, visible, keyword => do
    let t ← if visible then readVisible fuel else readToken fuel
    if t.keyword? = some keyword then return () else refuseForKeyword keyword t

/-- Read a list inside a compound command, up to a token after which it ends.  It may be empty only if
`mayBeEmpty` is set. -/
def readNested : Nat → Bool → Read (Option Command)
  | 0, _ => return none
  | fuel + 1, mayBeEmpty => do
    let t ← readVisible fuel
    giveBack t
    match t with
    | .endOfText => return none
    | _ =>
      if mayBeEmpty && t.endsList then return none
      else readItems fuel none

/-- Read the commands of a list inside a compound command, after some that have been read. -/
def readItems : Nat → Option Command → Read (Option Command)
  | 0, before => return before
  | fuel + 1, before => do
    let c ← readConditional fuel
    let t ← readToken fuel
    let c := match t with
      | .background => .background c
      | _ => c
    let all := after? before c
    let goOn : Bool := match t with
      | .background => true
      | .semicolon => true
      | .newline => true
      | _ => false
    if !goOn then
      giveBack t
      return some all
    else
      let next ← readVisible fuel
      giveBack next
      if next.endsList then return some all else readItems fuel (some all)

/-- Read a list inside a compound command that must not be empty. -/
def readBody : Nat → Read Command
  | 0 => refuse .endOfText
  | fuel + 1 => do
    match ← readNested fuel false with
    | some c => return c
    | none => return .simple (← get).line [] [] []

/-- Read pipelines that are joined by conditional operators. -/
def readConditional : Nat → Read Command
  | 0 => refuse .endOfText
  | fuel + 1 => do
    let first ← readPipeline fuel
    readFurther fuel first

/-- Read further pipelines that are joined to a command by conditional operators. -/
def readFurther : Nat → Command → Read Command
  | 0, c => return c
  | fuel + 1, c => do
    match ← readToken fuel with
    | .andIf =>
      giveBack (← readVisible fuel)
      let next ← readPipeline fuel
      readFurther fuel (.andThen c next)
    | .orIf =>
      giveBack (← readVisible fuel)
      let next ← readPipeline fuel
      readFurther fuel (.orElse c next)
    | t =>
      giveBack t
      return c

/-- Read a pipeline. -/
def readPipeline : Nat → Read Command
  | 0 => refuse .endOfText
  | fuel + 1 => do
    let t ← readToken fuel
    let negated := t.keyword? = some "!"
    if !negated then giveBack t
    let first ← readSingleCommand fuel
    let stages ← readStages fuel
    let c := if stages.isEmpty then first else .pipeline (first :: stages)
    return if negated then .negated c else c

/-- Read the further commands of a pipeline. -/
def readStages : Nat → Read (List Command)
  | 0 => return []
  | fuel + 1 => do
    match ← readToken fuel with
    | .pipe =>
      giveBack (← readVisible fuel)
      let c ← readSingleCommand fuel
      return c :: (← readStages fuel)
    | t =>
      giveBack t
      return []

/-- Read a command, simple or compound. -/
def readSingleCommand : Nat → Read Command
  | 0 => refuse .endOfText
  | fuel + 1 => do
    let line := (← get).line
    let t ← readToken fuel
    match t with
    | .leftParenthesis =>
      let body ← readBody fuel
      match ← readToken fuel with
      | .rightParenthesis => readRedirected fuel line (.subshell body)
      | t => refuseFor "\")\"" t
    | .arrow .. =>
      giveBack t
      readSimple fuel line [] [] []
    | .word _ =>
      match t.keyword? with
      | none =>
        giveBack t
        readSimple fuel line [] [] []
      | some "\x7b" =>
        let body ← readBody fuel
        readKeyword fuel false "\x7d"
        readRedirected fuel line body
      | some "if" =>
        let c ← readIf fuel
        readRedirected fuel line c
      | some "while" =>
        let c ← readLoop fuel false
        readRedirected fuel line c
      | some "until" =>
        let c ← readLoop fuel true
        readRedirected fuel line c
      | some "for" =>
        let c ← readFor fuel line
        readRedirected fuel line c
      | some "case" =>
        let c ← readCase fuel line
        readRedirected fuel line c
      | some _ => refuse t
    | t => refuse t

/-- Read the redirections of a compound command. -/
def readRedirected : Nat → Nat → Command → Read Command
  | 0, _, c => return c
  | fuel + 1, line, c => do
    let rs ← readRedirects fuel
    return if rs.isEmpty then c else .redirected line c rs

/-- Read redirections. -/
def readRedirects : Nat → Read (List Redirect)
  | 0 => return []
  | fuel + 1 => do
    match ← readToken fuel with
    | .arrow n a =>
      let r ← readTarget fuel n a
      return r :: (← readRedirects fuel)
    | t =>
      giveBack t
      return []

/-- Read the target of a redirection. -/
def readTarget : Nat → Option Nat → Arrow → Read Redirect
  | 0, _, _ => refuse .endOfText
  | fuel + 1, n, a => do
    match a with
    | .document dropTabs =>
      skipBlanks ((← get).rest.length + 1)
      let before := (← get).rest.length
      let (delimiter, quoted) ← readDelimiter (before + 1)
      if (← get).rest.length = before then refuse (← readToken fuel)
      let body ← takeDocument delimiter dropTabs
      if quoted then return .document (n.getD 0) [.text body true]
      else return .document (n.getD 0) (← withinDocument body (readDocument fuel))
    | _ =>
      match ← readToken fuel with
      | .word w =>
        return match a with
          | .output => .file (n.getD 1) .write w
          | .replacement => .file (n.getD 1) .replace w
          | .append => .file (n.getD 1) .append w
          | .input => .file (n.getD 0) .read w
          | .both => .file (n.getD 0) .update w
          | .duplicateOutput => .duplicate (n.getD 1) w
          | _ => .duplicate (n.getD 0) w
      | t => refuse t

/-- Read a simple command or the definition of a function. -/
def readSimple : Nat → Nat → List (Bytes × Word) → List Word → List Redirect → Read Command
  | 0, line, assignments, words, redirects => return .simple line assignments words redirects
  | fuel + 1, line, assignments, words, redirects => do
    match ← readToken fuel with
    | .word w =>
      match if words.isEmpty then assignment? w else none with
      | some a => readSimple fuel line (assignments ++ [a]) words redirects
      | none => readSimple fuel line assignments (words ++ [w]) redirects
    | .arrow n a =>
      let r ← readTarget fuel n a
      readSimple fuel line assignments words (redirects ++ [r])
    | .leftParenthesis =>
      match assignments, words, redirects with
      | [], [name], [] => readFunction fuel name
      | _, _, _ =>
        giveBack .leftParenthesis
        return .simple line assignments words redirects
    | t =>
      giveBack t
      return .simple line assignments words redirects

/-- Read the definition of a function, after its name and a parenthesis. -/
def readFunction : Nat → Word → Read Command
  | 0, _ => refuse .endOfText
  | fuel + 1, name => do
    match ← readToken fuel with
    | .rightParenthesis =>
      match literal? name with
      | some s =>
        if isName s && !specialBuiltins.contains (String.ofList s) then
          giveBack (← readVisible fuel)
          return .define s (← readSingleCommand fuel)
        else fail .badFunctionName
      | none => fail .badFunctionName
    | t => refuseFor "\")\"" t

/-- Read the rest of a condition, after its first keyword. -/
def readIf : Nat → Read Command
  | 0 => refuse .endOfText
  | fuel + 1 => do
    let test ← readBody fuel
    readKeyword fuel false "then"
    let body ← readBody fuel
    let t ← readToken fuel
    match t.keyword? with
    | some "elif" => return .conditional test body (some (← readIf fuel))
    | some "else" =>
      let otherwise ← readBody fuel
      readKeyword fuel false "fi"
      return .conditional test body (some otherwise)
    | some "fi" => return .conditional test body none
    | _ => refuseForKeyword "fi" t

/-- Read the rest of a loop, after its first keyword. -/
def readLoop : Nat → Bool → Read Command
  | 0, _ => refuse .endOfText
  | fuel + 1, whileFails => do
    let test ← readBody fuel
    readKeyword fuel false "do"
    let body ← readBody fuel
    readKeyword fuel false "done"
    return .loop whileFails test body

/-- Read the words of a loop over words. -/
def readWords : Nat → Read (List Word)
  | 0 => return []
  | fuel + 1 => do
    match ← readToken fuel with
    | .word w => return w :: (← readWords fuel)
    | .newline => return []
    | .semicolon => return []
    | t => refuse t

/-- Read the rest of a loop over words, after its first keyword. -/
def readFor : Nat → Nat → Read Command
  | 0, _ => refuse .endOfText
  | fuel + 1, line => do
    let name ← match ← readToken fuel with
      | .word w => pure ((literal? w).getD [])
      | _ => pure []
    if !isName name then fail .badLoopVariable
    let t ← readVisible fuel
    let words ← (match t.keyword? with
      | some "in" => do return some (← readWords fuel)
      | _ =>
        match t with
        | .semicolon => return none
        | t => do
          giveBack t
          return none)
    readKeyword fuel true "do"
    let body ← readBody fuel
    readKeyword fuel false "done"
    return .forEach line name words body

/-- Read the rest of a choice, after its first keyword. -/
def readCase : Nat → Nat → Read Command
  | 0, _ => refuse .endOfText
  | fuel + 1, line => do
    match ← readToken fuel with
    | .word w =>
      readKeyword fuel true "in"
      return .choice line w (← readBranches fuel)
    | t => refuseFor "word" t

/-- Read the branches of a choice and the keyword after them. -/
def readBranches : Nat → Read (List Branch)
  | 0 => refuse .endOfText
  | fuel + 1 => do
    let t ← readVisible fuel
    if t.keyword? = some "esac" then return []
    else
      let t ← match t with
        | .leftParenthesis => readToken fuel
        | t => pure t
      let patterns ← readPatterns fuel t
      let body ← readNested fuel true
      let branch := Branch.mk patterns body
      let t ← readVisible fuel
      match t with
      | .endOfBranch => return branch :: (← readBranches fuel)
      | t => if t.keyword? = some "esac" then return [branch] else refuseFor "\";;\"" t

/-- Read the patterns of a branch, the first of which is a token that has been read.  That it is a word
is not asked for. -/
def readPatterns : Nat → Token → Read (List Word)
  | 0, _ => refuse .endOfText
  | fuel + 1, t => do
    let w := match t with
      | .word w => w
      | _ => []
    match ← readToken fuel with
    | .pipe =>
      let t ← readToken fuel
      return w :: (← readPatterns fuel t)
    | .rightParenthesis => return [w]
    | t => refuseFor "\")\"" t

end

/-! ### Complete commands -/

/-- Read the commands up to the end of the line, after some that have been read. -/
def readLine : Nat → Option Command → Read (Option Command)
  | 0, before => return before
  | fuel + 1, before => do
    let t ← readToken fuel
    match t with
    | .newline => return before
    | .endOfText => return before
    | t =>
      giveBack t
      let c ← readConditional fuel
      match ← readToken fuel with
      | .background => readLine fuel (some (after? before (.background c)))
      | .semicolon => readLine fuel (some (after? before c))
      | .newline => return some (after? before c)
      | .endOfText => return some (after? before c)
      | t => refuse t

/-- How deep readers may call each other for a text. -/
def fuelFor (text : Bytes) : Nat := 8 * text.length + 64

/-- The next complete command of a text, which may be an empty line. -/
def readCommand : Read (Option Command) := do
  let i ← get
  readLine (fuelFor i.rest) none

/-- Where the reading of a text starts. -/
def Input.ofText (text : Bytes) : Input := ⟨text, 1, 0, none⟩

/-- Whether nothing is left to read. -/
def Input.isAtEnd (i : Input) : Bool := i.rest.isEmpty && i.pushed.isNone

end HashReplay.Programs.Shell
