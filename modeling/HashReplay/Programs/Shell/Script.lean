import HashReplay.Programs.Basic

/-!
# Shell scripts

What a shell script consists of.  A word is made of parts, some of which are expanded when the command
that holds them is run; a part may hold a script of its own.  Commands are simple or compound, and may
be joined by pipes, by the two conditional operators, and one after another.

## Main definitions

* `Part`, `Word` — the words of a command before expansion.
* `Redirect` — a redirection.
* `Command` — a command.
-/

namespace HashReplay.Programs.Shell

/-- What is used when a parameter is not set. -/
inductive Substitute where
  /-- A word in place of the value. -/
  | word
  /-- A word, which also becomes the value. -/
  | assigned
  /-- A word as the complaint with which the shell ends. -/
  | complaint
  /-- A word if the parameter is set, and nothing otherwise. -/
  | alternative
  deriving DecidableEq, Repr

/-- How a file is opened. -/
inductive OpenMode where
  | read
  | write
  /-- Like `write`, even if it is switched on that files are kept. -/
  | replace
  | append
  | update
  deriving DecidableEq, Repr

mutual

/-- A part of a word. -/
inductive Part where
  /-- Characters as they are. -/
  | text (s : Bytes) (quoted : Bool)
  /-- A parameter, and what is made of it. -/
  | parameter (name : Bytes) (use : Use) (quoted : Bool)
  /-- The output of a command. -/
  | substitution (c : Option Command) (quoted : Bool)
  /-- The value of an arithmetic expression. -/
  | arithmetic (expression : List Part) (quoted : Bool)

/-- What is made of a parameter. -/
inductive Use where
  | value
  | length
  /-- Something else if it is not set, or not set to anything. -/
  | unlessSet (substitute : Substitute) (orEmpty : Bool) (word : List Part)
  /-- The value without what a pattern matches at one of its ends. -/
  | trimmed (atEnd longest : Bool) (pattern : List Part)
  /-- It makes no sense. -/
  | senseless

/-- A command. -/
inductive Command where
  /-- Assignments and the words of a command, with redirections. -/
  | simple (line : Nat) (assignments : List (Bytes × List Part)) (words : List (List Part))
    (redirects : List Redirect)
  | redirected (line : Nat) (c : Command) (redirects : List Redirect)
  | pipeline (cs : List Command)
  | negated (c : Command)
  | andThen (a b : Command)
  | orElse (a b : Command)
  | sequence (a b : Command)
  | background (c : Command)
  | subshell (c : Command)
  | conditional (test body : Command) (otherwise : Option Command)
  /-- A body that is repeated as long as a test succeeds, or as long as it fails. -/
  | loop (whileFails : Bool) (test body : Command)
  /-- A body for each of some words, or for each parameter. -/
  | forEach (line : Nat) (name : Bytes) (words : Option (List (List Part))) (body : Command)
  | choice (line : Nat) (word : List Part) (branches : List Branch)
  | define (name : Bytes) (body : Command)

/-- A branch of a choice: patterns and what is run if one of them matches. -/
inductive Branch where
  | mk (patterns : List (List Part)) (body : Option Command)

/-- A redirection of a descriptor. -/
inductive Redirect where
  /-- To or from a file. -/
  | file (descriptor : Nat) (mode : OpenMode) (name : List Part)
  /-- To what another descriptor leads to. -/
  | duplicate (descriptor : Nat) (source : List Part)
  /-- From a text in the script. -/
  | document (descriptor : Nat) (body : List Part)

end

/-- A word before expansion. -/
abbrev Word := List Part

/-- A character that may start a name. -/
def startsName (c : Char) : Bool := c.isAlpha || c == '_'

/-- A character of a name. -/
def isNameChar (c : Char) : Bool := c.isAlphanum || c == '_'

/-- Whether a text is a name. -/
def isName : Bytes → Bool
  | [] => false
  | c :: s => startsName c && s.all isNameChar

/-- The text of a word of which nothing is quoted or expanded. -/
def literal? : Word → Option Bytes
  | [] => none
  | [.text s false] => some s
  | .text s false :: w => (literal? w).map (s ++ ·)
  | _ => none

/-- The name that a word gives a value, and the value. -/
def assignment? : Word → Option (Bytes × Word)
  | .text s false :: w =>
    match s.dropWhile isNameChar with
    | '=' :: value =>
      if isName (s.takeWhile isNameChar) then
        some (s.takeWhile isNameChar, if value.isEmpty then w else .text value false :: w)
      else none
    | _ => none
  | _ => none

end HashReplay.Programs.Shell
