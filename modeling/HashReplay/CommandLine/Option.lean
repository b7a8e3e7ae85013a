import HashReplay.Text.Blank
import HashReplay.Text.ControlSequence
import HashReplay.Text.Similarity

/-!
# Command-line options

A command line is a list of arguments.  An option is given by its long name after two dashes or by its
letter after one; its value follows an equals sign, or directly the letter, or is the next argument.
An option that waits for its value takes any argument that does not look like an option.  Nothing else
may stand on the command line, and no option may be given twice.

A value that is an argument of its own is looked at only when the next option comes or the command line
ends.  So an argument that cannot be placed is reported before a wrong value in front of it.

## Main definitions

* `OptionSpec`, `Grammar` — the options of a program and what they do.
* `UsageError`, `UsageError.complaint` — what is wrong with a command line, and what is said about it.
* `Interruption` — why parsing ends early.
* `Grammar.parse` — what the options of a command line make of a state.
-/

namespace HashReplay.CommandLine

open Text.ControlSequence (Fragment plain emphasis render)

/-- What an option is for; `ι` names the options that change the state. -/
inductive Effect (ι : Type) where
  /-- It takes a value, which help texts call by a placeholder. -/
  | value (name : ι) (placeholder : String)
  /-- It is there or not. -/
  | switch (name : ι)
  | help
  | version

/-- An option. -/
structure OptionSpec (ι : Type) where
  long : String
  letter : Option Char
  effect : Effect ι
  /-- Whether the value may be a number with a minus sign. -/
  takesNegative : Bool

/-- How an option is named in messages. -/
def OptionSpec.display (o : OptionSpec ι) : String :=
  match o.effect with
  | .value _ placeholder => "--" ++ o.long ++ " <" ++ placeholder ++ ">"
  | _ => "--" ++ o.long

/-- Why a value does not do. -/
inductive ValueFault where
  /-- It is empty and must not be. -/
  | missing
  | invalid (reason : String)
  deriving DecidableEq, Repr

/-- What is wrong with a command line. -/
inductive UsageError where
  /-- An option has no value. -/
  | valueRequired (option : String)
  /-- The value of an option does not do. -/
  | invalidValue (value option reason : String)
  /-- An option has a value and takes none; `given` are the options so far with it. -/
  | unneededValue (value option : String) (given : List String)
  /-- An option was given before. -/
  | repeated (option : String)
  /-- No option has this name; `similar` is the option that may have been meant, and `given` are the
  options so far with it. -/
  | unknownOption (argument : String) (similar : Option String) (given : List String)
  /-- An argument is no option and no value. -/
  | unexpected (argument : String)
  deriving DecidableEq, Repr

/-- The wording of what is wrong.  What was given is emphasised, but not in a reason. -/
def UsageError.wording : UsageError → List Fragment
  | .valueRequired option =>
    [plain "error: a value is required for '", emphasis option, plain "' but none was supplied"]
  | .invalidValue value option reason =>
    [plain "error: invalid value '", emphasis value, plain "' for '", emphasis option,
      plain ("': " ++ reason)]
  | .unneededValue value option _ =>
    [plain "error: unexpected value '", emphasis value, plain "' for '", emphasis option,
      plain "' found; no more were expected"]
  | .repeated option =>
    [plain "error: the argument '", emphasis option, plain "' cannot be used multiple times"]
  | .unknownOption argument _ _ => unexpectedWording argument
  | .unexpected argument => unexpectedWording argument
where
  unexpectedWording (argument : String) : List Fragment :=
    [plain "error: unexpected argument '", emphasis argument, plain "' found"]

/-- The hint to an option that may have been meant. -/
def UsageError.tip : UsageError → List Fragment
  | .unknownOption _ (some similar) _ =>
    [plain ("\n\n  tip: a similar argument exists: '--" ++ similar ++ "'")]
  | _ => []

/-- The options with which the usage is shown, if it helps to see it. -/
def UsageError.usage? : UsageError → Option (List String)
  | .unneededValue _ _ given => some given
  | .repeated _ => some []
  | .unknownOption _ _ given => some given
  | .unexpected _ => some []
  | .valueRequired _ => none
  | .invalidValue .. => none

/-- How `program` is used with options, or with any options if none is named. -/
def usageText (program : String) (options : List String) : Fragment :=
  plain ("\n\nUsage: " ++ program ++ " " ++
    if options.isEmpty then "[OPTIONS]" else " ".intercalate options)

/-- What `program` writes about a wrong command line: the wording, a hint, the usage if it helps, and
where to find more. -/
def UsageError.complaint (program : String) (e : UsageError) : String :=
  render (e.wording ++ e.tip ++ (e.usage?.map (usageText program)).toList ++
    [plain "\n\nFor more information, try '", emphasis "--help", plain "'.\n"])

/-- Why parsing ends early. -/
inductive Interruption where
  | usage (e : UsageError)
  | help
  | version
  deriving DecidableEq, Repr

/-- The options of a program and what they do to a state of type `σ`. -/
structure Grammar (ι σ : Type) where
  options : List (OptionSpec ι)
  /-- Take the value of an option. -/
  assign : ι → String → σ → Except ValueFault σ
  /-- Turn a switch on. -/
  turnOn : ι → σ → σ

/-- Where parsing stands. -/
structure Parsing (ι σ : Type) where
  state : σ
  /-- The options given so far. -/
  given : List ι
  /-- The option before, with its value if that has come. -/
  pending : Option (OptionSpec ι × Option String)

/-! ### Shapes of arguments -/

/-- A number as it may follow a minus sign: digits with at most one point, which is not in front, and at
most one exponent mark, which is neither in front nor at the end. -/
def isNumber (s : List Char) : Bool :=
  let isMark (c : Char) : Bool := c == 'e' || c == 'E'
  s.all (fun c => c.isDigit || c == '.' || isMark c) &&
    s.count '.' ≤ 1 && s.countP isMark ≤ 1 &&
    (match s with
      | [] => false
      | c :: _ => c.isDigit) &&
    (match s.getLast? with
      | none => false
      | some c => !isMark c) &&
    !((s.dropWhile fun c => !isMark c).contains '.')

/-- A name and the value after the first equals sign, if there is one. -/
def splitAtEquals (s : List Char) : List Char × Option (List Char) :=
  match s.dropWhile (· != '=') with
  | [] => (s, none)
  | _ :: value => (s.takeWhile (· != '='), some value)

/-- The value that directly follows a letter; an equals sign before it does not belong to it. -/
def attachedValue : List Char → Option (List Char)
  | [] => none
  | '=' :: s => some s
  | s => some s

/-! ### Parsing -/

namespace Grammar

variable {ι σ : Type} [DecidableEq ι] (g : Grammar ι σ)

/-- A wrong command line. -/
def wrong (e : UsageError) : Except Interruption α := .error (.usage e)

/-- Take an option with a value, or with none. -/
def react (name : ι) (o : OptionSpec ι) (value : Option String) (p : Parsing ι σ) :
    Except Interruption (Parsing ι σ) :=
  match value with
  | none => wrong (.valueRequired o.display)
  | some v =>
    if name ∈ p.given then wrong (.repeated o.display)
    else
      match g.assign name v p.state with
      | .ok state => .ok { p with state, given := p.given ++ [name] }
      | .error .missing => wrong (.valueRequired o.display)
      | .error (.invalid reason) => wrong (.invalidValue v o.display reason)

/-- Take the option before, if there is one. -/
def resolve (p : Parsing ι σ) : Except Interruption (Parsing ι σ) :=
  match p.pending with
  | none => .ok p
  | some (o, value) =>
    match o.effect with
    | .value name _ => g.react name o value { p with pending := none }
    | _ => .ok { p with pending := none }

/-- The option that changes the state by a name. -/
def named? (name : ι) : Option (OptionSpec ι) :=
  g.options.find? fun o =>
    match o.effect with
    | .value n _ => n = name
    | .switch n => n = name
    | .help => false
    | .version => false

/-- The options given so far, as they are named in messages. -/
def shown (p : Parsing ι σ) : List String :=
  p.given.filterMap fun name => (g.named? name).map OptionSpec.display

/-- Take an option that has just been met, with the value attached to it, if there is one. -/
def meet (o : OptionSpec ι) (attached : Option String) (p : Parsing ι σ) :
    Except Interruption (Parsing ι σ) :=
  match o.effect, attached with
  | .value name _, some v => (g.resolve p).bind fun p => g.react name o (some v) p
  | .value _ _, none => (g.resolve p).map fun p => { p with pending := some (o, none) }
  | _, some v => wrong (.unneededValue v o.display (g.shown p ++ [o.display]))
  | .help, none => (g.resolve p).bind fun _ => .error .help
  | .version, none => (g.resolve p).bind fun _ => .error .version
  | .switch name, none =>
    (g.resolve p).bind fun p =>
      if name ∈ p.given then wrong (.repeated o.display)
      else .ok { p with state := g.turnOn name p.state, given := p.given ++ [name] }

/-- The option with a long name. -/
def byLong? (name : String) : Option (OptionSpec ι) := g.options.find? fun o => o.long == name

/-- The option with a letter. -/
def byLetter? (c : Char) : Option (OptionSpec ι) := g.options.find? fun o => o.letter == some c

/-- The option whose name is similar to one that is not known. -/
def similar? (name : String) : Option (OptionSpec ι) :=
  (Text.mostSimilar? name.toList (g.options.map (·.long.toList))).bind fun long =>
    g.byLong? (String.ofList long)

/-- A wrong command line with an option that is not known.  The option before counts as given, unless
its value does not do, and so does the option that may have been meant. -/
def unknown (name : String) (p : Parsing ι σ) : Except Interruption α :=
  let given :=
    match g.resolve p with
    | .ok p => g.shown p
    | .error _ => g.shown p
  match g.similar? name with
  | none => wrong (.unknownOption ("--" ++ name) none given)
  | some o =>
    let given := if o.display ∈ given then given else given ++ [o.display]
    wrong (.unknownOption ("--" ++ name) (some o.long) given)

/-- Take an argument as the value of the option before. -/
def takeValue (arg : String) (p : Parsing ι σ) : Except Interruption (Parsing ι σ) :=
  match p.pending with
  | some (o, none) => .ok { p with pending := some (o, some arg) }
  | _ => wrong (.unexpected arg)

/-- Whether an argument with a minus sign is the value of the option before. -/
def isNegativeValue (s : List Char) (p : Parsing ι σ) : Bool :=
  match p.pending with
  | some (o, none) => o.takesNegative && isNumber s
  | _ => false

/-- Take letters after one dash.  A letter of an option that takes a value takes all that follows it. -/
def takeLetters : List Char → Parsing ι σ → Except Interruption (Parsing ι σ)
  | [], p => .ok p
  | c :: s, p =>
    match g.byLetter? c with
    | none => wrong (.unexpected (String.ofList ['-', c]))
    | some o =>
      match o.effect with
      | .value _ _ => g.meet o ((attachedValue s).map String.ofList) p
      | _ => (g.meet o none p).bind fun p => takeLetters s p

/-- Take one argument that is not the end of the options. -/
def takeArgument (arg : String) (p : Parsing ι σ) : Except Interruption (Parsing ι σ) :=
  match arg.toList with
  | '-' :: '-' :: s =>
    let (name, value) := splitAtEquals s
    match g.byLong? (String.ofList name) with
    | none => g.unknown (String.ofList name) p
    | some o => g.meet o (value.map String.ofList) p
  | '-' :: c :: s =>
    if isNegativeValue (c :: s) p then takeValue arg p else g.takeLetters (c :: s) p
  | _ => takeValue arg p

/-- Take all arguments.  After an argument of two dashes no option may follow, so nothing may. -/
def takeArguments : List String → Parsing ι σ → Except Interruption (Parsing ι σ)
  | [], p => g.resolve p
  | arg :: rest, p =>
    if arg = "--" then
      match rest with
      | [] => g.resolve p
      | next :: _ => wrong (.unexpected next)
    else (g.takeArgument arg p).bind fun p => takeArguments rest p

/-- Take the value of an option that was not given from elsewhere, if there is one. -/
def fallBack (name : ι) (value : Option String) (p : Parsing ι σ) :
    Except Interruption (Parsing ι σ) :=
  if name ∈ p.given then .ok p
  else
    match value, g.named? name with
    | some v, some o => g.react name o (some v) p
    | _, _ => .ok p

/-- Parse a command line from a state. -/
def parse (start : σ) (args : List String) : Except Interruption (Parsing ι σ) :=
  g.takeArguments args ⟨start, [], none⟩

end Grammar

end HashReplay.CommandLine
