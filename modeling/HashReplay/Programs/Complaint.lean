import HashReplay.Programs.Basic

/-!
# Names in complaints

How small programs write arguments and names of files into what they complain about: an argument stands
between quotes, the name of a file as one would give it to a shell.

## Main definitions

* `quotedArgument` — an argument between quotes.
* `fileName` — the name of a file as a word of a shell.
-/

namespace HashReplay.Programs.Complaint

/-- A byte that is printable. -/
def isPlain (c : Char) : Bool := ' ' ≤ c && c ≤ '~'

/-- The letters for some bytes that are not printable. -/
def letters : List (Char × Char) :=
  [('\x07', 'a'), ('\x08', 'b'), ('\t', 't'), ('\n', 'n'), ('\x0b', 'v'), ('\x0c', 'f'), ('\r', 'r')]

/-- A byte that is not printable, by its letter or by its code in octal. -/
def escaped (c : Char) : Bytes :=
  match letters.lookup c with
  | some letter => ['\\', letter]
  | none =>
    let digit (n : Nat) : Char := Char.ofNat ('0'.toNat + n % 8)
    ['\\', digit (c.toNat / 64), digit (c.toNat / 8), digit c.toNat]

/-- An argument between quotes. -/
def quotedArgument (arg : Bytes) : Bytes :=
  let shown (c : Char) : Bytes :=
    if c = '\'' ∨ c = '\\' then ['\\', c] else if isPlain c then [c] else escaped c
  '\'' :: arg.flatMap shown ++ ['\'']

/-- Whether a shell would make something else of a name without quotes. -/
def needsQuotes (name : Bytes) : Bool :=
  let special : Bytes := " !\"$&'()*:;<=>?[\\^\x60|".toList
  let opening := (name.head?.map fun c => c = '#' || c = '~').getD false
  name.isEmpty || opening || name = ['\x7b'] || name = ['\x7d'] ||
    name.any fun c => special.contains c || !isPlain c

/-- Whether a name can as well stand between double quotes, as nothing in it means anything there and not
much of it means anything elsewhere. -/
def isTame (name : Bytes) : Bool :=
  let tame (c : Char) : Bool := c.isAlphanum || " %'+,-./:@]_".toList.contains c
  match name with
  | [] => true
  | c :: s => (tame c || c = '#' || c = '~') && s.all tame

/-- A name after an opening quote, or in a stretch of bytes that are not printable. -/
def quotedFrom : Bool → Bytes → Bytes
  | _, [] => ['\'']
  | inStretch, c :: s =>
    if c = '\'' then "'\\''".toList ++ quotedFrom false s
    else if isPlain c then (if inStretch then "''".toList else []) ++ c :: quotedFrom false s
    else (if inStretch then [] else "'$'".toList) ++ escaped c ++ quotedFrom true s

/-- The name of a file as a word of a shell. -/
def fileName (name : Bytes) : Bytes :=
  if !needsQuotes name then name
  else if name.contains '\'' && isTame name then '"' :: name ++ ['"']
  else '\'' :: quotedFrom false name

end HashReplay.Programs.Complaint
