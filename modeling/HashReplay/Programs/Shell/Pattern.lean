import HashReplay.Programs.Basic

/-!
# Patterns

A pattern matches whole texts: a star stands for any text, a question mark for any character, and
brackets for one of several characters.  A quoted character stands for itself.

## Main definitions

* `Glyph` — a character of a pattern, which may be quoted.
* `Element`, `elements` — what a pattern is made of.
* `matchesText` — whether a pattern matches a text.
* `trimStart`, `trimEnd` — a text without what a pattern matches at one of its ends.
* `paths` — the paths that a pattern matches.
-/

namespace HashReplay.Programs.Shell.Pattern

/-- A character, which may be quoted. -/
structure Glyph where
  char : Char
  quoted : Bool
  deriving DecidableEq, Repr

/-- A set of characters. -/
inductive Member where
  | range (first last : Char)
  | named (name : Bytes)
  deriving DecidableEq, Repr

/-- What a pattern is made of. -/
inductive Element where
  | char (c : Char)
  | anyChar
  | anyText
  | oneOf (negated : Bool) (members : List Member)
  deriving DecidableEq, Repr

/-! ### Reading patterns -/

/-- Whether a glyph is an unquoted character. -/
def Glyph.is (c : Char) (g : Glyph) : Bool := !g.quoted && g.char == c

/-- Read the name of a class of characters, after its opening bracket and colon. -/
def readClass : List Glyph → Option (Bytes × List Glyph)
  | [] => none
  | [_] => none
  | g :: h :: p =>
    if g.char = ':' ∧ h.char = ']' then some ([], p)
    else if g.char.isAlpha then (readClass (h :: p)).map fun (name, rest) => (g.char :: name, rest)
    else none

/-- Read what stands in brackets, up to the closing one.  `fuel` bounds the number of members. -/
def readMembers : Nat → Bool → List Glyph → Option (List Member × List Glyph)
  | 0, _, _ => none
  | _ + 1, _, [] => none
  | fuel + 1, isFirst, g :: p =>
    let single (rest : List Glyph) : Option (List Member × List Glyph) :=
      match rest with
      | dash :: last :: rest =>
        if dash.is '-' && !last.is ']' then
          (readMembers fuel false rest).map fun (ms, r) => (.range g.char last.char :: ms, r)
        else
          (readMembers fuel false (dash :: last :: rest)).map fun (ms, r) =>
            (.range g.char g.char :: ms, r)
      | rest => (readMembers fuel false rest).map fun (ms, r) => (.range g.char g.char :: ms, r)
    if g.is ']' && !isFirst then some ([], p)
    else
      match p with
      | colon :: rest =>
        if g.is '[' && colon.is ':' then
          match readClass rest with
          | some (name, rest) =>
            (readMembers fuel false rest).map fun (ms, r) => (.named name :: ms, r)
          | none => single p
        else single p
      | [] => single p

/-- Read brackets after the opening one. -/
def readBrackets (p : List Glyph) : Option (Element × List Glyph) :=
  let negated := (p.head?.map fun g => g.is '!').getD false
  (readMembers (p.length + 1) true (if negated then p.drop 1 else p)).map fun (ms, r) =>
    (.oneOf negated ms, r)

/-- What a pattern is made of.  `fuel` bounds the number of characters. -/
def elementsWith : Nat → List Glyph → List Element
  | 0, _ => []
  | _ + 1, [] => []
  | fuel + 1, g :: p =>
    if g.is '*' then .anyText :: elementsWith fuel p
    else if g.is '?' then .anyChar :: elementsWith fuel p
    else if g.is '[' then
      match readBrackets p with
      | some (e, rest) => e :: elementsWith fuel rest
      | none => .char '[' :: elementsWith fuel p
    else if g.is '\\' then
      match p with
      | h :: rest => .char h.char :: elementsWith fuel rest
      | [] => [.char '\\']
    else .char g.char :: elementsWith fuel p

/-- What a pattern is made of. -/
def elements (p : List Glyph) : List Element := elementsWith (p.length + 1) p

/-! ### Matching -/

/-- Whether a character is in a class with a name. -/
def inClass (name : Bytes) (c : Char) : Bool :=
  let isPunct := 0x21 ≤ c.toNat && c.toNat ≤ 0x7E && !c.isAlphanum
  match String.ofList name with
  | "alpha" => c.isAlpha
  | "digit" => c.isDigit
  | "alnum" => c.isAlphanum
  | "upper" => c.isUpper
  | "lower" => c.isLower
  | "space" => c = ' ' || (0x09 ≤ c.toNat && c.toNat ≤ 0x0D)
  | "blank" => c = ' ' || c = '\t'
  | "punct" => isPunct
  | "print" => c = ' ' || isPunct || c.isAlphanum
  | "graph" => isPunct || c.isAlphanum
  | "cntrl" => c.toNat < 0x20 || c.toNat = 0x7F
  | "xdigit" => c.isDigit || ('a' ≤ c.toLower && c.toLower ≤ 'f')
  | _ => false

/-- Whether a character is among the members. -/
def Member.holds (c : Char) : Member → Bool
  | .range first last => first ≤ c && c ≤ last
  | .named name => inClass name c

/-- Whether an element that stands for one character stands for `c`. -/
def Element.standsFor (c : Char) : Element → Bool
  | .char d => c == d
  | .anyChar => true
  | .anyText => false
  | .oneOf negated members => members.any (Member.holds c) != negated

/-- Whether some end of a text satisfies a test. -/
def someTail (test : Bytes → Bool) : Bytes → Bool
  | [] => test []
  | c :: s => test (c :: s) || someTail test s

/-- Whether elements match a text. -/
def matchesText : List Element → Bytes → Bool
  | [], s => s.isEmpty
  | .anyText :: es, s => someTail (matchesText es) s
  | _ :: _, [] => false
  | e :: es, c :: s => e.standsFor c && matchesText es s

/-! ### Trimming -/

/-- How many characters at the start of a text a pattern matches; the most, or the fewest. -/
def startLength? (longest : Bool) (es : List Element) (s : Bytes) : Option Nat :=
  let sizes := List.range (s.length + 1)
  (if longest then sizes.reverse else sizes).find? fun n => matchesText es (s.take n)

/-- A text without what a pattern matches at its start. -/
def trimStart (longest : Bool) (es : List Element) (s : Bytes) : Bytes :=
  match startLength? longest es s with
  | some n => s.drop n
  | none => s

/-- A text without what a pattern matches at its end. -/
def trimEnd (longest : Bool) (es : List Element) (s : Bytes) : Bytes :=
  let sizes := List.range (s.length + 1)
  match (if longest then sizes else sizes.reverse).find? fun n => matchesText es (s.drop n) with
  | some n => s.take n
  | none => s

/-! ### Paths -/

/-- Whether a pattern has anything that does not stand for itself. -/
def isMagic (p : List Glyph) : Bool := p.any fun g => g.is '*' || g.is '?' || g.is '['

/-- Cut a pattern at its slashes. -/
def segments : List Glyph → List (List Glyph)
  | [] => [[]]
  | g :: p =>
    if g.char = '/' then [] :: segments p
    else
      match segments p with
      | [] => [[g]]
      | s :: ss => (g :: s) :: ss

/-- The characters of a pattern. -/
def plain (p : List Glyph) : Bytes := p.map Glyph.char

/-- The names in a directory that a segment matches.  A name that starts with a point is matched only by
a segment that does; among these names are those of the directory itself and of the one that it is in. -/
def namesFor (fs : FileSystem) (directory : Bytes) (segment : List Glyph) : List Bytes :=
  let place := if directory.isEmpty then "." else directory.text
  let es := elements segment
  let isHidden (name : Bytes) : Bool := name.head? == some '.'
  let startsHidden := (segment.head?.map fun g => g.char == '.').getD false
  let names := (fs.namesIn (fs.absolute place)).map Bytes.ofString
  (['.'] :: ['.', '.'] :: names).filter fun name =>
    (!isHidden name || startsHidden) && matchesText es name

/-- Continue a path through the segments of a pattern. -/
def extendPaths (fs : FileSystem) : Bytes → List (List Glyph) → List Bytes
  | path, [] => if (fs.entryAt? path.text).isSome then [path] else []
  | path, segment :: rest =>
    let slash : Bytes := if rest.isEmpty then [] else ['/']
    if isMagic segment then
      (namesFor fs path segment).flatMap fun name => extendPaths fs (path ++ name ++ slash) rest
    else extendPaths fs (path ++ plain segment ++ slash) rest

/-- The paths that a pattern matches. -/
def paths (fs : FileSystem) (p : List Glyph) : List Bytes := extendPaths fs [] (segments p)

end HashReplay.Programs.Shell.Pattern
