import HashReplay.Json.Head

/-!
# Reading JSON

A reader takes a value from the front of a text and gives what follows it.  Values are read as they
come: the first thing that is wrong decides the error, be it a fault of the text or a value of the
wrong kind, even if the text has a fault later on.

Objects and arrays are read through a state: for an object, each member is given to a step that may
take the value or pass over it; an array is taken element by element.

## Main definitions

* `readHead` — a simple value, or the opening bracket of a compound one.
* `readValue` — a whole value, of which only the head is kept; nesting is limited.
* `skipValue` — a whole value, passed over with the least of checks.
* `readMembers` — the members of an object.
* `nextElement`, `endArray` — the elements of an array.
* `readWord`, `readFloat`, `readString`, `readStrings` — values of a given kind.
* `complete` — a text that holds one value and nothing else.
-/

namespace HashReplay.Json

/-- What reading gives: a value and the text after it. -/
abbrev Result (α : Type) := Except ReadError (α × List Char)

/-- A fault of the text. -/
def fail (f : Fault) : Except ReadError α := .error (.fault f)

/-- A value that is not as expected. -/
def reject (e : DataError) : Except ReadError α := .error (.data e)

/-- A fault, as an error of reading. -/
def ofFault : Except Fault α → Except ReadError α
  | .ok a => .ok a
  | .error f => .error (.fault f)

/-! ### Blanks and literals -/

/-- The blanks of JSON. -/
def isSpace (c : Char) : Bool := c == ' ' || c == '\n' || c == '\t' || c == '\r'

/-- Without the blanks in front. -/
def skipSpace (s : List Char) : List Char := s.dropWhile isSpace

/-- Read the characters of a literal. -/
def literal : List Char → List Char → Except Fault (List Char)
  | [], s => .ok s
  | _ :: _, [] => .error .truncated
  | p :: ps, c :: s => if p = c then literal ps s else .error .malformed

/-! ### Heads -/

/-- Read a number as a value. -/
def readNumeral (s : List Char) : Result Numeral :=
  match Lexeme.read s with
  | .error f => fail f
  | .ok (l, rest) =>
    match l.numeral? with
    | none => fail .malformed
    | some n => .ok (n, rest)

/-- Read a simple value, or the opening bracket of a compound one. -/
def readHead (s : List Char) : Result Head :=
  match skipSpace s with
  | [] => fail .truncated
  | c :: t =>
    if c = 'n' then (ofFault (literal ['u', 'l', 'l'] t)).map fun r => (.null, r)
    else if c = 't' then (ofFault (literal ['r', 'u', 'e'] t)).map fun r => (.boolean true, r)
    else if c = 'f' then (ofFault (literal ['a', 'l', 's', 'e'] t)).map fun r => (.boolean false, r)
    else if c = '-' ∨ c.isDigit then (readNumeral (c :: t)).map fun (n, r) => (.numeral n, r)
    else if c = '"' then (ofFault (readText t)).map fun (x, r) => (.text x, r)
    else if c = '[' then .ok (.array, t)
    else if c = '\x7b' then .ok (.object, t)
    else fail .malformed

/-! ### Passing over values -/

/-- Read the name of a member, up to and with the colon. -/
def skipName (s : List Char) : Except Fault (List Char) :=
  match skipSpace s with
  | [] => .error .truncated
  | c :: t =>
    if c = '"' then
      match skipText t with
      | .error f => .error f
      | .ok r =>
        match skipSpace r with
        | [] => .error .truncated
        | d :: u => if d = ':' then .ok u else .error .malformed
    else .error .malformed

/-- What stands open around a place in a text, the innermost first. -/
inductive Open where
  | array
  | object
  deriving DecidableEq, Repr

/-- The closing bracket. -/
def Open.close : Open → Char
  | .array => ']'
  | .object => '\x7d'

/-- After a value inside the brackets `stack`: close brackets as long as they are closed here, and go on
to the next value after a comma.  The answer is the text after the outermost closing bracket, or the
text of the next value with what is open around it.  `fuel` bounds the number of brackets. -/
def skipClosers : Nat → List Open → List Char → Except Fault (List Open × List Char)
  | _, [], s => .ok ([], s)
  | 0, _ :: _, _ => .error .truncated
  | fuel + 1, o :: stack, s =>
    match skipSpace s with
    | [] => .error .truncated
    | c :: t =>
      if c = o.close then skipClosers fuel stack t
      else if c = ',' then
        match o with
        | .array => .ok (o :: stack, t)
        | .object => (skipName t).map fun u => (o :: stack, u)
      else .error .malformed

/-- After an opening bracket: the text of the first value in it, or of what follows the brackets if
there is none. -/
def skipOpened (o : Open) (s : List Char) : Except Fault (Bool × List Char) :=
  match skipSpace s with
  | [] => .error .truncated
  | c :: t =>
    if c = o.close then .ok (false, t)
    else
      match o with
      | .array => .ok (true, c :: t)
      | .object => (skipName (c :: t)).map fun u => (true, u)

/-- Pass over a value inside the brackets `stack`, and over all that is needed to close them.  `fuel`
bounds the number of values. -/
def skipFrom : Nat → List Open → List Char → Except Fault (List Char)
  | 0, _, _ => .error .truncated
  | fuel + 1, stack, s =>
    let onward (t : List Char) : Except Fault (List Char) :=
      match skipClosers (t.length + 1) stack t with
      | .error f => .error f
      | .ok ([], u) => .ok u
      | .ok (o :: stack', u) => skipFrom fuel (o :: stack') u
    let bracket (o : Open) (t : List Char) : Except Fault (List Char) :=
      match skipOpened o t with
      | .error f => .error f
      | .ok (true, u) => skipFrom fuel (o :: stack) u
      | .ok (false, u) => onward u
    match skipSpace s with
    | [] => .error .truncated
    | c :: t =>
      if c = 'n' then (literal ['u', 'l', 'l'] t).bind onward
      else if c = 't' then (literal ['r', 'u', 'e'] t).bind onward
      else if c = 'f' then (literal ['a', 'l', 's', 'e'] t).bind onward
      else if c = '-' ∨ c.isDigit then (skipNumber (c :: t)).bind onward
      else if c = '"' then (skipText t).bind onward
      else if c = '[' then bracket .array t
      else if c = '\x7b' then bracket .object t
      else .error .malformed

/-- Pass over a value.  Numbers may have any size and codes in texts need not be those of
characters. -/
def skipValue (s : List Char) : Except ReadError (List Char) :=
  ofFault (skipFrom (s.length + 1) [] s)

/-! ### Members -/

/-- Read the name of the next member, up to the colon and without it; none at the closing brace, which
is not taken. -/
def nextName (first : Bool) (s : List Char) : Result (Option (List Char)) :=
  let name (t : List Char) : Result (Option (List Char)) :=
    match t with
    | [] => fail .truncated
    | c :: u =>
      if c = '"' then (ofFault (readText u)).map fun (x, r) => (some x, r) else fail .malformed
  match skipSpace s with
  | [] => fail .truncated
  | c :: t =>
    if c = '\x7d' then .ok (none, c :: t)
    else if first then name (c :: t)
    else if c = ',' then name (skipSpace t)
    else fail .malformed

/-- Read the colon after a name. -/
def colon (s : List Char) : Except ReadError (List Char) :=
  match skipSpace s with
  | [] => fail .truncated
  | c :: t => if c = ':' then .ok t else fail .malformed

/-- Read the brace that closes an object. -/
def endObject (s : List Char) : Except ReadError (List Char) :=
  match skipSpace s with
  | [] => fail .truncated
  | c :: t => if c = '\x7d' then .ok t else fail .malformed

/-- Read the members of an object up to the closing brace.  The step gets the name of each member and
the text from its colon on. -/
def readMembers (step : List Char → σ → List Char → Result σ) :
    Nat → Bool → σ → List Char → Result σ
  | 0, _, _, _ => fail .truncated
  | fuel + 1, first, state, s =>
    match nextName first s with
    | .error e => .error e
    | .ok (none, r) => .ok (state, r)
    | .ok (some name, r) =>
      match step name state r with
      | .error e => .error e
      | .ok (state', r') => readMembers step fuel false state' r'

/-- Read a member's value. -/
def memberValue (read : List Char → Result α) (s : List Char) : Result α :=
  match colon s with
  | .error e => .error e
  | .ok t => read t

/-- Pass over a member's value. -/
def skipMember (state : σ) (s : List Char) : Result σ :=
  match colon s with
  | .error e => .error e
  | .ok t => (skipValue t).map fun r => (state, r)

/-- Read the members of an object after its opening brace, and the closing brace; `finish` makes a value
of the state before the closing brace is taken. -/
def readObject (step : List Char → σ → List Char → Result σ) (finish : σ → Except DataError α)
    (start : σ) (s : List Char) : Result α :=
  match readMembers step (s.length + 1) true start s with
  | .error e => .error e
  | .ok (state, r) =>
    match finish state with
    | .error e => reject e
    | .ok a => (endObject r).map fun r' => (a, r')

/-! ### Elements -/

/-- Go to the next element of an array: the text of the element, or none at the closing bracket, which
is not taken. -/
def nextElement (first : Bool) (s : List Char) : Except ReadError (Option (List Char)) :=
  match skipSpace s with
  | [] => fail .truncated
  | c :: t =>
    if c = ']' then .ok none
    else if first then .ok (some (c :: t))
    else if c = ',' then
      match skipSpace t with
      | [] => fail .truncated
      | d :: u => if d = ']' then fail .malformed else .ok (some (d :: u))
    else fail .malformed

/-- Read the bracket that closes an array.  Anything else there is a fault, also a comma at the end of
the text. -/
def endArray (s : List Char) : Except ReadError (List Char) :=
  match skipSpace s with
  | [] => fail .truncated
  | c :: t => if c = ']' then .ok t else fail .malformed

/-- Read the element at place `index`, which has to be there. -/
def element (index : Nat) (expected : String) (read : List Char → Result α) (s : List Char) :
    Result α :=
  match nextElement (index == 0) s with
  | .error e => .error e
  | .ok none => reject (.invalidLength index expected)
  | .ok (some t) => read t

/-- Read all elements of an array up to its closing bracket. -/
def readElements (read : List Char → Result α) : Nat → Bool → List Char → Result (List α)
  | 0, _, _ => fail .truncated
  | fuel + 1, first, s =>
    match nextElement first s with
    | .error e => .error e
    | .ok none => .ok ([], s)
    | .ok (some t) =>
      match read t with
      | .error e => .error e
      | .ok (a, r) => (readElements read fuel false r).map fun (as, r') => (a :: as, r')

/-! ### Values of a given kind -/

/-- The greatest word of `bits` bits. -/
def greatest (bits : Nat) : Nat := Nat.pow 2 bits - 1

/-- Read an unsigned integer of a number of bits; `expected` names it. -/
def readWord (bits : Nat) (expected : String) (s : List Char) : Result Nat :=
  match readHead s with
  | .error e => .error e
  | .ok (.numeral n, r) =>
    match n with
    | .natural k => if k ≤ greatest bits then .ok (k, r) else reject (.invalidValue n expected)
    | .negative _ => reject (.invalidValue n expected)
    | .float _ => reject (.invalidType (.numeral n) expected)
  | .ok (h, _) => reject (.invalidType h expected)

/-- Read any number as floating point. -/
def readFloat (s : List Char) : Result Binary64.Number :=
  match readHead s with
  | .error e => .error e
  | .ok (.numeral n, r) => .ok (n.toNumber, r)
  | .ok (h, _) => reject (.invalidType h "f64")

/-- Read a text. -/
def readString (s : List Char) : Result String :=
  match readHead s with
  | .error e => .error e
  | .ok (.text x, r) => .ok (String.ofList x, r)
  | .ok (h, _) => reject (.invalidType h "a string")

/-- Read an array of texts. -/
def readStrings (s : List Char) : Result (List String) :=
  match readHead s with
  | .error e => .error e
  | .ok (.array, t) =>
    match readElements readString (t.length + 1) true t with
    | .error e => .error e
    | .ok (xs, r) => (endArray r).map fun r' => (xs, r')
  | .ok (h, _) => reject (.invalidType h "a sequence")

/-! ### Whole values of any kind -/

mutual

/-- Read a whole value of which only the head is kept.  `depth` is how many levels of nesting are left;
the last one must not be used. -/
def readValue : Nat → Nat → List Char → Result Head
  | 0, _, _ => fail .truncated
  | fuel + 1, depth, s =>
    match readHead s with
    | .error e => .error e
    | .ok (.array, t) =>
      if depth ≤ 1 then fail .malformed
      else
        match readValues fuel (depth - 1) true t with
        | .error e => .error e
        | .ok r => (endArray r).map fun r' => (.array, r')
    | .ok (.object, t) =>
      if depth ≤ 1 then fail .malformed
      else
        match readNamedValues fuel (depth - 1) true t with
        | .error e => .error e
        | .ok r => (endObject r).map fun r' => (.object, r')
    | .ok (h, t) => .ok (h, t)

/-- Read the elements of an array of any values. -/
def readValues : Nat → Nat → Bool → List Char → Except ReadError (List Char)
  | 0, _, _, _ => fail .truncated
  | fuel + 1, depth, first, s =>
    match nextElement first s with
    | .error e => .error e
    | .ok none => .ok s
    | .ok (some t) =>
      match readValue fuel depth t with
      | .error e => .error e
      | .ok (_, r) => readValues fuel depth false r

/-- Read the members of an object of any values. -/
def readNamedValues : Nat → Nat → Bool → List Char → Except ReadError (List Char)
  | 0, _, _, _ => fail .truncated
  | fuel + 1, depth, first, s =>
    match nextName first s with
    | .error e => .error e
    | .ok (none, r) => .ok r
    | .ok (some _, r) =>
      match colon r with
      | .error e => .error e
      | .ok t =>
        match readValue fuel depth t with
        | .error e => .error e
        | .ok (_, r') => readNamedValues fuel depth false r'

end

/-- Read a whole value of which only the head is kept, within `depth` levels of nesting. -/
def readAny (depth : Nat) (s : List Char) : Result Head := readValue (2 * s.length + 2) depth s

/-! ### Whole texts -/

/-- Read a text that holds one value and nothing else. -/
def complete (read : List Char → Result α) (s : List Char) : Except ReadError α :=
  match read s with
  | .error e => .error e
  | .ok (a, r) => if (skipSpace r).isEmpty then .ok a else fail .malformed

end HashReplay.Json
