import HashReplay.Programs.Shell.Script

/-!
# Arithmetic

The expressions between double parentheses.  Their numbers are signed words of 64 bits.

## Main definitions

* `Expression` — an expression.
* `parse` — the expression of a text.
* `Expression.evaluate` — its value, given how variables are looked up and set.
-/

namespace HashReplay.Programs.Shell.Arithmetic

/-- What goes wrong in an expression. -/
inductive Fault where
  | expectingPrimary
  | expectingEnd
  | expectingParenthesis
  | expectingColon
  | divisionByZero
  deriving DecidableEq, Repr

/-- The wording of a fault in an expression. -/
def Fault.message (expression : Bytes) (f : Fault) : Bytes :=
  let text :=
    match f with
    | .expectingPrimary => "expecting primary"
    | .expectingEnd => "expecting EOF"
    | .expectingParenthesis => "expecting ')'"
    | .expectingColon => "expecting ':'"
    | .divisionByZero => "division by zero"
  "arithmetic expression: ".toList ++ text.toList ++ ": \"".toList ++ expression ++ "\"".toList

/-- The operators that have two operands and need the values of both. -/
inductive Operator where
  | add
  | subtract
  | multiply
  | divide
  | remainder
  | shiftLeft
  | shiftRight
  | less
  | lessOrEqual
  | greater
  | greaterOrEqual
  | equal
  | different
  | bitAnd
  | bitOr
  | bitXor
  deriving DecidableEq, Repr

/-- The operators that have one operand. -/
inductive Sign where
  | minus
  | not
  | complement
  deriving DecidableEq, Repr

/-- An expression. -/
inductive Expression where
  | number (n : Int)
  | named (name : Bytes)
  | signed (s : Sign) (e : Expression)
  | binary (o : Operator) (a b : Expression)
  | both (a b : Expression)
  | either (a b : Expression)
  | choice (test a b : Expression)
  | assign (name : Bytes) (o : Option Operator) (e : Expression)

/-! ### Numbers -/

/-- A number as it is kept in a word. -/
def wrap (n : Int) : Int := Int.bmod n 18446744073709551616

/-- The greatest number. -/
def greatest : Int := 9223372036854775807

/-- A truth value as a number. -/
def ofBool (b : Bool) : Int := if b then 1 else 0

/-- The bits of a number. -/
def bits (n : Int) : Nat := (n % 18446744073709551616).toNat

/-- The value of digits in a base. -/
def valueIn (base : Nat) (digit : Char → Nat) (s : Bytes) : Int :=
  min greatest (Int.ofNat (s.foldl (fun n c => n * base + digit c) 0))

/-- The value of a digit, also of one beyond nine. -/
def digitValue (c : Char) : Nat :=
  if c.isDigit then c.toNat - '0'.toNat else c.toLower.toNat - 'a'.toNat + 10

/-- Whether a character is a digit in base sixteen. -/
def isHexDigit (c : Char) : Bool := c.isDigit || ('a' ≤ c.toLower && c.toLower ≤ 'f')

/-- Whether a character is a digit in base eight. -/
def isOctalDigit (c : Char) : Bool := '0' ≤ c && c ≤ '7'

/-- The number at the start of a text, and what follows it. -/
def readNumber (s : Bytes) : Int × Bytes :=
  match s with
  | '0' :: x :: t =>
    if (x = 'x' ∨ x = 'X') ∧ (t.head?.map isHexDigit).getD false then
      (valueIn 16 digitValue (t.takeWhile isHexDigit), t.dropWhile isHexDigit)
    else (valueIn 8 digitValue (s.takeWhile isOctalDigit), s.dropWhile isOctalDigit)
  | _ => (valueIn 10 digitValue (s.takeWhile Char.isDigit), s.dropWhile Char.isDigit)

/-! ### Tokens -/

/-- A token of an expression. -/
inductive Token where
  | number (n : Int)
  | name (s : Bytes)
  | mark (s : String)
  /-- A character that means nothing. -/
  | other
  deriving DecidableEq, Repr

/-- The marks, longer ones before those with which they start. -/
def marks : List String :=
  ["<<=", ">>=", "<<", ">>", "<=", ">=", "==", "!=", "&&", "||", "+=", "-=", "*=", "/=", "%=", "&=",
    "^=", "|=", "<", ">", "+", "-", "*", "/", "%", "&", "^", "|", "!", "~", "?", ":", "=", "(", ")"]

/-- The tokens of a text.  `fuel` bounds the number of characters. -/
def tokensWith : Nat → Bytes → List Token
  | 0, _ => []
  | _ + 1, [] => []
  | fuel + 1, c :: s =>
    if c = ' ' ∨ c = '\t' ∨ c = '\n' then tokensWith fuel s
    else if c.isDigit then
      let (n, rest) := readNumber (c :: s)
      .number n :: tokensWith fuel rest
    else if startsName c then
      .name ((c :: s).takeWhile isNameChar) :: tokensWith fuel ((c :: s).dropWhile isNameChar)
    else
      match marks.find? fun m => m.toList.isPrefixOf (c :: s) with
      | some m => .mark m :: tokensWith fuel ((c :: s).drop m.length)
      | none => .other :: tokensWith fuel s

/-! ### Parsing -/

/-- An operator by its mark, and how tightly it binds. -/
def operator? (mark : String) : Option (Operator × Nat) :=
  match mark with
  | "|" => some (.bitOr, 3)
  | "^" => some (.bitXor, 4)
  | "&" => some (.bitAnd, 5)
  | "==" => some (.equal, 6)
  | "!=" => some (.different, 6)
  | "<" => some (.less, 7)
  | "<=" => some (.lessOrEqual, 7)
  | ">" => some (.greater, 7)
  | ">=" => some (.greaterOrEqual, 7)
  | "<<" => some (.shiftLeft, 8)
  | ">>" => some (.shiftRight, 8)
  | "+" => some (.add, 9)
  | "-" => some (.subtract, 9)
  | "*" => some (.multiply, 10)
  | "/" => some (.divide, 10)
  | "%" => some (.remainder, 10)
  | _ => none

/-- What makes an expression of two operands, by a mark, and how tightly the mark binds. -/
def joint? (mark : String) : Option ((Expression → Expression → Expression) × Nat) :=
  match mark with
  | "||" => some (.either, 1)
  | "&&" => some (.both, 2)
  | _ => (operator? mark).map fun (o, level) => (.binary o, level)

/-- The operator of an assignment by its mark; none for the plain one. -/
def assignment? (mark : String) : Option (Option Operator) :=
  match mark with
  | "=" => some none
  | "+=" => some (some .add)
  | "-=" => some (some .subtract)
  | "*=" => some (some .multiply)
  | "/=" => some (some .divide)
  | "%=" => some (some .remainder)
  | "<<=" => some (some .shiftLeft)
  | ">>=" => some (some .shiftRight)
  | "&=" => some (some .bitAnd)
  | "^=" => some (some .bitXor)
  | "|=" => some (some .bitOr)
  | _ => none

/-- What is read of tokens, and the tokens that are left. -/
abbrev Parsed (α : Type) := Except Fault (α × List Token)

mutual

/-- Parse an assignment or a choice.  In all parsers, `fuel` bounds how deep they call each other. -/
def parseAssignment : Nat → List Token → Parsed Expression
  | 0, _ => .error .expectingPrimary
  | fuel + 1, ts =>
    match ts with
    | .name x :: .mark m :: rest =>
      match assignment? m with
      | some o =>
        match parseAssignment fuel rest with
        | .error e => .error e
        | .ok (e, rest) => .ok (.assign x o e, rest)
      | none => parseChoice fuel ts
    | _ => parseChoice fuel ts

/-- Parse a choice or what has no choice outside parentheses. -/
def parseChoice : Nat → List Token → Parsed Expression
  | 0, _ => .error .expectingPrimary
  | fuel + 1, ts =>
    match parseLevel fuel 1 ts with
    | .error e => .error e
    | .ok (test, .mark "?" :: rest) =>
      match parseAssignment fuel rest with
      | .error e => .error e
      | .ok (a, .mark ":" :: rest) =>
        match parseChoice fuel rest with
        | .error e => .error e
        | .ok (b, rest) => .ok (.choice test a b, rest)
      | .ok _ => .error .expectingColon
    | .ok done => .ok done

/-- Parse operands that are joined by operators which bind at least as tightly as a level. -/
def parseLevel : Nat → Nat → List Token → Parsed Expression
  | 0, _, _ => .error .expectingPrimary
  | fuel + 1, level, ts =>
    match parsePrimary fuel ts with
    | .error e => .error e
    | .ok (a, rest) => parseFurther fuel level a rest

/-- Parse further operands after one. -/
def parseFurther : Nat → Nat → Expression → List Token → Parsed Expression
  | 0, _, a, ts => .ok (a, ts)
  | fuel + 1, level, a, ts =>
    match ts with
    | .mark m :: rest =>
      match joint? m with
      | some (join, tightness) =>
        if tightness < level then .ok (a, ts)
        else
          match parseLevel fuel (tightness + 1) rest with
          | .error e => .error e
          | .ok (b, rest) => parseFurther fuel level (join a b) rest
      | none => .ok (a, ts)
    | _ => .ok (a, ts)

/-- Parse an operand. -/
def parsePrimary : Nat → List Token → Parsed Expression
  | 0, _ => .error .expectingPrimary
  | fuel + 1, ts =>
    let signed (s : Sign) (rest : List Token) : Parsed Expression :=
      match parsePrimary fuel rest with
      | .error e => .error e
      | .ok (e, rest) => .ok (.signed s e, rest)
    match ts with
    | .number n :: rest => .ok (.number n, rest)
    | .name x :: rest => .ok (.named x, rest)
    | .mark "+" :: rest => parsePrimary fuel rest
    | .mark "-" :: rest => signed .minus rest
    | .mark "!" :: rest => signed .not rest
    | .mark "~" :: rest => signed .complement rest
    | .mark "(" :: rest =>
      match parseAssignment fuel rest with
      | .error e => .error e
      | .ok (e, .mark ")" :: rest) => .ok (e, rest)
      | .ok _ => .error .expectingParenthesis
    | _ => .error .expectingPrimary

end

/-- The expression of a text. -/
def parse (text : Bytes) : Except Fault Expression :=
  match parseAssignment (8 * text.length + 16) (tokensWith (text.length + 1) text) with
  | .error e => .error e
  | .ok (e, []) => .ok e
  | .ok _ => .error .expectingEnd

/-! ### Evaluation -/

/-- The value of an operator at two operands; none for a division by zero. -/
def Operator.apply (o : Operator) (a b : Int) : Option Int :=
  match o with
  | .add => some (wrap (a + b))
  | .subtract => some (wrap (a - b))
  | .multiply => some (wrap (a * b))
  | .divide => if b = 0 then none else some (wrap (Int.tdiv a b))
  | .remainder => if b = 0 then none else some (wrap (Int.tmod a b))
  | .shiftLeft => some (wrap (a * Int.ofNat (Nat.pow 2 (bits b % 64))))
  | .shiftRight => some (Int.fdiv a (Int.ofNat (Nat.pow 2 (bits b % 64))))
  | .less => some (ofBool (a < b))
  | .lessOrEqual => some (ofBool (a ≤ b))
  | .greater => some (ofBool (b < a))
  | .greaterOrEqual => some (ofBool (b ≤ a))
  | .equal => some (ofBool (a = b))
  | .different => some (ofBool (a ≠ b))
  | .bitAnd => some (wrap (Int.ofNat (bits a &&& bits b)))
  | .bitOr => some (wrap (Int.ofNat (bits a ||| bits b)))
  | .bitXor => some (wrap (Int.ofNat (bits a ^^^ bits b)))

/-- The value of a sign at an operand. -/
def Sign.apply (s : Sign) (a : Int) : Int :=
  match s with
  | .minus => wrap (-a)
  | .not => ofBool (a = 0)
  | .complement => -a - 1

/-- What an expression needs to know: how a variable is looked up and set, and what becomes of a
division by zero. -/
structure Bindings (m : Type → Type) where
  lookUp : Bytes → m Int
  set : Bytes → Int → m Unit
  undefined : m Int

/-- The value of an expression. -/
def Expression.evaluate [Monad m] (v : Bindings m) : Expression → m Int
  | .number n => pure n
  | .named x => v.lookUp x
  | .signed s e => do return s.apply (← e.evaluate v)
  | .binary o a b => do
    let x ← a.evaluate v
    let y ← b.evaluate v
    match o.apply x y with
    | some z => return z
    | none => v.undefined
  | .both a b => do
    if (← a.evaluate v) = 0 then return 0
    else return ofBool ((← b.evaluate v) != 0)
  | .either a b => do
    if (← a.evaluate v) != 0 then return 1
    else return ofBool ((← b.evaluate v) != 0)
  | .choice test a b => do
    if (← test.evaluate v) != 0 then a.evaluate v else b.evaluate v
  | .assign x none e => do
    let n ← e.evaluate v
    v.set x n
    return n
  | .assign x (some o) e => do
    let y ← e.evaluate v
    let old ← v.lookUp x
    match o.apply old y with
    | some n =>
      v.set x n
      return n
    | none => v.undefined

end HashReplay.Programs.Shell.Arithmetic
