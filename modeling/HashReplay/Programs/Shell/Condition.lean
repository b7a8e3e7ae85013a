import HashReplay.Programs.Shell.Expansion

/-!
# Conditions

What `test` finds out: whether texts are empty or equal, how numbers compare, and what is at a path.
With up to four arguments their number decides how they are read; with more they are read as an
expression with conjunctions, disjunctions and parentheses.

## Main definitions

* `Operator`, `Lexeme` — what an argument means at its place.
* `holds` — whether the condition of some arguments holds, or what is wrong with them.
-/

namespace HashReplay.Programs.Shell.Condition

/-- What an operator does. -/
inductive Operator where
  /-- It looks at one operand. -/
  | unary (letter : Char)
  /-- It compares two operands. -/
  | binary (name : String)
  | not
  | both
  | either
  | leftParenthesis
  | rightParenthesis
  deriving DecidableEq, Repr

/-- What an argument means at its place. -/
inductive Lexeme where
  | nothing
  | operand
  | operator (o : Operator)
  deriving DecidableEq, Repr

/-- The operators with two operands. -/
def comparisons : List String :=
  ["=", "!=", "<", ">", "-eq", "-ne", "-ge", "-gt", "-le", "-lt", "-nt", "-ot", "-ef"]

/-- The letters of the operators with one operand. -/
def letters : Bytes := "rwxefdcbpugkstznhOGLS".toList

/-- The operator that an argument is. -/
def operator? (arg : Bytes) : Option Operator :=
  match arg with
  | ['!'] => some .not
  | ['('] => some .leftParenthesis
  | [')'] => some .rightParenthesis
  | ['-', 'a'] => some .both
  | ['-', 'o'] => some .either
  | ['-', c] => if letters.contains c then some (.unary c) else none
  | _ => (comparisons.find? fun n => n.toList == arg).map .binary

/-- Whether an argument has two operands. -/
def isComparison (arg : Bytes) : Bool :=
  match operator? arg with
  | some (.binary _) => true
  | _ => false

/-- Whether an operator with one operand is an operand itself, given what follows it. -/
def isOperand : List Bytes → Bool
  | [] => true
  | [_] => false
  | next :: _ => isComparison next

/-- What the first argument means. -/
def lex : List Bytes → Lexeme
  | [] => .nothing
  | arg :: rest =>
    match operator? arg with
    | none => .operand
    | some (.unary c) => if isOperand rest then .operand else .operator (.unary c)
    | some .leftParenthesis => if rest.isEmpty then .operand else .operator .leftParenthesis
    | some o => .operator o

/-! ### Single conditions -/

/-- Whether an operator with one operand holds. -/
def holdsOf (fs : FileSystem) (letter : Char) (operand : Bytes) : Bool :=
  match letter, fs.entryAt? operand.text with
  | 'z', _ => operand.isEmpty
  | 'n', _ => !operand.isEmpty
  | _, none => false
  | 'e', some _ => true
  | 'r', some _ => true
  | 'O', some _ => true
  | 'G', some _ => true
  | 'f', some (.file _) => true
  | 'f', some (.program _) => true
  | 'd', some .directory => true
  | 'c', some .nullDevice => true
  | 'c', some .fullDevice => true
  | 's', some (.file bytes) => !bytes.isEmpty
  | 's', some (.program _) => true
  | 's', some .directory => true
  | 'x', some .directory => true
  | 'x', some (.program _) => true
  | 'w', some (.program _) => false
  | 'w', some _ => true
  | _, some _ => false

/-- The number that an operand must be. -/
def numberOf (operand : Bytes) : Except Bytes Int :=
  match numeral? false operand with
  | some n => .ok n
  | none => .error ("Illegal number: ".toList ++ operand)

/-- Whether one text comes before another one. -/
def comesBefore : Bytes → Bytes → Bool
  | _, [] => false
  | [], _ :: _ => true
  | a :: s, b :: t => a < b || (a == b && comesBefore s t)

/-- Whether two paths lead to the same entry. -/
def areSame (fs : FileSystem) (a b : Bytes) : Bool :=
  match fs.locate a.text, fs.locate b.text with
  | .ok (.found p _), .ok (.found q _) => p = q
  | _, _ => false

/-- Whether a comparison holds. -/
def compares (fs : FileSystem) (name : String) (a b : Bytes) : Except Bytes Bool :=
  let numbers (p : Int → Int → Bool) : Except Bytes Bool := do
    let x ← numberOf a
    let y ← numberOf b
    return p x y
  match name with
  | "=" => .ok (a = b)
  | "!=" => .ok (a ≠ b)
  | "<" => .ok (comesBefore a b)
  | ">" => .ok (comesBefore b a)
  | "-eq" => numbers fun x y => x = y
  | "-ne" => numbers fun x y => x ≠ y
  | "-ge" => numbers fun x y => y ≤ x
  | "-gt" => numbers fun x y => y < x
  | "-le" => numbers fun x y => x ≤ y
  | "-lt" => numbers fun x y => x < y
  | "-ef" => .ok (areSame fs a b)
  | _ => .ok false

/-! ### Expressions

Each reader answers whether its part holds, and the arguments from the last one that it took on. -/

mutual

/-- Read a disjunction.  In all readers, `fuel` bounds how deep they call each other. -/
def readEither (fs : FileSystem) : Nat → Lexeme → List Bytes → Except Bytes (Bool × List Bytes)
  | 0, _, ws => .ok (false, ws)
  | fuel + 1, l, ws => do
    let (a, ws) ← readBoth fs fuel l ws
    if lex (ws.drop 1) = .operator .either then
      let rest := ws.drop 2
      let (b, ws) ← readEither fs fuel (lex rest) rest
      return (a || b, ws)
    else return (a, ws)

/-- Read a conjunction. -/
def readBoth (fs : FileSystem) : Nat → Lexeme → List Bytes → Except Bytes (Bool × List Bytes)
  | 0, _, ws => .ok (false, ws)
  | fuel + 1, l, ws => do
    let (a, ws) ← readNot fs fuel l ws
    if lex (ws.drop 1) = .operator .both then
      let rest := ws.drop 2
      let (b, ws) ← readBoth fs fuel (lex rest) rest
      return (a && b, ws)
    else return (a, ws)

/-- Read a negation. -/
def readNot (fs : FileSystem) : Nat → Lexeme → List Bytes → Except Bytes (Bool × List Bytes)
  | 0, _, ws => .ok (false, ws)
  | fuel + 1, l, ws => do
    if l = .operator .not then
      let next := lex (ws.drop 1)
      let (a, ws) ← readNot fs fuel next (if next = .nothing then ws else ws.drop 1)
      return (!a, ws)
    else readPrimary fs fuel l ws

/-- Read a single condition. -/
def readPrimary (fs : FileSystem) : Nat → Lexeme → List Bytes → Except Bytes (Bool × List Bytes)
  | 0, _, ws => .ok (false, ws)
  | fuel + 1, l, ws =>
    match l, ws with
    | .nothing, ws => .ok (false, ws)
    | .operator .leftParenthesis, _ :: rest =>
      if lex rest = .operator .rightParenthesis then .ok (false, rest)
      else do
        let (a, ws) ← readEither fs fuel (lex rest) rest
        if lex (ws.drop 1) = .operator .rightParenthesis then return (a, ws.drop 1)
        else .error "closing paren expected".toList
    | .operator (.unary c), op :: rest =>
      match rest with
      | [] => .error (op ++ ": argument expected".toList)
      | operand :: _ => .ok (holdsOf fs c operand, rest)
    | _, ws =>
      match ws, lex (ws.drop 1) with
      | a :: op :: rest, .operator (.binary name) =>
        match rest with
        | [] => .error (op ++ ": argument expected".toList)
        | b :: _ => (compares fs name a b).map fun r => (r, rest)
      | a :: _, _ => .ok (!a.isEmpty, ws)
      | [], _ => .ok (false, ws)

end

/-- Whether an expression holds; nothing may follow it. -/
def holdsWhole (fs : FileSystem) (l : Lexeme) (args : List Bytes) : Except Bytes Bool := do
  let (a, ws) ← readEither fs (4 * args.length + 8) l args
  match ws with
  | last :: _ :: _ => .error (last ++ ": unexpected operator".toList)
  | _ => return a

/-- Whether the condition of some arguments holds. -/
def holds (fs : FileSystem) : List Bytes → Except Bytes Bool
  | [] => .ok false
  | arg :: rest =>
    let args := arg :: rest
    let isShort := args.length = 3 || args.length = 4
    if args.length = 3 && (rest.head?.map isComparison).getD false then holdsWhole fs .operand args
    else if isShort && arg == ['('] && rest.getLast? == some [')'] then
      let inside := rest.dropLast
      holdsWhole fs (lex inside) inside
    else if isShort && arg == ['!'] then (holds fs rest).map (!·)
    else holdsWhole fs (lex args) args

end HashReplay.Programs.Shell.Condition
