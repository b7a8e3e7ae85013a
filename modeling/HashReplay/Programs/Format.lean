import HashReplay.Programs.Format.Notation

/-!
# Printing by format

Two ways to print arguments.  `echo` writes its arguments with spaces between them; `printf` writes a
format in which conversions stand for the arguments, and starts over as long as arguments are left.
Both know escapes that start with a backslash, among them the octal code of any byte.

## Main definitions

* `Escaped`, `escape` — one escape.
* `expand` — a text with its escapes carried out.
* `echo` — the output of `echo`.
* `printf` — the output of `printf`.
-/

namespace HashReplay.Programs.Format

/-! ### Escapes -/

/-- An escape that was read after its backslash. -/
inductive Escaped where
  /-- It stands for bytes. -/
  | bytes (b : Bytes) (rest : Bytes)
  /-- It ends all output. -/
  | stop

/-- At most `n` octal digits at the start of a text. -/
def octalDigits (n : Nat) (s : List Char) : List Char := (s.take n).takeWhile isOctal

/-- The byte with a code; of a code that is too large, what is beyond whole multiples of 256 counts. -/
def byteOf (n : Nat) : Char := Char.ofNat (n % 256)

/-- The byte that a letter after a backslash stands for. -/
def letterEscape? (c : Char) : Option Char :=
  if c = 'a' then some '\x07'
  else if c = 'e' then some '\x1b'
  else if c = 'b' then some '\x08'
  else if c = 't' then some '\t'
  else if c = 'n' then some '\n'
  else if c = 'v' then some '\x0b'
  else if c = 'f' then some '\x0c'
  else if c = 'r' then some '\r'
  else if c = '\\' then some '\\'
  else none

/-- Which escapes are known. -/
structure EscapeRules where
  /-- Whether the text is an argument; then a zero may stand before an octal code. -/
  inArgument : Bool
  /-- Whether more is known than the shell knows by itself: hexadecimal codes, the double quote, and the
  end of output in a format. -/
  extended : Bool
  deriving DecidableEq, Repr

/-- Read an escape after its backslash.  An octal code has up to three digits and a hexadecimal one up to
two; what is no escape stands for itself. -/
def escape (rules : EscapeRules) : List Char → Escaped
  | [] => .bytes ['\\'] []
  | c :: s =>
    match letterEscape? c with
    | some b => .bytes [b] s
    | none =>
      if rules.inArgument && c == '0' && (s.head?.map isOctal).getD false then
        let digits := octalDigits 3 s
        .bytes [byteOf (octalValue digits)] (s.drop digits.length)
      else if isOctal c then
        let digits := octalDigits 3 (c :: s)
        .bytes [byteOf (octalValue digits)] ((c :: s).drop digits.length)
      else if c == 'c' && (rules.inArgument || rules.extended) then .stop
      else if !rules.extended then .bytes ['\\'] (c :: s)
      else if c == '"' && !rules.inArgument then .bytes ['"'] s
      else if c == 'x' && (s.head?.map isHex).getD false then
        let digits := (s.take 2).takeWhile isHex
        .bytes [byteOf (hexValue digits)] (s.drop digits.length)
      else .bytes ['\\', c] s

/-- A text with its escapes carried out, and whether output ends with it.  `fuel` bounds the number of
characters. -/
def expandWith (rules : EscapeRules) : Nat → Bytes → Bytes × Bool
  | 0, _ => ([], false)
  | _ + 1, [] => ([], false)
  | fuel + 1, c :: s =>
    if c = '\\' then
      match escape rules s with
      | .stop => ([], true)
      | .bytes b rest =>
        let (more, stopped) := expandWith rules fuel rest
        (b ++ more, stopped)
    else
      let (more, stopped) := expandWith rules fuel s
      (c :: more, stopped)

/-- An argument with its escapes carried out, and whether output ends with it. -/
def expand (extended : Bool) (s : Bytes) : Bytes × Bool :=
  expandWith ⟨true, extended⟩ (s.length + 2) s

/-! ### Echo -/

/-- The output of `echo`: its arguments with spaces between them, with escapes carried out if that is
asked for (`some` of whether the extended ones are among them), and the end of the line if `newline` is
set. -/
def echo (escapes : Option Bool) (newline : Bool) (args : List Bytes) : Bytes :=
  let text := [' '].intercalate args
  let (out, stopped) :=
    match escapes with
    | some extended => expand extended text
    | none => (text, false)
  out ++ if newline && !stopped then ['\n'] else []

/-! ### Conversions -/

/-- A conversion in a format. -/
structure Conversion where
  left : Bool
  zeros : Bool
  plus : Bool
  blank : Bool
  alternate : Bool
  width : Nat
  precision : Option Nat
  letter : Char

/-- Bytes filled up to a width. -/
def fill (c : Conversion) (b : Bytes) : Bytes :=
  let room := c.width - b.length
  if c.left then b ++ List.replicate room ' ' else List.replicate room ' ' ++ b

/-- The sign of a number. -/
def signOf (c : Conversion) (negative : Bool) : Bytes :=
  if negative then ['-'] else if c.plus then ['+'] else if c.blank then [' '] else []

/-- Digits with a sign in front, filled up with blanks, or with zeros after the sign. -/
def fillSigned (c : Conversion) (zeros : Bool) (sign digits : Bytes) : Bytes :=
  if zeros && !c.left then
    sign ++ List.replicate (c.width - digits.length - sign.length) '0' ++ digits
  else fill c (sign ++ digits)

/-- A whole number with its sign; the precision is the least number of digits. -/
def fillNumber (c : Conversion) (sign digits : Bytes) : Bytes :=
  fillSigned c (c.zeros && c.precision.isNone) sign
    (List.replicate (c.precision.getD 0 - digits.length) '0' ++ digits)

/-! ### Formats -/

/-- Whether a character is a flag of a conversion. -/
def isFlag (c : Char) : Bool := c == '-' || c == '0' || c == '+' || c == ' ' || c == '#'

/-- Read a number in a conversion: digits, or a star for the next argument. -/
def readNumber (s : Bytes) (args : List Bytes) : Int × Bytes × List Bytes :=
  match s with
  | '*' :: t => ((signedOf (args.headD [])).1, t, args.drop 1)
  | _ => ((decimalValue (s.takeWhile Char.isDigit) : Nat), s.dropWhile Char.isDigit, args)

/-- Read a conversion after its percent sign: the conversion, what follows it, and the arguments that are
left; nothing if it has no letter. -/
def readConversion (s : Bytes) (args : List Bytes) : Option (Conversion × Bytes × List Bytes) :=
  let flags := s.takeWhile isFlag
  let (width, s, args) := readNumber (s.dropWhile isFlag) args
  let (precision, s, args) :=
    match s with
    | '.' :: t =>
      let (n, t, args) := readNumber t args
      (if n < 0 then none else some n.toNat, t, args)
    | t => (none, t, args)
  match s with
  | [] => none
  | c :: t =>
    some
      (⟨flags.contains '-' || width < 0, flags.contains '0', flags.contains '+', flags.contains ' ',
        flags.contains '#', width.natAbs, precision, c⟩, t, args)

/-- What writing an argument by a conversion gives. -/
inductive Converted where
  /-- Bytes; whether output ends with them; what is wrong with the argument. -/
  | written (b : Bytes) (stops : Bool) (fault : Option ArgumentFault)
  /-- There is no such conversion. -/
  | unknown

/-- Write one argument by a conversion.  The shell by itself takes a quote alone for no number, which is
zero. -/
def convert (extended : Bool) (c : Conversion) (arg : Option Bytes) : Converted :=
  let text := arg.getD []
  let isQuote := text = ['"'] ∨ text = ['\'']
  let numeral := if isQuote ∧ !extended then [] else text
  let cut (s : Bytes) : Bytes :=
    match c.precision with
    | none => s
    | some n => s.take n
  let unsigned (base : Nat) (upper : Bool) (mark : Bytes) : Converted :=
    let (n, fault) := wordOf numeral
    let digits := Nat.toDigits base n
    let sign := if c.alternate && n != 0 then mark else []
    .written (fillNumber c sign (if upper then digits.map Char.toUpper else digits)) false fault
  let fraction (upper : Bool) (write : Rat → Bytes) : Converted :=
    let (negative, size, fault) := fractionOf numeral
    let (zeros, digits) :=
      match size with
      | .finite x => (c.zeros, write x)
      | .infinite => (false, "inf".toList)
      | .undefined => (false, "nan".toList)
    let digits := if upper then digits.map Char.toUpper else digits
    .written (fillSigned c zeros (signOf c negative) digits) false fault
  let places := c.precision.getD 6
  if c.letter = 's' then .written (fill c (cut text)) false none
  else if c.letter = 'b' then
    let (b, stops) := expand extended text
    .written (fill c (cut b)) stops none
  else if c.letter = 'c' then .written (fill c [text.headD '\x00']) false none
  else if c.letter = 'd' ∨ c.letter = 'i' then
    let (n, fault) := signedOf numeral
    .written (fillNumber c (signOf c (n < 0)) (Text.decimal n.natAbs)) false fault
  else if c.letter = 'u' then unsigned 10 false []
  else if c.letter = 'o' then unsigned 8 false ['0']
  else if c.letter = 'x' then unsigned 16 false ['0', 'x']
  else if c.letter = 'X' then unsigned 16 true ['0', 'X']
  else if c.letter = 'f' then fraction false (fixed places c.alternate)
  else if c.letter = 'F' then fraction true (fixed places c.alternate)
  else if c.letter = 'e' then fraction false (scientific places c.alternate)
  else if c.letter = 'E' then fraction true (scientific places c.alternate)
  else if c.letter = 'g' then fraction false (general (max 1 places) c.alternate)
  else if c.letter = 'G' then fraction true (general (max 1 places) c.alternate)
  else .unknown

/-- What one pass through a format gives. -/
structure Pass where
  out : Bytes
  /-- The arguments that are left. -/
  rest : List Bytes
  /-- Whether the format has a conversion. -/
  converts : Bool
  /-- Whether output ends here. -/
  stopped : Bool
  /-- The arguments that should have been numbers, and what is wrong with them. -/
  faulty : List (Bytes × ArgumentFault)
  /-- What should have been a conversion, without its percent sign. -/
  unknown : Option Bytes
  /-- Whether that has no letter. -/
  unfinished : Bool

/-- A pass that ends with nothing. -/
def Pass.ended (args : List Bytes) (stopped : Bool) : Pass :=
  ⟨[], args, false, stopped, [], none, false⟩

/-- A pass with bytes in front. -/
def Pass.after (b : Bytes) (p : Pass) : Pass := { p with out := b ++ p.out }

/-- One pass through a format.  `fuel` bounds the number of characters. -/
def pass (extended : Bool) : Nat → Bytes → List Bytes → Pass
  | 0, _, args => .ended args false
  | _ + 1, [], args => .ended args false
  | fuel + 1, c :: s, args =>
    if c = '\\' then
      match escape ⟨false, extended⟩ s with
      | .stop => .ended args true
      | .bytes b rest => (pass extended fuel rest args).after b
    else if c = '%' then
      match s with
      | '%' :: t => (pass extended fuel t args).after ['%']
      | _ =>
        match readConversion s args with
        | none => { Pass.ended args true with unknown := some s, unfinished := true }
        | some (conversion, t, args) =>
          match convert extended conversion args.head? with
          | .unknown =>
            { Pass.ended args true with unknown := some (s.take (s.length - t.length)) }
          | .written b stops fault =>
            let faulty := (fault.map fun f => (args.headD [], f)).toList
            if stops then ⟨b, args.drop 1, true, true, faulty, none, false⟩
            else
              let p := pass extended fuel t (args.drop 1)
              { p with out := b ++ p.out, converts := true, faulty := faulty ++ p.faulty }
    else (pass extended fuel s args).after [c]

/-- All passes through a format: a further one as long as there are arguments for it.  `fuel` bounds
their number. -/
def passes (extended : Bool) (format : Bytes) : Nat → List Bytes → Pass
  | 0, args => .ended args true
  | fuel + 1, args =>
    let p := pass extended (format.length + 2) format args
    if p.stopped || !p.converts || p.rest.isEmpty then p
    else
      let q := passes extended format fuel p.rest
      { q with out := p.out ++ q.out, faulty := p.faulty ++ q.faulty }

/-- What `printf` prints for a format and arguments. -/
def printf (extended : Bool) (format : Bytes) (args : List Bytes) : Pass :=
  passes extended format (args.length + 1) args

end HashReplay.Programs.Format
