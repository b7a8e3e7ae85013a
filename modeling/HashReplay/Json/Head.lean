import HashReplay.Json.Number
import HashReplay.Text.Quoted

/-!
# Heads of JSON values

The head of a value is all of a simple value, and just the kind of an array or an object.  It is what
decides whether the value can be read as what is expected there, and it is named in messages.

## Main definitions

* `Head` — the type.
* `DataError`, `DataError.message` — why well-formed JSON is not what was expected, and the wording.
* `ReadError` — all that can go wrong.
-/

namespace HashReplay.Json

/-- All of a simple value, or the kind of a compound one. -/
inductive Head where
  | null
  | boolean (b : Bool)
  | numeral (n : Numeral)
  | text (s : List Char)
  | array
  | object
  deriving DecidableEq, Repr

/-- A text between backquotes. -/
def ticked (s : String) : String := "`" ++ s ++ "`"

/-- What a number is called in messages. -/
def Numeral.describe : Numeral → String
  | .natural n => "integer " ++ ticked (toString n)
  | .negative n => "integer " ++ ticked ("-" ++ toString n)
  | .float x => "floating point " ++ ticked (String.ofList (Binary64.recordText x))

/-- What a value is called in messages. -/
def Head.describe : Head → String
  | .null => "null"
  | .boolean b => "boolean " ++ ticked (if b then "true" else "false")
  | .numeral n => n.describe
  | .text s => "string " ++ String.ofList (Text.Quoted.quote s)
  | .array => "sequence"
  | .object => "map"

/-- Several names as alternatives. -/
def alternatives : List String → String
  | [a] => ticked a
  | [a, b] => ticked a ++ " or " ++ ticked b
  | names => "one of " ++ ", ".intercalate (names.map ticked)

/-- Why well-formed JSON is not what was expected. -/
inductive DataError where
  /-- A value of another kind. -/
  | invalidType (found : Head) (expected : String)
  /-- An integer out of range. -/
  | invalidValue (found : Numeral) (expected : String)
  /-- An array with another number of elements. -/
  | invalidLength (length : Nat) (expected : String)
  | missingField (name : String)
  | duplicateField (name : String)
  | unknownField (name : String) (known : List String)
  | unknownVariant (name : String) (known : List String)
  /-- An elapsed time below zero, by its wording. -/
  | invalidDuration (millis : String)
  /-- A moment whose seconds do not fit their word once the nanoseconds are carried over. -/
  | timestampCarry
  /-- A moment later than any that can be represented. -/
  | timestampRange
  deriving DecidableEq, Repr

/-- The wording of such an error. -/
def DataError.message : DataError → String
  | .invalidType found expected => "invalid type: " ++ found.describe ++ ", expected " ++ expected
  | .invalidValue found expected => "invalid value: " ++ found.describe ++ ", expected " ++ expected
  | .invalidLength n expected => "invalid length " ++ toString n ++ ", expected " ++ expected
  | .missingField name => "missing field " ++ ticked name
  | .duplicateField name => "duplicate field " ++ ticked name
  | .unknownField name known => "unknown field " ++ ticked name ++ ", expected " ++ alternatives known
  | .unknownVariant name known =>
    "unknown variant " ++ ticked name ++ ", expected " ++ alternatives known
  | .invalidDuration ms => "invalid duration: " ++ ms ++ "ms"
  | .timestampCarry => "overflow deserializing SystemTime epoch offset"
  | .timestampRange => "overflow deserializing SystemTime"

/-- All that can go wrong in reading a value. -/
inductive ReadError where
  | fault (f : Fault)
  | data (e : DataError)
  deriving DecidableEq, Repr

end HashReplay.Json
