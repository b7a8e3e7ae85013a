import HashReplay.Json.Text

/-!
# Writing JSON

Arrays and objects are written without blanks.  The members of an object are written in the order in
which they are given.

## Main definitions

* `array`, `object` — the written form of values that are already written.
-/

namespace HashReplay.Json

/-- Values one after another, separated by commas. -/
def commaSeparated (values : List (List Char)) : List Char := [','].intercalate values

/-- An array of written values. -/
def array (values : List (List Char)) : List Char := '[' :: (commaSeparated values ++ [']'])

/-- A member of an object: its name and its written value. -/
def member (m : String × List Char) : List Char := text m.1.toList ++ ':' :: m.2

/-- An object with the given members. -/
def object (members : List (String × List Char)) : List Char :=
  '\x7b' :: (commaSeparated (members.map member) ++ ['\x7d'])

end HashReplay.Json
