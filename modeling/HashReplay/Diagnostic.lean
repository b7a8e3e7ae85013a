/-!
# Diagnostics

Messages for the error stream.  On a terminal they are coloured: errors red, warnings yellow.

## Main definitions

* `Severity`, `Diagnostic` — a message and how bad it is.
* `Diagnostic.render` — the message as written.
-/

namespace HashReplay

/-- How bad it is. -/
inductive Severity where
  | error
  | warning
  deriving DecidableEq, Repr

/-- What a message starts with. -/
def Severity.label : Severity → String
  | .error => "Error"
  | .warning => "Warning"

/-- The control sequence that starts the colour of a message. -/
def Severity.color : Severity → String
  | .error => "\x1b[31m"
  | .warning => "\x1b[33m"

/-- A message for the error stream. -/
structure Diagnostic where
  severity : Severity
  text : String
  deriving DecidableEq, Repr

/-- The control sequence that ends a colour. -/
def Diagnostic.colorEnd : String := "\x1b[0m"

/-- A message as written, on a terminal or elsewhere. -/
def Diagnostic.render (terminal : Bool) (d : Diagnostic) : String :=
  let line := d.severity.label ++ ": " ++ d.text
  (if terminal then d.severity.color ++ line ++ colorEnd else line) ++ "\n"

end HashReplay
