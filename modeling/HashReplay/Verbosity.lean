import HashReplay.Text.Blank
import HashReplay.Text.Numeral

/-!
# Verbosity

How much a run prints.  Each level prints everything that the levels below it print; no level changes
a verdict.

## Main definitions

* `Verbosity` — the four levels, in order.
* `Verbosity.showsDetail`, `Verbosity.showsProgress`, `Verbosity.showsDebug` — what a level adds.
* `Verbosity.parse` — a level from its number or its label.
-/

namespace HashReplay

/-- How much a run prints. -/
inductive Verbosity where
  /-- Status lines and the summary only. -/
  | none
  /-- Also what was observed and expected in a failed case. -/
  | normal
  /-- Also a header and the time each case took. -/
  | chatty
  /-- Also the argument vectors, and the captured output of failed cases. -/
  | debug
  deriving DecidableEq, Repr

namespace Verbosity

/-- The level used unless another is asked for. -/
def standard : Verbosity := .normal

/-- The number of a level. -/
def level : Verbosity → Nat
  | .none => 0
  | .normal => 1
  | .chatty => 2
  | .debug => 3

/-- The level of a number. -/
def ofLevel? : Nat → Option Verbosity
  | 0 => some .none
  | 1 => some .normal
  | 2 => some .chatty
  | 3 => some .debug
  | _ => Option.none

/-- The name of a level. -/
def label : Verbosity → String
  | .none => "none"
  | .normal => "normal"
  | .chatty => "chatty"
  | .debug => "debug"

/-- The level of a name, in lower case. -/
def ofLabel? (s : String) : Option Verbosity :=
  if s = "none" then some .none
  else if s = "normal" then some .normal
  else if s = "chatty" then some .chatty
  else if s = "debug" then some .debug
  else Option.none

@[simp] theorem ofLevel?_level (v : Verbosity) : ofLevel? v.level = some v := by cases v <;> rfl

@[simp] theorem ofLabel?_label (v : Verbosity) : ofLabel? v.label = some v := by cases v <;> decide

instance : LE Verbosity := ⟨fun v w => v.level ≤ w.level⟩

instance (v w : Verbosity) : Decidable (v ≤ w) := inferInstanceAs (Decidable (v.level ≤ w.level))

theorem le_def {v w : Verbosity} : v ≤ w ↔ v.level ≤ w.level := Iff.rfl

/-! ### What a level shows -/

/-- Whether failed cases are explained. -/
def showsDetail (v : Verbosity) : Bool := decide (Verbosity.normal ≤ v)

/-- Whether the run is announced and each case is timed. -/
def showsProgress (v : Verbosity) : Bool := decide (Verbosity.chatty ≤ v)

/-- Whether argument vectors and the output of failed cases are echoed. -/
def showsDebug (v : Verbosity) : Bool := decide (Verbosity.debug ≤ v)

/-- The threshold of internal diagnostics that goes with a level. -/
def tracingDirective (v : Verbosity) : String := if v.showsDebug then "debug" else "warn"

/-! ### Reading a level -/

/-- Why a text names no level. -/
inductive ParseError where
  /-- A number of at most 255 that is no level. -/
  | levelOutOfRange (n : Nat)
  /-- Anything else, given here without the blanks around it. -/
  | unknown (text : String)
  deriving DecidableEq, Repr

/-- The wording of such an error. -/
def ParseError.message : ParseError → String
  | .levelOutOfRange n => "verbosity level must be 0-3, got " ++ toString n
  | .unknown t =>
    "invalid verbosity '" ++ t ++ "': expected 0-3 or one of none, normal, chatty, debug"

/-- A level from its number, below 256 and with an optional plus sign, or from its label in any case
of letters.  Blanks around it are ignored. -/
def parse (s : String) : Except ParseError Verbosity :=
  let t := Text.trim s.toList
  match Text.readNat 255 t with
  | .ok n =>
    match ofLevel? n with
    | some v => .ok v
    | Option.none => .error (.levelOutOfRange n)
  | .error _ =>
    match ofLabel? (String.ofList (t.map Char.toLower)) with
    | some v => .ok v
    | Option.none => .error (.unknown (String.ofList t))

end Verbosity

end HashReplay
