import HashReplay.Text.Utf8

/-!
# Control sequences

A text may hold sequences that a terminal would obey and not show: an escape character with what
belongs to it, and single control characters.  Where no terminal is meant to read a text, they are left
out.  Of the control characters only those that are blank stay, and one of them inside a sequence that
may hold commands ends the sequence.

A sequence that is not ended takes in what follows it.  A text that is put together may have parts that
are emphasised.  Emphasis is switched on and off by control sequences, and a sequence always ends where
the next one starts, so nothing that stands before an emphasised part or in it reaches beyond.

## Main definitions

* `Place` — where a reader is among the sequences.
* `Place.step` — one character: where the reader is then, and whether the character is shown.
* `Fragment`, `render` — a text that is put together, without its control sequences.
-/

namespace HashReplay.Text.ControlSequence

/-- Where a reader is. -/
inductive Place where
  /-- In ordinary text. -/
  | ground
  /-- After an escape character. -/
  | escape
  /-- After an escape character and more that does not end the sequence. -/
  | escapeMore
  /-- In a command with parameters. -/
  | command
  /-- At the start of a device control. -/
  | deviceStart
  /-- In the parameters of a device control. -/
  | deviceParameters
  /-- After the parameters of a device control. -/
  | deviceMore
  /-- In data that a string terminator ends. -/
  | data
  /-- In a command for the operating system, which a bell ends. -/
  | system
  deriving DecidableEq, Repr

/-- Whether a control character is blank. -/
def isBlankControl (n : Nat) : Bool := n = 0x09 || n = 0x0A || n = 0x0C || n = 0x0D

/-- What follows an escape character, for a printable code. -/
def afterEscape (n : Nat) : Place :=
  if n < 0x30 then .escapeMore
  else if n = 0x50 then .deviceStart
  else if n = 0x5B then .command
  else if n = 0x5D then .system
  else if n = 0x58 ∨ n = 0x5E ∨ n = 0x5F then .data
  else .ground

/-- What follows in a device control, for a printable code; `marks` says what a code from the digits to
the question mark leads to. -/
def inDevice (marks : Nat → Place) (n : Nat) : Place :=
  if n < 0x30 then .deviceMore else if n < 0x40 then marks n else .data

/-- One printable code below that of the delete character, outside ordinary text. -/
def Place.printable (n : Nat) : Place → Place
  | .ground => .ground
  | .escape => afterEscape n
  | .escapeMore => if n < 0x30 then .escapeMore else .ground
  | .command => if n < 0x40 then .command else .ground
  | .deviceStart => inDevice (fun _ => .deviceParameters) n
  | .deviceParameters => inDevice (fun m => if m < 0x3C then .deviceParameters else .data) n
  | .deviceMore => inDevice (fun _ => .data) n
  | .data => .data
  | .system => .system

/-- Whether control characters count inside a sequence; in the others they are swallowed. -/
def Place.obeysControls : Place → Bool
  | .ground => true
  | .escape => true
  | .escapeMore => true
  | .command => true
  | .deviceStart => false
  | .deviceParameters => false
  | .deviceMore => false
  | .data => false
  | .system => false

/-- The byte that is a string terminator by itself. -/
def terminator : UInt8 := 0x9C

/-- One character: where the reader is then, and whether the character is shown. -/
def Place.step (p : Place) (c : Char) : Place × Bool :=
  let n := c.toNat
  if n = 0x18 ∨ n = 0x1A then (.ground, false)
  else if n = 0x1B then (.escape, false)
  else if n < 0x20 then
    if p.obeysControls && isBlankControl n then (.ground, true)
    else if p = .system ∧ n = 0x07 then (.ground, false)
    else (p, false)
  else if n = 0x7F then (p, false)
  else if p = .ground then (.ground, true)
  else if n < 0x7F then (p.printable n, false)
  else if p = .data ∧ terminator ∈ Utf8.encode [c] then (.ground, false)
  else (p, false)

/-- What is shown of characters, read from a place. -/
def shown : Place → List Char → List Char
  | _, [] => []
  | p, c :: s =>
    let (q, isShown) := p.step c
    if isShown then c :: shown q s else shown q s

/-- Where a reader is after characters, read from a place. -/
def placeAfter (p : Place) (s : List Char) : Place := s.foldl (fun p c => (p.step c).1) p

/-! ### Texts that are put together -/

/-- A part of a text. -/
structure Fragment where
  text : String
  emphasised : Bool
  deriving DecidableEq, Repr

/-- A part without emphasis. -/
def plain (s : String) : Fragment := ⟨s, false⟩

/-- A part with emphasis. -/
def emphasis (s : String) : Fragment := ⟨s, true⟩

/-- What is shown of fragments, read from a place. -/
def shownOf : Place → List Fragment → List Char
  | _, [] => []
  | p, f :: fs =>
    if f.emphasised then shown .ground f.text.toList ++ shownOf .ground fs
    else shown p f.text.toList ++ shownOf (placeAfter p f.text.toList) fs

/-- A text that is put together, without its control sequences. -/
def render (fs : List Fragment) : String := String.ofList (shownOf .ground fs)

/-- Text without control characters is left as it is. -/
theorem shown_ground {s : List Char} (h : ∀ c ∈ s, 0x20 ≤ c.toNat ∧ c.toNat ≠ 0x7F) :
    shown .ground s = s := by
  induction s with
  | nil => rfl
  | cons c s ih =>
    obtain ⟨h₁, h₂⟩ := h c (by simp)
    have step : Place.step .ground c = (.ground, true) := by
      have : ¬ c.toNat < 0x20 := by omega
      have : c.toNat ≠ 0x18 ∧ c.toNat ≠ 0x1A ∧ c.toNat ≠ 0x1B := by omega
      simp [Place.step, *]
    simp [shown, step, ih fun d hd => h d (by simp [hd])]

end HashReplay.Text.ControlSequence
