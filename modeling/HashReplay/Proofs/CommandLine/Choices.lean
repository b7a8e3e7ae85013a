import HashReplay.CommandLine.Replay
import HashReplay.Proofs.CommandLine.Spelling
import HashReplay.Proofs.Text.Numeral

/-!
# The options of the program

An option of the program with its value is a choice.  Which values do is said here by the value alone: a
path that is not empty, a text that stands for a level or a number.  Such a choice can be made unless one
for the same option was made before; and making it is all that its arguments do, in any of their spellings.

## Main definitions

* `Choice`, `Choice.Accepted` — an option with its value, and the values that do.
* `Choice.Spelled` — the arguments that spell a choice.
* `Choice.take` — what making a choice does to parsing.

## Main results

* `Choice.Spelled.spells` — these arguments spell the option in the grammar.
* `Choice.take_of_not_mem`, `Choice.take_of_mem` — a choice for a new option, and one made again.
-/

namespace HashReplay.CommandLine

open Text (IsNumeral)

/-! ### Options and their names -/

/-- The long name of an option. -/
def OptionName.long : OptionName → String
  | .executable => "czicmd-executable"
  | .testcases => "testcases"
  | .verbosity => "verbosity"
  | .streamClass => "source-stream-class"
  | .timeout => "timeout-secs"
  | .strict => "strict"
  | .capture => "capture"

/-- The letter of an option, if it has one. -/
def OptionName.letter? : OptionName → Option Char
  | .executable => some 'c'
  | .testcases => some 't'
  | .verbosity => some 'v'
  | _ => none

/-- What the grammar says about an option. -/
def OptionName.spec (name : OptionName) : OptionSpec OptionName :=
  (grammar.named? name).get (by cases name <;> rfl)

theorem named?_eq (name : OptionName) : grammar.named? name = some name.spec :=
  (Option.some_get _).symm

theorem byLong?_long (name : OptionName) : grammar.byLong? name.long = some name.spec := by
  cases name <;> rfl

theorem byLetter?_letter {name : OptionName} {c : Char} (h : name.letter? = some c) :
    grammar.byLetter? c = some name.spec := by
  cases name <;> cases h <;> rfl

theorem long_plain (name : OptionName) : name.long ≠ "" ∧ '=' ∉ name.long.toList := by
  cases name <;> decide

/-! ### Choices -/

/-- An option with its value. -/
inductive Choice where
  | executable (path : String)
  | testcases (path : String)
  /-- A level, and the text that stands for it. -/
  | verbosity (text : String) (level : Verbosity)
  | streamClass (name : String)
  /-- A number of seconds, and the text that stands for it. -/
  | timeout (text : String) (secs : UInt64)
  | strict
  | capture (path : String)

namespace Choice

/-- The option. -/
def name : Choice → OptionName
  | executable _ => .executable
  | testcases _ => .testcases
  | verbosity _ _ => .verbosity
  | streamClass _ => .streamClass
  | timeout _ _ => .timeout
  | strict => .strict
  | capture _ => .capture

/-- The value, as a text. -/
def value? : Choice → Option String
  | executable path => some path
  | testcases path => some path
  | verbosity text _ => some text
  | streamClass name => some name
  | timeout text _ => some text
  | strict => none
  | capture path => some path

/-- The value does: paths are not empty, and the texts of levels and numbers stand for them. -/
def Accepted : Choice → Prop
  | executable path => path ≠ ""
  | testcases path => path ≠ ""
  | verbosity text level => Verbosity.parse text = .ok level
  | streamClass _ => True
  | timeout text secs => IsNumeral text.toList secs.toNat
  | strict => True
  | capture path => path ≠ ""

/-- Make a choice. -/
def set : Choice → Draft → Draft
  | executable path, d => { d with executable := some path }
  | testcases path, d => { d with testcases := some path }
  | verbosity _ level, d => { d with verbosity := some level }
  | streamClass name, d => { d with streamClass := some name }
  | timeout _ secs, d => { d with timeoutSecs := some secs.toNat }
  | strict, d => { d with strict := true }
  | capture path, d => { d with capture := some path }

/-- The arguments that spell a choice: a letter or a long name with the value behind it, a long name with
an equals sign and the value, or the long name of a switch.  A value that starts with a dash would look
like an option if it were an argument of its own. -/
inductive Spelled : Choice → List String → Prop
  | letter {c : Choice} {l : Char} {v : String} (hl : c.name.letter? = some l)
    (hvalue : c.value? = some v) (hv : v.toList.head? ≠ some '-') :
    Spelled c [String.ofList ['-', l], v]
  | long {c : Choice} {v : String} (hvalue : c.value? = some v) (hv : v.toList.head? ≠ some '-') :
    Spelled c ["--" ++ c.name.long, v]
  | attached {c : Choice} {v : String} (hvalue : c.value? = some v) :
    Spelled c ["--" ++ c.name.long ++ "=" ++ v]
  | switch {c : Choice} (hvalue : c.value? = none) : Spelled c ["--" ++ c.name.long]

/-- An option takes a value if its choices have one. -/
theorem effect_spec_of_some {c : Choice} {v : String} (h : c.value? = some v) :
    ∃ placeholder, c.name.spec.effect = .value c.name placeholder := by
  cases c with
  | strict => cases h
  | _ => exact ⟨_, rfl⟩

theorem effect_spec_of_none {c : Choice} (h : c.value? = none) :
    c.name.spec.effect = .switch c.name := by
  cases c with
  | strict => rfl
  | _ => cases h

/-- The spellings of a choice are spellings of its option. -/
theorem Spelled.spells {c : Choice} {args : List String} (h : c.Spelled args) :
    grammar.Spells c.name c.name.spec c.value? args := by
  have hlong := byLong?_long c.name
  have hplain := long_plain c.name
  cases h with
  | @letter l v hl hvalue hv =>
    obtain ⟨placeholder, heffect⟩ := effect_spec_of_some hvalue
    have hdash : l ≠ '-' := by
      rintro rfl
      cases c <;> cases hl
    rw [hvalue]
    exact .letter (byLetter?_letter hl) heffect hdash hv
  | long hvalue hv =>
    obtain ⟨placeholder, heffect⟩ := effect_spec_of_some hvalue
    rw [hvalue]
    exact .long hlong heffect hplain hv
  | attached hvalue =>
    obtain ⟨placeholder, heffect⟩ := effect_spec_of_some hvalue
    rw [hvalue]
    exact .attached _ hlong heffect hplain
  | switch hvalue =>
    rw [hvalue]
    exact .switch hlong (effect_spec_of_none hvalue) hplain

/-- Every number of seconds is accepted in its own digits. -/
theorem accepted_timeout (secs : UInt64) :
    (timeout (String.ofList (Text.decimal secs.toNat)) secs).Accepted := by
  show IsNumeral (String.ofList (Text.decimal secs.toNat)).toList secs.toNat
  rw [String.toList_ofList]
  exact Text.isNumeral_decimal secs.toNat

/-! ### Making a choice -/

/-- Take the option of a choice. -/
def take (c : Choice) (p : Parsing OptionName Draft) : Except Interruption (Parsing OptionName Draft) :=
  grammar.accept c.name c.name.spec c.value? p

/-- A value that does is assigned. -/
theorem assign_of_accepted {c : Choice} (hc : c.Accepted) {v : String} (hvalue : c.value? = some v)
    (d : Draft) : grammar.assign c.name v d = .ok (c.set d) := by
  cases c with
  | streamClass _ =>
    cases hvalue
    rfl
  | strict => cases hvalue
  | verbosity _ _ =>
    cases hvalue
    have hparse : Verbosity.parse _ = .ok _ := hc
    simp [grammar, Draft.assign, verbosityValue, hparse, name, set, Except.map]
  | timeout _ secs =>
    cases hvalue
    have hread : Text.readNat maxSeconds v.toList = .ok secs.toNat :=
      Text.readNat_eq_ok_iff.mpr ⟨hc, Nat.le_of_lt_succ secs.toNat_lt⟩
    simp [grammar, Draft.assign, secondsValue, hread, name, set, Except.map]
  | executable _ | testcases _ | capture _ =>
    cases hvalue
    have hpath : pathValue _ = .ok _ := if_neg hc
    simp [grammar, Draft.assign, hpath, name, set, Except.map]

theorem take_of_not_mem {c : Choice} (hc : c.Accepted) {p : Parsing OptionName Draft}
    (h : c.name ∉ p.given) :
    c.take p = .ok { p with state := c.set p.state, given := p.given ++ [c.name] } := by
  unfold take Grammar.accept
  cases hvalue : c.value? with
  | some v => simp [Grammar.react, h, assign_of_accepted hc hvalue]
  | none =>
    cases c with
    | strict => exact if_neg h
    | _ => cases hvalue

theorem take_of_mem {c : Choice} {p : Parsing OptionName Draft} (h : c.name ∈ p.given) :
    c.take p = .error (.usage (.repeated c.name.spec.display)) := by
  unfold take Grammar.accept
  cases c.value? with
  | some v => simp [Grammar.react, h, Grammar.wrong]
  | none => exact if_pos h

end Choice

end HashReplay.CommandLine
