import HashReplay.Capture.Json
import HashReplay.Json.Reader

/-!
# Reading records

A record is read from an object whose members may come in any order; members with other names are
passed over, a member that is missing or there twice is an error.  An array with the values of the five
members in their order is read as a record too.  An outcome is read in the same two ways: its kind may
stand anywhere among the members of an object, and stands first in an array.  What further members an
outcome has depends on its kind, so they are kept until the kind is known.

## Main definitions

* `readTimestamp`, `readElapsed` — the parts of a record.
* `readOutcome` — an outcome.
* `readRecord` — a record.
* `Outcome.ofJson`, `Record.ofJson` — a text that holds one of these and nothing else.
-/

namespace HashReplay.Capture

open HashReplay.Json

/-- Read a member into a slot that must still be empty. -/
def readSlot (name : String) (old : Option α) (read : List Char → Result α) (put : α → σ)
    (s : List Char) : Result σ :=
  if old.isSome then reject (.duplicateField name)
  else (memberValue read s).map fun (a, r) => (put a, r)

/-- The content of a slot. -/
def require (name : String) : Option α → Except DataError α
  | some a => .ok a
  | none => .error (.missingField name)

/-! ### Moments -/

/-- The name of the member with the seconds of a moment. -/
def secsName : String := "secs_since_epoch"

/-- The name of the member with the nanoseconds of a moment. -/
def nanosName : String := "nanos_since_epoch"

/-- What is expected where a moment has to be. -/
def timestampLabel : String := "struct SystemTime"

/-- The slots for the members of a moment. -/
structure TimestampSlots where
  secs : Option Nat
  nanos : Option Nat

/-- Read one member of a moment. -/
def timestampMember (name : List Char) (slots : TimestampSlots) (s : List Char) :
    Result TimestampSlots :=
  if name = secsName.toList then
    readSlot secsName slots.secs (readWord 64 "u64") (fun n => { slots with secs := some n }) s
  else if name = nanosName.toList then
    readSlot nanosName slots.nanos (readWord 32 "u32") (fun n => { slots with nanos := some n }) s
  else reject (.unknownField (String.ofList name) [secsName, nanosName])

/-- Seconds and nanoseconds with full seconds carried over; the seconds must still fit their word. -/
def carry (secs nanos : Nat) : Except DataError (Nat × Nat) :=
  let total := secs + nanos / 1000000000
  if total ≤ maxWord then .ok (total, nanos % 1000000000) else .error .timestampCarry

/-- The moment of the slots. -/
def TimestampSlots.finish (slots : TimestampSlots) : Except DataError (Nat × Nat) :=
  match require secsName slots.secs with
  | .error e => .error e
  | .ok secs =>
    match require nanosName slots.nanos with
    | .error e => .error e
    | .ok nanos => carry secs nanos

/-- The greatest number of seconds of a moment. -/
def maxSeconds : Nat := 9223372036854775807

/-- The moment with so many seconds and nanoseconds. -/
def toTimestamp (secs nanos : Nat) : Except DataError Timestamp :=
  if secs ≤ maxSeconds then .ok (.ofNat secs nanos) else .error .timestampRange

/-- Read a moment as seconds and nanoseconds. -/
def readSecsNanos (s : List Char) : Result (Nat × Nat) :=
  match readHead s with
  | .error e => .error e
  | .ok (.object, t) => readObject timestampMember TimestampSlots.finish ⟨none, none⟩ t
  | .ok (.array, t) =>
    match element 0 timestampLabel (readWord 64 "u64") t with
    | .error e => .error e
    | .ok (secs, t) =>
      match element 1 timestampLabel (readWord 32 "u32") t with
      | .error e => .error e
      | .ok (nanos, t) =>
        match carry secs nanos with
        | .error e => reject e
        | .ok pair => (endArray t).map fun r => (pair, r)
  | .ok (h, _) => reject (.invalidType h timestampLabel)

/-- Read a moment. -/
def readTimestamp (s : List Char) : Result Timestamp :=
  match readSecsNanos s with
  | .error e => .error e
  | .ok ((secs, nanos), r) =>
    match toTimestamp secs nanos with
    | .error e => reject e
    | .ok t => .ok (t, r)

/-! ### Elapsed times -/

/-- The nanoseconds of a number of milliseconds: the product is rounded as floating point and then to a
whole number, a half up; what is too large for a word becomes the greatest word. -/
def nanosOfMillis (ms : Rat) : Nat :=
  match Binary64.round? (ms * 1000000) with
  | none => maxWord
  | some y => min maxWord (Binary64.roundHalfUp y)

/-- Read an elapsed time: any number of milliseconds that is not below zero. -/
def readElapsed (s : List Char) : Result Duration :=
  match readFloat s with
  | .error e => .error e
  | .ok (x, r) =>
    if x.negative ∧ x.magnitude ≠ 0 then
      reject (.invalidDuration (String.ofList (Binary64.positionalText x)))
    else .ok (Duration.ofNanos (nanosOfMillis x.magnitude), r)

/-! ### Outcomes -/

namespace Kind

/-- The names of the members that an outcome of a kind has beside the kind itself. -/
def fields : Kind → List String
  | .passed => ["hash"]
  | .mismatch => ["observed", "expected"]
  | .malformedOutput => ["expected"]
  | .launchFailure => ["message"]

/-- How messages name a kind. -/
def label : Kind → String
  | .passed => "Passed"
  | .mismatch => "Mismatch"
  | .malformedOutput => "MalformedOutput"
  | .launchFailure => "LaunchFailure"

/-- The outcome of a kind from the values of its fields; `get` finds the value of a field by its place
and its name. -/
def build (k : Kind) (get : Nat → String → Except DataError String) : Except DataError Outcome :=
  match k with
  | .passed => (get 0 "hash").map .passed
  | .mismatch => (get 0 "observed").bind fun o => (get 1 "expected").map fun e => .mismatch o e
  | .malformedOutput => (get 0 "expected").map .malformedOutput
  | .launchFailure => (get 0 "message").map .launchFailure

end Kind

/-- What is expected where an outcome has to be. -/
def outcomeLabel : String := "internally tagged enum CaseOutcome"

/-- The name of the member with the kind of an outcome. -/
def kindName : String := "type"

/-- A text, from the head of a value. -/
def asText : Head → Except DataError String
  | .text s => .ok (String.ofList s)
  | h => .error (.invalidType h "a string")

/-- The values of the known fields among the members of an outcome, in the order of the members; `found`
holds those before. -/
def collectFields (known : List String) (found : List (String × String)) :
    List (List Char × Head) → Except DataError (List (String × String))
  | [] => .ok found
  | (name, h) :: rest =>
    let name := String.ofList name
    if known.contains name then
      if (found.lookup name).isSome then .error (.duplicateField name)
      else
        match asText h with
        | .error e => .error e
        | .ok v => collectFields known (found ++ [(name, v)]) rest
    else collectFields known found rest

/-- The outcome of a kind from the other members of its object. -/
def Outcome.ofMembers (k : Kind) (members : List (List Char × Head)) : Except DataError Outcome :=
  match collectFields k.fields [] members with
  | .error e => .error e
  | .ok found => k.build fun _ name => require name (found.lookup name)

/-- A number of things. -/
def counted (n : Nat) (what : String) : String :=
  toString n ++ " " ++ what ++ if n = 1 then "" else "s"

/-- The outcome of a kind from the other elements of its array. -/
def Outcome.ofElements (k : Kind) (elements : List Head) : Except DataError Outcome :=
  let n := k.fields.length
  let expected := "struct variant CaseOutcome::" ++ k.label ++ " with " ++ counted n "element"
  let value (i : Nat) (_ : String) : Except DataError String :=
    match elements[i]? with
    | none => .error (.invalidLength i expected)
    | some h => asText h
  match k.build value with
  | .error e => .error e
  | .ok o =>
    if elements.length = n then .ok o
    else .error (.invalidLength elements.length (counted n "element" ++ " in sequence"))

/-- Read the kind of an outcome. -/
def readKind (s : List Char) : Result Kind :=
  match readHead s with
  | .error e => .error e
  | .ok (.text x, r) =>
    match Kind.ofName? (String.ofList x) with
    | some k => .ok (k, r)
    | none => reject (.unknownVariant (String.ofList x) (Kind.all.map Kind.name))
  | .ok (h, _) => reject (.invalidType h "variant identifier")

/-- The kind of an outcome, once it is known, and the members met so far. -/
structure OutcomeSlots where
  kind : Option Kind
  members : List (List Char × Head)

/-- Read one member of an outcome. -/
def outcomeMember (depth : Nat) (name : List Char) (slots : OutcomeSlots) (s : List Char) :
    Result OutcomeSlots :=
  if name = kindName.toList then
    readSlot kindName slots.kind readKind (fun k => { slots with kind := some k }) s
  else
    (memberValue (readAny depth) s).map fun (h, r) =>
      ({ slots with members := slots.members ++ [(name, h)] }, r)

/-- The kind and the other members of an outcome. -/
def OutcomeSlots.finish (slots : OutcomeSlots) :
    Except DataError (Kind × List (List Char × Head)) :=
  match require kindName slots.kind with
  | .error e => .error e
  | .ok k => .ok (k, slots.members)

/-- A value made of what was read, or the reason why there is none. -/
def judge (r : List Char) : Except DataError α → Result α
  | .error e => reject e
  | .ok a => .ok (a, r)

/-- Read an outcome whose values may be nested `depth` levels deep. -/
def readOutcome (depth : Nat) (s : List Char) : Result Outcome :=
  match readHead s with
  | .error e => .error e
  | .ok (.object, t) =>
    match readObject (outcomeMember depth) OutcomeSlots.finish ⟨none, []⟩ t with
    | .error e => .error e
    | .ok ((k, members), r) => judge r (Outcome.ofMembers k members)
  | .ok (.array, t) =>
    match nextElement true t with
    | .error e => .error e
    | .ok none => reject (.missingField kindName)
    | .ok (some t) =>
      match readKind t with
      | .error e => .error e
      | .ok (k, t) =>
        match readElements (readAny depth) (t.length + 1) false t with
        | .error e => .error e
        | .ok (elements, t) =>
          match endArray t with
          | .error e => .error e
          | .ok r => judge r (Outcome.ofElements k elements)
  | .ok (h, _) => reject (.invalidType h outcomeLabel)

/-- How deep the values in an outcome may be nested when the outcome stands alone. -/
def outcomeDepth : Nat := 127

/-- How deep they may be nested in the outcome of a record. -/
def recordDepth : Nat := 126

/-! ### Records -/

/-- What is expected where a record has to be. -/
def recordLabel : String := "struct CaseRecord"

/-- The same for an array. -/
def recordArrayLabel : String := recordLabel ++ " with 5 elements"

/-- The slots for the members of a record. -/
structure RecordSlots where
  seq : Option Nat
  timestamp : Option Timestamp
  elapsed : Option Duration
  argv : Option (List String)
  outcome : Option Outcome

/-- Read one member of a record. -/
def recordMember (name : List Char) (slots : RecordSlots) (s : List Char) : Result RecordSlots :=
  if name = "seq".toList then
    readSlot "seq" slots.seq (readWord 64 "u64") (fun n => { slots with seq := some n }) s
  else if name = "timestamp".toList then
    readSlot "timestamp" slots.timestamp readTimestamp (fun t => { slots with timestamp := some t }) s
  else if name = "elapsed_ms".toList then
    readSlot "elapsed_ms" slots.elapsed readElapsed (fun d => { slots with elapsed := some d }) s
  else if name = "argv".toList then
    readSlot "argv" slots.argv readStrings (fun a => { slots with argv := some a }) s
  else if name = "outcome".toList then
    readSlot "outcome" slots.outcome (readOutcome recordDepth)
      (fun o => { slots with outcome := some o }) s
  else skipMember slots s

/-- The record of the slots. -/
def RecordSlots.finish (slots : RecordSlots) : Except DataError Record :=
  (require "seq" slots.seq).bind fun seq =>
  (require "timestamp" slots.timestamp).bind fun timestamp =>
  (require "elapsed_ms" slots.elapsed).bind fun elapsed =>
  (require "argv" slots.argv).bind fun argv =>
  (require "outcome" slots.outcome).bind fun outcome =>
  .ok { seq, timestamp, elapsed, argv, outcome }

/-- Read a record from the elements of an array. -/
def readRecordElements (s : List Char) : Result Record :=
  (element 0 recordArrayLabel (readWord 64 "u64") s).bind fun (seq, s) =>
  (element 1 recordArrayLabel readTimestamp s).bind fun (timestamp, s) =>
  (element 2 recordArrayLabel readElapsed s).bind fun (elapsed, s) =>
  (element 3 recordArrayLabel readStrings s).bind fun (argv, s) =>
  (element 4 recordArrayLabel (readOutcome recordDepth) s).bind fun (outcome, s) =>
  (endArray s).map fun r => ({ seq, timestamp, elapsed, argv, outcome }, r)

/-- Read a record. -/
def readRecord (s : List Char) : Result Record :=
  match readHead s with
  | .error e => .error e
  | .ok (.object, t) =>
    readObject recordMember RecordSlots.finish ⟨none, none, none, none, none⟩ t
  | .ok (.array, t) => readRecordElements t
  | .ok (h, _) => reject (.invalidType h recordLabel)

/-! ### Whole texts -/

/-- The outcome in a text. -/
def Outcome.ofJson (s : List Char) : Except ReadError Outcome := complete (readOutcome outcomeDepth) s

/-- The record in a text. -/
def Record.ofJson (s : List Char) : Except ReadError Record := complete readRecord s

end HashReplay.Capture
