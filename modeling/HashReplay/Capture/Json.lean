import HashReplay.Binary64.Layout
import HashReplay.Capture.Record
import HashReplay.Json.Writer

/-!
# Records as JSON

A record is an object with five members, always written in one order.  The elapsed time is written in
milliseconds, computed in binary floating point: the seconds and the fraction of a second are rounded
and added, and the sum is multiplied by a thousand, each step with its own rounding.

## Main definitions

* `millis` — the elapsed time as a floating-point number of milliseconds.
* `Outcome.json`, `Record.json?` — the written forms.
-/

namespace HashReplay

namespace Timestamp

/-- The members of a moment's object. -/
def members (secs nanos : Nat) : List (String × List Char) :=
  [("secs_since_epoch", Text.decimal secs), ("nanos_since_epoch", Text.decimal nanos)]

/-- A moment as JSON.  A moment before 1970 has no written form. -/
def json? (t : Timestamp) : Option (List Char) :=
  if t.secs < 0 then none else some (Json.object (members t.secs.toNat t.nanos.val))

end Timestamp

namespace Capture

/-- A duration in milliseconds, computed in binary floating point. -/
def millis (d : Duration) : Rat :=
  let whole := Binary64.round (d.secs.toNat : Rat)
  let part := Binary64.round ((d.nanos.val : Rat) / 1000000000)
  Binary64.round (Binary64.round (whole + part) * 1000)

/-- A text as JSON. -/
def textJson (s : String) : List Char := Json.text s.toList

namespace Outcome

/-- The members that an outcome has beside its kind. -/
def details : Outcome → List (String × List Char)
  | .passed hash => [("hash", textJson hash)]
  | .mismatch observed expected =>
    [("observed", textJson observed), ("expected", textJson expected)]
  | .malformedOutput expected => [("expected", textJson expected)]
  | .launchFailure message => [("message", textJson message)]

/-- The members of an outcome's object, the kind first. -/
def members (o : Outcome) : List (String × List Char) :=
  ("type", textJson o.kind.name) :: o.details

/-- An outcome as JSON. -/
def json (o : Outcome) : List Char := Json.object o.members

end Outcome

namespace Record

/-- The members of a record's object, around the written form of its timestamp. -/
def members (r : Record) (timestamp : List Char) : List (String × List Char) :=
  [("seq", Text.decimal r.seq),
    ("timestamp", timestamp),
    ("elapsed_ms", Binary64.magnitudeText (millis r.elapsed)),
    ("argv", Json.array (r.argv.map textJson)),
    ("outcome", r.outcome.json)]

/-- A record as JSON; there is none if its timestamp lies before 1970. -/
def json? (r : Record) : Option (List Char) :=
  r.timestamp.json?.map fun t => Json.object (r.members t)

end Record

/-- Why a record has no written form. -/
def beforeEpochMessage : String := "SystemTime must be later than UNIX_EPOCH"

end Capture

end HashReplay
