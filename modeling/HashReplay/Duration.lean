import HashReplay.Text.Numeral

/-!
# Durations

A length of time, counted in whole seconds and nanoseconds below one second.

## Main definitions

* `Duration` — the type; the number of seconds is a 64-bit word.
* `Duration.millis` — the whole milliseconds of a duration.
* `Duration.text` — a duration for people: the largest unit in which it is at least one, with the
  exact fraction.
-/

namespace HashReplay

/-- A length of time: whole seconds, and nanoseconds below one second. -/
structure Duration where
  /-- The whole seconds. -/
  secs : UInt64
  /-- The nanoseconds beyond them. -/
  nanos : Fin 1000000000
  deriving DecidableEq, Repr

namespace Duration

/-- No time at all. -/
def zero : Duration := ⟨0, 0⟩

instance : Inhabited Duration := ⟨zero⟩

/-- That many whole seconds. -/
def ofSecs (n : UInt64) : Duration := ⟨n, 0⟩

/-- The length in nanoseconds. -/
def toNanos (d : Duration) : Nat := d.secs.toNat * 1000000000 + d.nanos.val

/-- The nanoseconds beyond the whole seconds in that many nanoseconds. -/
def beyondSeconds (n : Nat) : Fin 1000000000 := ⟨n % 1000000000, Nat.mod_lt _ (by decide)⟩

/-- That many nanoseconds; the seconds must fit their word, so larger counts are cut to it. -/
def ofNanos (n : Nat) : Duration := ⟨UInt64.ofNat (n / 1000000000), beyondSeconds n⟩

/-- That many milliseconds. -/
def ofMillis (n : Nat) : Duration := ofNanos (n * 1000000)

/-- The whole milliseconds. -/
def millis (d : Duration) : Nat := d.toNanos / 1000000

/-- A duration is its number of nanoseconds. -/
theorem ofNanos_toNanos (d : Duration) : ofNanos d.toNanos = d := by
  obtain ⟨s, n⟩ := d
  have hn := n.isLt
  have h₁ : (s.toNat * 1000000000 + n.val) / 1000000000 = s.toNat := by omega
  have h₂ : (s.toNat * 1000000000 + n.val) % 1000000000 = n.val := by omega
  simp [ofNanos, beyondSeconds, toNanos, h₁, h₂]

/-! ### As text -/

/-- A fraction of a unit that has `width` decimal places: a point and the digits of `part`, without
trailing zeros; nothing at all for zero. -/
def fraction (width part : Nat) : List Char :=
  if part = 0 then []
  else
    let digits := Text.decimal part
    let padded := List.replicate (width - digits.length) '0' ++ digits
    '.' :: (padded.reverse.dropWhile (· == '0')).reverse

/-- The duration in the largest of seconds, milliseconds, microseconds and nanoseconds in which it is
at least one. -/
def text (d : Duration) : String :=
  let n := d.nanos.val
  let chars :=
    if d.secs ≠ 0 then Text.decimal d.secs.toNat ++ fraction 9 n ++ ['s']
    else if 1000000 ≤ n then
      Text.decimal (n / 1000000) ++ fraction 6 (n % 1000000) ++ ['m', 's']
    else if 1000 ≤ n then Text.decimal (n / 1000) ++ fraction 3 (n % 1000) ++ ['µ', 's']
    else Text.decimal n ++ ['n', 's']
  String.ofList chars

end Duration

end HashReplay
