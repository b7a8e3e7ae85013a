import HashReplay.IoError

/-!
# Sinks

Where a report goes.  A text is handed to a sink in pieces, and a sink takes a piece as a whole or
refuses it.  What it refuses can depend on everything that it has taken so far; the usual sink takes
everything, or refuses every piece that is not empty once it has taken a number of line feeds.  A sink
may also refuse to be flushed.

## Main definitions

* `Room` — what a sink takes.
* `Sink` — what a sink has taken, and what it will refuse.
* `Sink.write`, `Sink.writeAll` — one piece, and pieces up to the first that is refused.
* `Sink.flush` — the error of a flush.
* `Sink.TakesAll` — the sinks that never refuse.
-/

namespace HashReplay

/-! ### What a sink takes -/

/-- What a sink takes. -/
structure Room where
  /-- Whether a piece is refused; the first text is all that has been taken before it. -/
  refuses : String → String → Bool

namespace Room

/-- Room for everything. -/
def unlimited : Room := ⟨fun _ _ => false⟩

/-- How many line feeds a text has. -/
def lineFeeds (s : String) : Nat := s.toList.count '\n'

/-- Room for `n` line feeds: once they have been taken, only empty pieces are. -/
def upTo (n : Nat) : Room := ⟨fun taken piece => piece ≠ "" && decide (n ≤ lineFeeds taken)⟩

/-- Room for a number of line feeds, or for everything. -/
def ofLimit : Option Nat → Room
  | none => unlimited
  | some n => upTo n

instance : Coe (Option Nat) Room := ⟨ofLimit⟩

end Room

/-! ### Sinks -/

/-- Where a report goes. -/
structure Sink where
  /-- Everything taken so far. -/
  written : String
  room : Room
  /-- The error of a refused write. -/
  refusal : IoError
  /-- The error of a flush, if flushing fails. -/
  flushError : Option IoError

namespace Sink

/-- The sink that takes everything. -/
def unlimited : Sink := ⟨"", .unlimited, .noSpace, none⟩

/-- The sink after it has taken a piece. -/
def take (k : Sink) (piece : String) : Sink := { k with written := k.written ++ piece }

/-- Hand over a piece: the sink afterwards, and the error if it was refused. -/
def write (k : Sink) (piece : String) : Option IoError × Sink :=
  if k.room.refuses k.written piece then (some k.refusal, k) else (none, k.take piece)

/-- Hand over pieces one after another, up to the first that is refused. -/
def writeAll (k : Sink) : List String → Option IoError × Sink
  | [] => (none, k)
  | piece :: rest =>
    match k.write piece with
    | (none, k) => k.writeAll rest
    | refused => refused

/-- Flush: the error, if flushing fails. -/
def flush (k : Sink) : Option IoError := k.flushError

/-! ### Handing over in parts -/

@[simp] theorem writeAll_nil (k : Sink) : k.writeAll [] = (none, k) := rfl

/-- Pieces that were all taken leave a sink that takes the following pieces as if they came alone. -/
theorem writeAll_append : ∀ (xs ys : List String) {k k' : Sink},
    k.writeAll xs = (none, k') → k.writeAll (xs ++ ys) = k'.writeAll ys := by
  intro xs ys
  induction xs with
  | nil =>
    intro k k' h
    simp only [writeAll_nil, Prod.mk.injEq, true_and] at h
    rw [h, List.nil_append]
  | cons x xs ih =>
    intro k k' h
    rw [writeAll] at h
    rw [List.cons_append, writeAll]
    rcases hx : k.write x with ⟨_ | cause, k₁⟩
    · rw [hx] at h
      exact ih h
    · rw [hx] at h
      simp at h

/-- Once a piece has been refused, nothing more is handed over. -/
theorem writeAll_append_of_refused : ∀ (xs ys : List String) {k k' : Sink} {cause : IoError},
    k.writeAll xs = (some cause, k') → k.writeAll (xs ++ ys) = (some cause, k') := by
  intro xs ys
  induction xs with
  | nil => intro k k' cause h; simp at h
  | cons x xs ih =>
    intro k k' cause h
    rw [writeAll] at h
    rw [List.cons_append, writeAll]
    rcases hx : k.write x with ⟨_ | cause', k₁⟩
    · rw [hx] at h
      exact ih h
    · rw [hx] at h
      exact h

/-- Pieces that were all taken are appended to what the sink has. -/
theorem written_writeAll : ∀ (ps : List String) {k k' : Sink}, k.writeAll ps = (none, k') →
    k'.written = k.written ++ String.join ps := by
  intro ps
  induction ps with
  | nil =>
    intro k k' h
    simp only [writeAll_nil, Prod.mk.injEq, true_and] at h
    rw [← h, String.join_nil, String.append_empty]
  | cons p ps ih =>
    intro k k' h
    rw [writeAll, write] at h
    cases hp : k.room.refuses k.written p with
    | true =>
      rw [if_pos hp] at h
      cases h
    | false =>
      rw [if_neg (Bool.eq_false_iff.mp hp)] at h
      rw [ih h, take, String.append_assoc, String.join_cons]

/-! ### Sinks that never refuse -/

/-- A sink that takes every piece and can be flushed. -/
structure TakesAll (k : Sink) : Prop where
  pieces : ∀ taken piece, k.room.refuses taken piece = false
  flush : k.flushError = none

theorem takesAll_unlimited : unlimited.TakesAll := ⟨fun _ _ => rfl, rfl⟩

/-- What is handed to a sink that never refuses is appended to what it has. -/
theorem TakesAll.writeAll : ∀ (ps : List String) {k : Sink}, k.TakesAll →
    k.writeAll ps = (none, { k with written := k.written ++ String.join ps }) := by
  intro ps
  induction ps with
  | nil => intro k _; simp
  | cons p ps ih =>
    intro k h
    have hp : k.write p = (none, k.take p) := by
      rw [write, h.pieces, if_neg Bool.false_ne_true]
    have hk : (k.take p).TakesAll := ⟨h.pieces, h.flush⟩
    rw [Sink.writeAll, hp]
    simp only [ih hk]
    simp [take, String.append_assoc]

end Sink

end HashReplay
