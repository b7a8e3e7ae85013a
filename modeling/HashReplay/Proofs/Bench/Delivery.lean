import HashReplay.Proofs.Bench.Ending

/-!
# How a report is delivered

A run hands its report to a sink in many small pieces, from many places: the header, the echoes, the
details, the dumps, the status lines, the times and the summary.  Seen from the sink this is one list of
pieces, handed over up to the first that is refused, and then a flush.  The run ends with the error of
that piece or of the flush, and without one only if the whole report has been delivered.

For a sink that is full after a number of line feeds, this comes down to counting those of the report:
the last piece of a report is a line feed, so nothing of the report is left over if and only if all of
its line feeds have room.

## Main definitions

* `Sink.deliver` — pieces handed over, and a flush.
* `Sink.limited` — an empty sink that is full after a number of line feeds.

## Main results

* `Sink.writeAll_cases` — pieces are handed over up to the first that is refused.
* `Bench.replay_eq_deliver` — a run delivers its report, and ends with the error of the delivery.
* `Bench.replay_limited` — what is left of a report for which there may be no room.
-/

namespace HashReplay

namespace Sink

/-! ### Delivering pieces -/

/-- Hand over pieces, and then flush: the error, and the sink afterwards. -/
def deliver (k : Sink) (ps : List String) : Option IoError × Sink :=
  match k.writeAll ps with
  | (none, k') => (k'.flush, k')
  | refused => refused

@[simp] theorem take_empty (k : Sink) : k.take "" = k := by
  rw [take, String.append_empty]

theorem take_take (k : Sink) (p q : String) : (k.take p).take q = k.take (p ++ q) := by
  rw [take, take, take, String.append_assoc]

/-- **Pieces are handed over up to the first that is refused.**  What comes before it is taken, and
nothing after it. -/
theorem writeAll_cases : ∀ (ps : List String) (k : Sink), ∃ taken rest, ps = taken ++ rest ∧
    k.writeAll taken = (none, k.take (String.join taken)) ∧
    (rest = [] ∨ ∃ p later, rest = p :: later ∧
      k.room.refuses (k.written ++ String.join taken) p = true ∧
      k.writeAll ps = (some k.refusal, k.take (String.join taken))) := by
  intro ps
  induction ps with
  | nil => intro k; exact ⟨[], [], rfl, by simp, Or.inl rfl⟩
  | cons p ps ih =>
    intro k
    cases hp : k.room.refuses k.written p with
    | true =>
      refine ⟨[], p :: ps, rfl, by simp, Or.inr ⟨p, ps, rfl, ?_, ?_⟩⟩
      · rw [String.join_nil, String.append_empty]
        exact hp
      · rw [writeAll, write, if_pos hp, String.join_nil, take_empty]
    | false =>
      -- the first piece is taken, and the others meet a sink that has it
      have hwrite : k.write p = (none, k.take p) := by
        rw [write, if_neg (Bool.eq_false_iff.mp hp)]
      have hstep (qs : List String) : k.writeAll (p :: qs) = (k.take p).writeAll qs := by
        rw [writeAll, hwrite]
      obtain ⟨taken, rest, rfl, htaken, hrest⟩ := ih (k.take p)
      refine ⟨p :: taken, rest, rfl, ?_, ?_⟩
      · rw [hstep, htaken, take_take, String.join_cons]
      · rcases hrest with hnil | ⟨q, later, hq, hrefuses, hall⟩
        · exact Or.inl hnil
        · refine Or.inr ⟨q, later, hq, ?_, ?_⟩
          · rw [String.join_cons, ← String.append_assoc]
            exact hrefuses
          · rw [hstep, hall, take_take, String.join_cons]
            rfl

/-! ### Sinks that are full after a number of line feeds -/

/-- An empty sink that is full after `n` line feeds. -/
def limited (n : Nat) (refusal : IoError) (flushError : Option IoError) : Sink :=
  ⟨"", .upTo n, refusal, flushError⟩

@[simp] theorem lineFeeds_append (s t : String) :
    Room.lineFeeds (s ++ t) = Room.lineFeeds s + Room.lineFeeds t := by
  rw [Room.lineFeeds, String.toList_append, List.count_append, Room.lineFeeds, Room.lineFeeds]

theorem refuses_upTo {n : Nat} {taken piece : String} :
    (Room.upTo n).refuses taken piece = true ↔ piece ≠ "" ∧ n ≤ Room.lineFeeds taken := by
  simp [Room.upTo]

/-- One more line feed is taken if there is room for one. -/
theorem writeAll_lineFeed {k : Sink} {n : Nat} (hroom : k.room = .upTo n) :
    (k.writeAll ["\n"]).1 = none ↔ Room.lineFeeds k.written < n := by
  rw [writeAll, write, hroom]
  by_cases h : (Room.upTo n).refuses k.written "\n" = true
  · have hle := (refuses_upTo.mp h).2
    rw [if_pos h]
    exact iff_of_false (Option.some_ne_none _) (by omega)
  · have hlt : ¬n ≤ Room.lineFeeds k.written := fun hle => h (refuses_upTo.mpr ⟨by decide, hle⟩)
    rw [if_neg h]
    exact iff_of_true rfl (by omega)

/-- **Pieces that end in a line feed** are all taken exactly if there is room for all of their line
feeds. -/
theorem writeAll_upTo {k : Sink} {n : Nat} (hroom : k.room = .upTo n) (ps : List String) :
    (k.writeAll (ps ++ ["\n"])).1 = none ↔
      Room.lineFeeds (k.written ++ String.join (ps ++ ["\n"])) ≤ n := by
  have hfeed : Room.lineFeeds "\n" = 1 := by decide
  have hcount : Room.lineFeeds (k.written ++ String.join (ps ++ ["\n"])) =
      Room.lineFeeds (k.written ++ String.join ps) + 1 := by
    rw [String.join_append, ← String.append_assoc, lineFeeds_append, String.join_cons,
      String.join_nil, String.append_empty, hfeed]
  rw [hcount]
  obtain ⟨taken, rest, rfl, htaken, hrest⟩ := k.writeAll_cases ps
  rcases hrest with rfl | ⟨p, later, rfl, hrefuses, hall⟩
  · -- only the last line feed is left
    rw [List.append_nil, writeAll_append _ _ htaken]
    exact writeAll_lineFeed (k := k.take (String.join taken)) hroom
  · -- what has been taken is full, and the last line feed comes on top of it
    rw [writeAll_append_of_refused _ _ hall]
    rw [hroom, refuses_upTo, lineFeeds_append] at hrefuses
    refine iff_of_false (Option.some_ne_none _) ?_
    rw [String.join_append, lineFeeds_append, lineFeeds_append]
    omega

/-- A text goes to a sink in pieces.  Either all of it is taken, and the error is that of the flush, if
that fails; or it is taken up to a piece that the sink refuses, and the error is that of the sink. -/
inductive Delivers (k : Sink) (text : String) : Option IoError → Sink → Prop where
  | whole {ps : List String} (htext : String.join ps = text)
      (htaken : k.writeAll ps = (none, k.take text)) : Delivers k text k.flushError (k.take text)
  | cut {taken later : List String} {p : String} (htext : String.join (taken ++ p :: later) = text)
      (htaken : k.writeAll taken = (none, k.take (String.join taken)))
      (hrefused : k.room.refuses (k.written ++ String.join taken) p = true) :
      Delivers k text (some k.refusal) (k.take (String.join taken))

/-- **Pieces are delivered as one text.** -/
theorem delivers_deliver (k : Sink) (ps : List String) :
    k.Delivers (String.join ps) (k.deliver ps).1 (k.deliver ps).2 := by
  obtain ⟨taken, rest, rfl, htaken, hrest⟩ := k.writeAll_cases ps
  rcases hrest with rfl | ⟨p, later, rfl, hrefused, hall⟩
  · rw [List.append_nil, deliver, htaken]
    exact .whole rfl htaken
  · rw [deliver, hall]
    exact .cut rfl htaken hrefused

/-- What is taken of a text comes first in it. -/
theorem Delivers.taken_first {k k' : Sink} {text : String} {error : Option IoError}
    (h : k.Delivers text error k') : k'.written.toList <+: (k.written ++ text).toList := by
  cases h with
  | whole => exact List.prefix_refl _
  | @cut taken later p htext =>
    rw [← htext, String.join_append, ← String.append_assoc, String.toList_append]
    exact List.prefix_append _ _

/-- **Delivering pieces to a limited sink.**  If there is room for the line feeds of the text, all of it
is taken, and the error is that of the flush; otherwise the error is that of the sink. -/
theorem deliver_limited (n : Nat) (refusal : IoError) (flushError : Option IoError)
    (ps : List String) :
    (Room.lineFeeds (String.join (ps ++ ["\n"])) ≤ n →
      (limited n refusal flushError).deliver (ps ++ ["\n"]) =
        (flushError, (limited n refusal flushError).take (String.join (ps ++ ["\n"])))) ∧
      (n < Room.lineFeeds (String.join (ps ++ ["\n"])) →
        ((limited n refusal flushError).deliver (ps ++ ["\n"])).1 = some refusal) := by
  have hiff := writeAll_upTo (k := limited n refusal flushError) rfl ps
  rw [show (limited n refusal flushError).written = "" from rfl, String.empty_append] at hiff
  obtain ⟨taken, rest, hps, htaken, hrest⟩ := (limited n refusal flushError).writeAll_cases (ps ++ ["\n"])
  rcases hrest with rfl | ⟨p, later, -, -, hall⟩
  · rw [List.append_nil] at hps
    rw [hps, htaken] at hiff
    refine ⟨fun _ => ?_, fun hlt => ?_⟩
    · rw [deliver, hps, htaken]
      rfl
    · rw [hps] at hlt
      have hle := hiff.mp rfl
      omega
  · rw [hall] at hiff
    refine ⟨fun hle => ?_, fun _ => ?_⟩
    · cases hiff.mpr hle
    · rw [deliver, hall]
      rfl

end Sink

namespace Report

/-- The last piece of a report is a line feed. -/
theorem exists_pieces_stages (v : Verbosity) (source : String) (rs : List CaseResult) :
    ∃ ps, pieces (linesOf (stages v source rs)) = ps ++ ["\n"] := by
  have hclosing (s : Summary) : pieces (linesOf [(.closing, closing s)]) = [s.line] ++ ["\n"] := rfl
  rw [stages, linesOf_cons, linesOf_append, pieces_append, pieces_append, hclosing,
    ← List.append_assoc, ← List.append_assoc]
  exact ⟨_, rfl⟩

end Report

namespace Bench

variable {σ : Type}

/-! ### Delivering the report of a run -/

/-- What a run hands to its sink, and what becomes of it. -/
theorem writeAll_moments : ∀ (ms : List (Moment σ)) (k : Sink),
    k.writeAll (Report.pieces (Report.linesOf (ms.map Moment.print))) =
      match play k ms with
      | .ok k' => (none, k')
      | .error refused => (some refused.cause, refused.bench.sink) := by
  intro ms
  induction ms with
  | nil => intro k; rfl
  | cons m ms ih =>
    intro k
    rw [List.map_cons, Moment.print, Report.linesOf_cons, Report.pieces_append, play]
    rcases hm : k.writeAll (Report.pieces m.lines) with ⟨_ | cause, k₁⟩
    · rw [Sink.writeAll_append _ _ hm]
      exact ih k₁
    · rw [Sink.writeAll_append_of_refused _ _ hm]
      rfl

/-- **A run delivers its report**, and ends with the error of the delivery, or with its summary if there
is none. -/
theorem replay_eq_deliver (b : Bench σ) (runner : Runner σ) (cases : List TestCase) :
    (b.after runner cases).sink =
        (b.sink.deliver (Report.pieces (Report.linesOf (b.report runner cases)))).2 ∧
      b.replay runner cases =
        match (b.sink.deliver (Report.pieces (Report.linesOf (b.report runner cases)))).1 with
        | none => .ok (b.summary runner cases, b.after runner cases)
        | some cause => .error ⟨cause, b.after runner cases⟩ := by
  have hmoments := writeAll_moments (b.moments runner cases) b.sink
  rw [stages_moments] at hmoments
  rw [after, Sink.deliver, hmoments, replay_eq_play]
  cases play b.sink (b.moments runner cases) with
  | error refused => exact ⟨rfl, rfl⟩
  | ok k =>
    simp only [Except.bind, finish]
    cases k.flush with
    | none => exact ⟨rfl, rfl⟩
    | some cause => exact ⟨rfl, rfl⟩

section WithSink

variable (b : Bench σ) (runner : Runner σ) (cases : List TestCase) (k : Sink)

@[simp] theorem sink_withSink : (b.withSink k).sink = k := rfl

theorem course_withSink : (b.withSink k).course runner cases = b.course runner cases :=
  attempts_comm runner (fun b index c => b.settle_withSink runner index c k) (fun _ _ _ => rfl) cases
    b.restart 1

theorem report_withSink : (b.withSink k).report runner cases = b.report runner cases := by
  rw [report, report, results, results, course_withSink]
  rfl

theorem summary_withSink : (b.withSink k).summary runner cases = b.summary runner cases := by
  rw [summary_eq, summary_eq, results, results, course_withSink]

end WithSink

/-- **No part of a report is lost without an error.**  Let `text` be what a run hands to a sink that
takes everything.  Any other sink, whatever it refuses, has been handed a first part of `text` when the
run ends; nothing after the first piece that it refused.  The run ends with the error of that piece or
of the flush, and with its summary only if all of `text` has been taken and flushed.

A sink that is full after `n` line feeds takes all of `text` exactly if `text` has no more than `n` of
them, so the run has a summary exactly if that is so and the flush does not fail. -/
theorem replay_limited (b : Bench σ) (runner : Runner σ) (cases : List TestCase) (n : Nat)
    (refusal : IoError) (flushError : Option IoError) :
    ∃ summary whole text,
      (b.withSink .unlimited).replay runner cases = .ok (summary, whole) ∧
      whole.sink.written = text ∧
      (∀ k : Sink, ∃ error, k.Delivers text error ((b.withSink k).after runner cases).sink ∧
        (b.withSink k).replay runner cases =
          match error with
          | none => .ok (summary, (b.withSink k).after runner cases)
          | some cause => .error ⟨cause, (b.withSink k).after runner cases⟩) ∧
      let limited := b.withSink (.limited n refusal flushError)
      let left := limited.after runner cases
      left.sink.written.toList <+: text.toList ∧
        ((∃ done, limited.replay runner cases = .ok done) ↔
          Room.lineFeeds text ≤ n ∧ flushError = none) ∧
        (Room.lineFeeds text ≤ n → left.sink.written = text) ∧
        ∀ refused, limited.replay runner cases = .error refused →
          some refused.cause = if Room.lineFeeds text ≤ n then flushError else some refusal := by
  have hwhole := (b.withSink .unlimited).replay_of_takesAll runner cases Sink.takesAll_unlimited
  obtain ⟨ps, hps⟩ : ∃ ps, Report.pieces (Report.linesOf (b.report runner cases)) = ps ++ ["\n"] :=
    Report.exists_pieces_stages _ _ _
  have hdeliver (k : Sink) := (b.withSink k).replay_eq_deliver runner cases
  rw [report_withSink, summary_withSink, ← Report.join_pieces] at hwhole
  simp only [sink_withSink, report_withSink, summary_withSink, hps] at hdeliver hwhole
  refine ⟨_, _, String.join (ps ++ ["\n"]), hwhole, String.empty_append, ?_, ?_⟩
  · intro k
    obtain ⟨hsink, hreplay⟩ := hdeliver k
    refine ⟨(k.deliver (ps ++ ["\n"])).1, ?_, hreplay⟩
    rw [hsink]
    exact k.delivers_deliver (ps ++ ["\n"])
  · intro limited left
    obtain ⟨hsink, hreplay⟩ := hdeliver (.limited n refusal flushError)
    obtain ⟨hroom, hfull⟩ := Sink.deliver_limited n refusal flushError ps
    have hfirst := ((Sink.limited n refusal flushError).delivers_deliver (ps ++ ["\n"])).taken_first
    have hwritten : (Sink.limited n refusal flushError).written = "" := rfl
    rw [← hsink, hwritten, String.empty_append] at hfirst
    refine ⟨hfirst, ?_⟩
    by_cases hle : Room.lineFeeds (String.join (ps ++ ["\n"])) ≤ n
    · rw [hroom hle] at hsink hreplay
      refine ⟨?_, fun _ => ?_, fun refused hrefused => ?_⟩
      · cases flushError with
        | none => exact iff_of_true ⟨_, hreplay⟩ ⟨hle, rfl⟩
        | some cause =>
          refine iff_of_false (fun ⟨done, hdone⟩ => ?_) fun h => Option.some_ne_none _ h.2
          cases hdone.symm.trans hreplay
      · exact (congrArg Sink.written hsink).trans String.empty_append
      · rw [if_pos hle]
        cases flushError with
        | none => cases hrefused.symm.trans hreplay
        | some cause => rw [Except.error.inj (hrefused.symm.trans hreplay)]
    · rw [hfull (by omega)] at hreplay
      refine ⟨?_, fun h => absurd h hle, fun refused hrefused => ?_⟩
      · refine iff_of_false (fun ⟨done, hdone⟩ => ?_) fun h => hle h.1
        cases hdone.symm.trans hreplay
      · rw [if_neg hle, Except.error.inj (hrefused.symm.trans hreplay)]

/-- A sink that is full after two lines gets the first two lines of a report that has more. -/
theorem replay_limited_sample : ∃ summary whole refused,
    (sampleBench .unlimited).replay sampleRunner sampleCases = .ok (summary, whole) ∧
      (sampleBench (.limited 2 .noSpace none)).replay sampleRunner sampleCases = .error refused ∧
      refused.bench.sink.written.toList <+: whole.sink.written.toList ∧
      2 < Room.lineFeeds whole.sink.written := by
  obtain ⟨refused, hrefused⟩ : ∃ refused,
      (sampleBench (.limited 2 .noSpace none)).replay sampleRunner sampleCases = .error refused :=
    ⟨_, rfl⟩
  obtain ⟨summary, whole, text, hwhole, rfl, -, hfirst, hok, -⟩ :=
    replay_limited (sampleBench .unlimited) sampleRunner sampleCases 2 .noSpace none
  have hleft : (sampleBench (.limited 2 .noSpace none)).after sampleRunner sampleCases =
      refused.bench := by
    rw [after, hrefused]
  refine ⟨summary, whole, refused, hwhole, hrefused, hleft ▸ hfirst, Nat.lt_of_not_le fun hle => ?_⟩
  obtain ⟨done, hdone⟩ := hok.mpr ⟨hle, rfl⟩
  cases hdone.symm.trans hrefused

end Bench

end HashReplay
