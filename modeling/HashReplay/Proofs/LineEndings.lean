import HashReplay.Proofs.Fixture.Records
import HashReplay.Proofs.HashLine.Lines
import HashReplay.Verdict

/-!
# Line endings

A text may come with a carriage return in front of every line feed.  Fixtures and outputs take no notice
of that, even if there are carriage returns already.  A fixture is read line by line, and there the
carriage return is one more blank at the end of a line: one is dropped with the line feed, and trimming
takes the others.  An output is cut at its line feeds alone, and there the carriage return is one more
character behind the token.

The line behind the last line feed gets no carriage return, so texts have the same number of lines
afterwards, and every line keeps its number.

## Main definitions

* `Text.withReturns` — a text with a carriage return in front of every line feed.
* `Text.returned` — what that makes of its pieces.

## Main results

* `Text.linePieces_withReturns`, `Text.map_trim_lines_withReturns` — the pieces and the lines afterwards.
* `parse_withReturns`, `extract_withReturns` — the cases and the hash afterwards.
* `lineEndings_irrelevant` — line endings do not matter.
-/

namespace HashReplay

namespace Text

/-- A text with a carriage return in front of every line feed. -/
def withReturns (s : List Char) : List Char :=
  s.flatMap fun c => if c = '\n' then ['\r', '\n'] else [c]

/-- Pieces with a carriage return at the end of each, except for the last one, which no line feed ends. -/
def returned : List (List Char) → List (List Char)
  | [] => []
  | [p] => [p]
  | p :: q :: ps => (p ++ ['\r']) :: returned (q :: ps)

theorem withReturns_lineFeed (s : List Char) :
    withReturns ('\n' :: s) = '\r' :: '\n' :: withReturns s := by
  simp [withReturns]

theorem withReturns_cons {c : Char} (h : c ≠ '\n') (s : List Char) :
    withReturns (c :: s) = c :: withReturns s := by
  simp [withReturns, h]

/-- A piece that another one follows is ended by a line feed. -/
theorem returned_cons (p : List Char) {ps : List (List Char)} (h : ps ≠ []) :
    returned (p :: ps) = (p ++ ['\r']) :: returned ps := by
  obtain ⟨q, qs, rfl⟩ := List.exists_cons_of_ne_nil h
  rfl

theorem returned_ne_nil {ps : List (List Char)} (h : ps ≠ []) : returned ps ≠ [] := by
  cases ps with
  | nil => exact absurd rfl h
  | cons p ps =>
    cases ps with
    | nil => exact h
    | cons q ps => exact List.cons_ne_nil _ _

theorem returned_consFirst (c : Char) {ps : List (List Char)} (h : ps ≠ []) :
    returned (consFirst c ps) = consFirst c (returned ps) := by
  cases ps with
  | nil => exact absurd rfl h
  | cons p ps =>
    cases ps with
    | nil => rfl
    | cons q ps => rfl

/-- **The pieces afterwards** are the same with a carriage return at the end of all but the last. -/
theorem linePieces_withReturns (s : List Char) :
    linePieces (withReturns s) = returned (linePieces s) := by
  unfold linePieces
  induction s with
  | nil => rfl
  | cons c s ih =>
    have hne := pieces_ne_nil (· == '\n') s
    by_cases hc : c = '\n'
    · subst hc
      rw [withReturns_lineFeed, pieces, pieces, pieces, ih]
      exact (returned_cons [] hne).symm
    · have htest : ¬(c == '\n') = true := by simpa using hc
      rw [withReturns_cons hc, pieces, pieces, if_neg htest, if_neg htest, ih]
      exact (returned_consFirst c hne).symm

/-- Carriage returns that are there already stay, and the last piece gets none. -/
example : linePieces (withReturns "a\r\n\rb\n\nc\r".toList) =
    ["a\r\r".toList, "\rb\r".toList, "\r".toList, "c\r".toList] := by
  decide

/-- **The lines afterwards** are as many as before, and without the blanks around them they are the
same. -/
theorem map_trim_lines_withReturns (s : List Char) :
    (lines (withReturns s)).map trim = (lines s).map trim := by
  have hpieces : ∀ ps : List (List Char),
      (linesOfPieces (returned ps)).map trim = (linesOfPieces ps).map trim := by
    intro ps
    induction ps with
    | nil => rfl
    | cons p ps ih =>
      by_cases hps : ps = []
      · -- no line feed ends the last piece, so it is left as it is
        rw [hps]
        rfl
      · have hchop : chopReturn (p ++ ['\r']) = p := by rw [chopReturn_concat, if_pos rfl]
        rw [returned_cons p hps, linesOfPieces_cons _ (returned_ne_nil hps), hchop,
          linesOfPieces_cons p hps, List.map_cons, List.map_cons, ih, trim_chopReturn]
  rw [lines, lines, linePieces_withReturns, hpieces]

end Text

/-! ### Fixtures -/

namespace Fixture

/-- The fields on lines do not depend on the blanks around them. -/
theorem fieldsFrom_congr {ls ms : List (List Char)} (h : ls.map Text.trim = ms.map Text.trim)
    (n : Nat) : fieldsFrom n ls = fieldsFrom n ms := by
  have htrim (xs : List (List Char)) : (xs.zipIdx n).map (fun l =>
      Field.mk l.2 (String.ofList (Text.trim l.1))) =
        ((xs.map Text.trim).zipIdx n).map fun l => Field.mk l.2 (String.ofList l.1) := by
    rw [List.zipIdx_map, List.map_map]
    rfl
  rw [fieldsFrom, fieldsFrom, htrim, htrim, h]

/-- A byte-order mark is no line feed, and none comes to the front. -/
theorem stripMark_withReturns (s : List Char) :
    stripMark (Text.withReturns s) = Text.withReturns (stripMark s) := by
  cases s with
  | nil => rfl
  | cons c s =>
    by_cases hfeed : c = '\n'
    · subst hfeed
      rw [Text.withReturns_lineFeed, stripMark, stripMark, if_neg (by decide), if_neg (by decide),
        Text.withReturns_lineFeed]
    · rw [Text.withReturns_cons hfeed, stripMark, stripMark]
      split
      · rfl
      · rw [Text.withReturns_cons hfeed]

theorem parse_withReturns (text : String) :
    parse (String.ofList (Text.withReturns text.toList)) = parse text := by
  have hfields : fields (String.ofList (Text.withReturns text.toList)) = fields text := by
    rw [fields_stripMark, fields_stripMark, String.toList_ofList, stripMark_withReturns]
    exact fieldsFrom_congr (Text.map_trim_lines_withReturns _) 1
  rw [parse_eq, parse_eq, hfields]

end Fixture

/-! ### Outputs -/

theorem HashLine.extract_withReturns (s : List Char) :
    HashLine.extract (Text.withReturns s) = HashLine.extract s := by
  have hpieces : ∀ ps : List (List Char),
      (Text.returned ps).findSome? tokenAt = ps.findSome? tokenAt := by
    intro ps
    induction ps with
    | nil => rfl
    | cons p ps ih =>
      by_cases hps : ps = []
      · rw [hps]
        rfl
      · rw [Text.returned_cons p hps, List.findSome?_cons, List.findSome?_cons, ih,
          tokenAt_append_return]
  rw [extract_eq_findSome?, extract_eq_findSome?, Text.linePieces_withReturns, hpieces]

/-- **Line endings do not matter.**  Put a carriage return in front of every line feed of a text, which
may hold carriage returns anywhere.  A fixture has the same cases on the same lines and lacks the same
fields at its end; in an output the same hash is found, and the verdict on it is the same. -/
theorem lineEndings_irrelevant :
    (∀ fixture : String,
      Fixture.parse (String.ofList (Text.withReturns fixture.toList)) = Fixture.parse fixture) ∧
    (∀ output : List Char,
      HashLine.extract (Text.withReturns output) = HashLine.extract output) ∧
    ∀ output expected : String,
      Verdict.check (String.ofList (Text.withReturns output.toList)) expected =
        Verdict.check output expected := by
  refine ⟨Fixture.parse_withReturns, HashLine.extract_withReturns, fun output expected => ?_⟩
  rw [Verdict.check, Verdict.check, String.toList_ofList, HashLine.extract_withReturns]

end HashReplay
