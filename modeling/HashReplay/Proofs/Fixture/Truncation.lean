import HashReplay.Proofs.Fixture.Records
import Mathlib.Data.List.Basic

/-!
# Cutting off an incomplete record

If a text ends inside a record, the line on which that record starts is known.  The lines before it are
a text of their own, which reads as the same cases with nothing left over: a record is cut off where it
starts, whatever comments, blank lines and line endings stand around it, and whether or not a byte-order
mark stands in front of the text.

## Main definitions

* `Text.firstLines` — a text up to the end of one of its lines.
* `Fixture.linesBefore` — the lines of a text before one of them.

## Main results

* `Text.lines_firstLines`, `Fixture.linesBefore_spec` — these are the first lines.
* `Fixture.exists_of_dangling` — the fields of whole records, and the field at which the rest starts.
* `Fixture.parse_linesBefore` — the text before an incomplete record.
-/

namespace HashReplay

namespace Text

/-- A text up to the line feed that ends its line `n`, if there is one. -/
def firstLines : Nat → List Char → List Char
  | 0, _ => []
  | _ + 1, [] => []
  | n + 1, c :: s => if c = '\n' then c :: firstLines n s else c :: firstLines (n + 1) s

theorem firstLines_prefix : ∀ (n : Nat) (s : List Char), firstLines n s <+: s := by
  intro n s
  fun_induction firstLines n s with
  | case1 => exact List.nil_prefix
  | case2 => exact List.nil_prefix
  | case3 n s ih => exact (List.prefix_cons_inj _).mpr ih
  | case4 n c s h ih => exact (List.prefix_cons_inj _).mpr ih

/-- A text without line feeds has only one line. -/
theorem firstLines_eq_self {s : List Char} (h : '\n' ∉ s) (n : Nat) : firstLines (n + 1) s = s := by
  induction s with
  | nil => rfl
  | cons c s ih =>
    rw [List.mem_cons, not_or] at h
    rw [firstLines, if_neg (Ne.symm h.1), ih h.2]

/-- The first line goes up to the first line feed. -/
theorem firstLines_append_lineFeed {p : List Char} (h : '\n' ∉ p) (n : Nat) (s : List Char) :
    firstLines (n + 1) (p ++ '\n' :: s) = p ++ '\n' :: firstLines n s := by
  induction p with
  | nil => rw [List.nil_append, firstLines, if_pos rfl, List.nil_append]
  | cons c p ih =>
    rw [List.mem_cons, not_or] at h
    rw [List.cons_append, firstLines, if_neg (Ne.symm h.1), ih h.2, List.cons_append]

theorem lines_eq_of_not_mem {s : List Char} (h : '\n' ∉ s) : lines s = if s.isEmpty then [] else [s] := by
  rw [lines, linePieces_eq_singleton h, linesOfPieces]

/-- **The first lines of a text** are the first of its lines. -/
theorem lines_firstLines : ∀ (n : Nat) (s : List Char), lines (firstLines n s) = (lines s).take n := by
  intro n
  induction n with
  | zero => intro s; rw [firstLines, List.take_zero]; rfl
  | succ n ih =>
    intro s
    by_cases h : '\n' ∈ s
    · obtain ⟨p, t, rfl, hp⟩ := List.eq_append_cons_of_mem h
      rw [firstLines_append_lineFeed hp, lines_append_lineFeed, lines_append_lineFeed, ih,
        linePieces_eq_singleton hp]
      rfl
    · rw [firstLines_eq_self h, lines_eq_of_not_mem h]
      split
      · rfl
      · rw [List.take_of_length_le (by simp)]

end Text

namespace Fixture

/-- The lines of a text before line `n`; lines count from one. -/
def linesBefore (text : String) (n : Nat) : String :=
  String.ofList (Text.firstLines (n - 1) text.toList)

/-- These lines are the first part of the text, and the first `n - 1` of its lines. -/
theorem linesBefore_spec (text : String) (n : Nat) :
    (linesBefore text n).toList <+: text.toList ∧
      Text.lines (linesBefore text n).toList = (Text.lines text.toList).take (n - 1) := by
  rw [linesBefore, String.toList_ofList]
  exact ⟨Text.firstLines_prefix _ _, Text.lines_firstLines _ _⟩

/-- A byte-order mark is part of the first line. -/
theorem stripMark_firstLines (n : Nat) (s : List Char) :
    stripMark (Text.firstLines n s) = Text.firstLines n (stripMark s) := by
  have hmark : byteOrderMark ≠ '\n' := by decide
  cases n with
  | zero => simp [Text.firstLines, stripMark]
  | succ n =>
    cases s with
    | nil => rfl
    | cons c s =>
      by_cases hc : c = byteOrderMark
      · rw [Text.firstLines, if_neg (hc ▸ hmark), stripMark, stripMark, if_pos hc, if_pos hc]
      · rw [stripMark, if_neg hc, Text.firstLines]
        split <;> rw [stripMark, if_neg hc]

/-! ### Fields and their lines -/

/-- The lines of fields are counted from `n`, and no two fields are on one line. -/
theorem lines_fieldsFrom : ∀ (ls : List (List Char)) (n : Nat),
    (∀ f ∈ fieldsFrom n ls, n ≤ f.line) ∧ (fieldsFrom n ls).Pairwise (·.line < ·.line) := by
  intro ls
  induction ls with
  | nil => intro n; simp
  | cons l ls ih =>
    intro n
    obtain ⟨hle, hpairwise⟩ := ih (n + 1)
    cases hl : isNoise (Text.trim l) with
    | true =>
      rw [fieldsFrom_cons_of_isNoise ls hl]
      exact ⟨fun f hf => Nat.le_of_succ_le (hle f hf), hpairwise⟩
    | false =>
      rw [fieldsFrom_cons ls hl]
      refine ⟨fun f hf => ?_, List.pairwise_cons.mpr ⟨hle, hpairwise⟩⟩
      rcases List.mem_cons.mp hf with rfl | hf
      · exact Nat.le_refl n
      · exact Nat.le_of_succ_le (hle f hf)

/-- The fields of the first lines are those with the numbers of these lines. -/
theorem fieldsFrom_take : ∀ (ls : List (List Char)) (n m : Nat),
    fieldsFrom n (ls.take m) = (fieldsFrom n ls).filter fun f => f.line < n + m := by
  intro ls
  induction ls with
  | nil => intro n m; simp
  | cons l ls ih =>
    intro n m
    cases m with
    | zero =>
      symm
      rw [List.take_zero, fieldsFrom_nil, List.filter_eq_nil_iff]
      intro f hf
      have hle := (lines_fieldsFrom (l :: ls) n).1 f hf
      simpa using hle
    | succ m =>
      have hline : n + (m + 1) = n + 1 + m := by omega
      rw [List.take_succ_cons, hline]
      cases hl : isNoise (Text.trim l) with
      | true => rw [fieldsFrom_cons_of_isNoise _ hl, fieldsFrom_cons_of_isNoise _ hl, ih]
      | false =>
        have hfirst : n < n + 1 + m := by omega
        rw [fieldsFrom_cons _ hl, fieldsFrom_cons _ hl, ih, List.filter_cons_of_pos]
        exact decide_eq_true hfirst

/-- Of fields in the order of their lines, those before the line of one are those before it. -/
theorem filter_line_lt {xs ys : List Field} {a : Field}
    (h : (xs ++ a :: ys).Pairwise (·.line < ·.line)) :
    ((xs ++ a :: ys).filter fun f => f.line < a.line) = xs := by
  rw [List.pairwise_append, List.pairwise_cons] at h
  obtain ⟨-, ⟨hafter, -⟩, hbefore⟩ := h
  have hxs : xs.filter (fun f => decide (f.line < a.line)) = xs :=
    List.filter_eq_self.mpr fun x hx => decide_eq_true (hbefore x hx a List.mem_cons_self)
  have hys : (a :: ys).filter (fun f => decide (f.line < a.line)) = [] := by
    rw [List.filter_eq_nil_iff]
    intro y hy
    rcases List.mem_cons.mp hy with rfl | hy
    · simp
    · simpa using Nat.le_of_lt (hafter y hy)
  rw [List.filter_append, hxs, hys, List.append_nil]

/-- The fields of a text before one of its lines. -/
theorem fields_linesBefore (text : String) {n : Nat} (hn : 1 ≤ n) :
    fields (linesBefore text n) = (fields text).filter fun f => f.line < n := by
  have hline : 1 + (n - 1) = n := by omega
  rw [fields, fields, ← stripMark_eq, ← stripMark_eq, linesBefore, String.toList_ofList,
    stripMark_firstLines, Text.lines_firstLines, fieldsFrom_take, hline]

/-! ### Incomplete records -/

/-- **The field at which an incomplete record starts.**  The fields before it are whole records, and no
record starts after it. -/
theorem exists_of_dangling : ∀ {fs : List Field} {i : Incomplete}, dangling fs = some i →
    ∃ whole a rest, fs = whole ++ a :: rest ∧ a.line = i.line ∧ records whole = records fs ∧
      dangling whole = none := by
  intro fs i h
  fun_induction dangling fs with
  | case1 a i' o h' rest ih =>
    obtain ⟨whole, a', rest', rfl, hline, hrecords, hnone⟩ := ih h
    refine ⟨a :: i' :: o :: h' :: whole, a', rest', rfl, hline, ?_, hnone⟩
    rw [records, records, hrecords]
  | case2 a b c => cases h; exact ⟨[], a, [b, c], rfl, rfl, rfl, rfl⟩
  | case3 a b => cases h; exact ⟨[], a, [b], rfl, rfl, rfl, rfl⟩
  | case4 a => cases h; exact ⟨[], a, [], rfl, rfl, rfl, rfl⟩
  | case5 => cases h

/-- **The text before an incomplete record** reads as the same cases, with nothing left over. -/
theorem parse_linesBefore {text : String} {i : Incomplete} (h : (parse text).incomplete = some i) :
    parse (linesBefore text i.line) = ⟨(parse text).cases, none⟩ := by
  rw [parse_eq] at h ⊢
  rw [parse_eq]
  obtain ⟨whole, a, rest, hfields, hline, hrecords, hnone⟩ := exists_of_dangling h
  obtain ⟨hle, hpairwise⟩ := lines_fieldsFrom (Text.lines (stripMark text.toList)) 1
  have hall : fieldsFrom 1 (Text.lines (stripMark text.toList)) = fields text := by
    rw [fields, stripMark_eq]
  rw [hall] at hle hpairwise
  have hpos : 1 ≤ i.line := hline ▸ hle a (hfields ▸ by simp)
  have hbefore : fields (linesBefore text i.line) = whole := by
    rw [fields_linesBefore text hpos, ← hline, hfields]
    exact filter_line_lt (hfields ▸ hpairwise)
  rw [hbefore, hrecords, hnone]

end Fixture

end HashReplay
