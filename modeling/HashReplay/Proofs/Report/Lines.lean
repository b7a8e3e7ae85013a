import HashReplay.Report
import Mathlib.Data.List.Flatten
import Mathlib.Data.List.Basic

/-!
# The lines that a reader of a report finds

A report is handed to its sink line by line, each with a line feed after it.  A reader only has the
text, and cuts it at the line feeds again.  Such a cut never goes across two lines that were handed
over, so what the reader finds is found in each of them; and a line that holds no line feed is found as
it was handed over, but for a carriage return at its end.

## Main definitions

* `linesIn` — the lines of a printed text.
* `OneLine` — a text that holds no line feed.

## Main results

* `linesIn_text` — the lines of a report are found in each line that was handed over.
* `linesIn_text_of_oneLine` — lines without line feeds are found as they are.
-/

namespace HashReplay.Report

/-- The lines of a printed text. -/
def linesIn (s : String) : List String := (Text.lines s.toList).map String.ofList

/-- A line without the carriage return that a reader takes for a part of the line ending. -/
def chop (l : String) : String := String.ofList (Text.chopReturn l.toList)

/-- The lines that are found in a line that was handed over. -/
def linesWithin (l : String) : List String :=
  (Text.linePieces l.toList).map fun p => String.ofList (Text.chopReturn p)

/-- A text that holds no line feed. -/
def OneLine (l : String) : Prop := '\n' ∉ l.toList

instance (l : String) : Decidable (OneLine l) := inferInstanceAs (Decidable ('\n' ∉ l.toList))

theorem toList_chop (l : String) : (chop l).toList = Text.chopReturn l.toList := String.toList_ofList

/-- A line that ends in another character is left as it is. -/
theorem chop_append {ending : String} {c : Char} (h : ending.toList.getLast? = some c) (hc : c ≠ '\r')
    (start : String) : chop (start ++ ending) = start ++ ending := by
  have hlast : (start ++ ending).toList.getLast? = some c := by
    rw [String.toList_append, List.getLast?_append, h, Option.some_or]
  refine String.toList_inj.mp ?_
  rw [toList_chop, Text.chopReturn_eq_self]
  rw [hlast]
  exact fun hreturn => hc (Option.some.inj hreturn)

/-- A text starts like its first part. -/
theorem head?_append_of_head? {s : String} {c : Char} (h : s.toList.head? = some c) (t : String) :
    (s ++ t).toList.head? = some c := by
  rw [String.toList_append, List.head?_append, h]
  rfl

theorem toList_text (ls : List String) : (text ls).toList = Text.ofLines (ls.map String.toList) := by
  rw [text, String.toList_join, Text.ofLines, List.flatMap_map, List.flatMap_map]
  congr 1
  funext l
  exact String.toList_append

/-- **The lines of a report** are found in each line that was handed over, in order. -/
theorem linesIn_text (ls : List String) : linesIn (text ls) = ls.flatMap linesWithin := by
  rw [linesIn, toList_text, Text.lines_ofLines, List.map_flatMap, List.flatMap_map]
  congr 1
  funext l
  rw [List.map_map]
  rfl

/-- What is left out when lines are handed over is left out when they are read, and nothing else. -/
theorem linesIn_text_sublist {ls ms : List String} (h : ls.Sublist ms) :
    (linesIn (text ls)).Sublist (linesIn (text ms)) := by
  rw [linesIn_text, linesIn_text]
  exact h.flatMap linesWithin

/-- **Lines without line feeds** are found one by one. -/
theorem linesIn_text_of_oneLine {ls : List String} (h : ∀ l ∈ ls, OneLine l) :
    linesIn (text ls) = ls.map chop := by
  have hwithin : ∀ l ∈ ls, linesWithin l = [chop l] := by
    intro l hl
    rw [linesWithin, Text.linePieces_eq_singleton (h l hl)]
    rfl
  rw [linesIn_text, List.map_eq_flatMap]
  exact List.flatMap_congr hwithin

end HashReplay.Report
