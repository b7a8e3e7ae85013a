import HashReplay.Proofs.Report.OneLine

/-!
# The echo of an argument vector

At the highest verbosity each argument vector is echoed before its launch.  The echo is one line of
printable characters, whatever the arguments hold, and the argument vector can be told from it: no
quote, backslash, comma, blank or bracket in an argument makes two argument vectors look alike.

## Main results

* `Invocation.quoted_inj` — different argument vectors are quoted differently.
* `echo_unambiguous` — what is written, and what it stands for.
-/

namespace HashReplay

namespace Invocation

/-- A quoted argument vector is printable. -/
theorem isPrintable_of_mem_quoted {i : Invocation} {c : Char} (h : c ∈ i.quoted.toList) :
    Text.isPrintable c = true := by
  rw [quoted, String.toList_ofList] at h
  exact Text.Quoted.isPrintable_of_mem_quoteList h

/-- **Different argument vectors are quoted differently.** -/
theorem quoted_inj {i j : Invocation} : i.quoted = j.quoted ↔ i.argv = j.argv := by
  have htoList : ∀ s t : String, s.toList = t.toList → s = t := fun s t => String.toList_inj.mp
  rw [quoted, quoted, String.ofList_inj, Text.Quoted.quoteList_inj, List.map_inj_right htoList]

end Invocation

namespace Report

/-- A quoted argument vector ends with a bracket, so a reader leaves nothing out. -/
theorem chop_quoted (i : Invocation) : chop i.quoted = i.quoted := by
  have hlast : i.quoted.toList.getLast? = some ']' := by
    rw [Invocation.quoted, String.toList_ofList, Text.Quoted.quoteList, ← List.cons_append,
      List.getLast?_concat]
  have hreturn : i.quoted.toList.getLast? ≠ some '\r' := by
    rw [hlast]
    decide
  rw [chop, Text.chopReturn_eq_self hreturn, String.ofList_toList]

/-- **The echo of an argument vector is unambiguous.**  What is written is the quoted argument vector and
a line feed.  A reader finds it as one line; every character in front of the line feed is printable, so
there is no other line feed, no carriage return and no other control.  And what is written is the same for
two invocations exactly if their argument vectors are the same, member by member and character by
character. -/
theorem echo_unambiguous (i j : Invocation) :
    (text (echo .debug i) = i.quoted ++ "\n" ∧
      linesIn (text (echo .debug i)) = [i.quoted] ∧
      ∀ c ∈ i.quoted.toList, Text.isPrintable c = true ∧ Text.isControl c = false) ∧
    (text (echo .debug i) = text (echo .debug j) ↔ i.argv = j.argv) := by
  have hechoed : ∀ i : Invocation, echo .debug i = [i.quoted] := fun _ => if_pos rfl
  have hwritten : ∀ i : Invocation, text (echo .debug i) = i.quoted ++ "\n" := by
    intro i
    simp [hechoed, text]
  refine ⟨⟨hwritten i, ?_, ?_⟩, ?_⟩
  · have honeLine : ∀ l ∈ echo .debug i, OneLine l := fun l hl => oneLine_echo hl
    rw [linesIn_text_of_oneLine honeLine, hechoed, List.map_singleton, chop_quoted]
  · intro c hc
    have hprintable := Invocation.isPrintable_of_mem_quoted hc
    exact ⟨hprintable, Text.isControl_of_isPrintable hprintable⟩
  · rw [hwritten i, hwritten j, String.append_left_inj, Invocation.quoted_inj]

/-- What looks like the end of one argument and the start of another, an argument with an escape in it, an
empty one, and one that breaks the line. -/
example : (Invocation.mk "a\", \"b" ["\\u\x7ba\x7d", "", "\n\u0301"]).quoted =
    "[\"a\\\", \\\"b\", \"\\\\u\x7ba\x7d\", \"\", \"\\n\\u\x7b301\x7d\"]" := by
  decide +kernel

end Report

end HashReplay
