import HashReplay.Proofs.Report.Stages

/-!
# The status lines of a report

Each case has one line that tells whether it passed.  Such a line is known by how it starts, and no
other line that is handed to a sink starts so, whatever tools print or fixtures hold.

## Main definitions

* `isStatusLine`, `tellsFailure` — what a status line looks like.

## Main results

* `filter_isStatusLine` — the status lines of a report are those of its results, in order.
* `countP_tellsFailure` — as many of them tell a failure as there are failed results.
-/

namespace HashReplay.Report

/-- Whether a line starts like a status line. -/
def isStatusLine (line : String) : Bool := "Testcase #".toList.isPrefixOf line.toList

/-- Whether a line ends like the status line of a failed case. -/
def tellsFailure (line : String) : Bool := ": ** FAILURE **".toList.isSuffixOf line.toList

theorem isStatusLine_statusLine (index : Nat) (passed : Bool) :
    isStatusLine (statusLine index passed) = true := by
  simp [isStatusLine, statusLine]

theorem tellsFailure_statusLine (index : Nat) (passed : Bool) :
    tellsFailure (statusLine index passed) = !passed := by
  -- what tells the two apart stands at the end, so the lines are read backwards
  cases passed with
  | false => simp [tellsFailure, statusLine, List.isSuffixOf]
  | true => simp [tellsFailure, statusLine, List.isSuffixOf, List.isPrefixOf]

/-! ### Every other line -/

/-- A line that is only shown on a condition is one of those that are shown then. -/
theorem mem_of_mem_shown {p : Bool} {ls : List String} {line : String}
    (h : line ∈ if p then ls else []) : line ∈ ls := by
  cases p with
  | true => exact h
  | false => cases h

/-- A text that starts with another character starts no status line. -/
theorem isStatusLine_append {start : String} {c : Char} (h : start.toList.head? = some c)
    (hc : c ≠ 'T') (rest : String) : isStatusLine (start ++ rest) = false := by
  obtain ⟨cs, hcs⟩ := List.head?_eq_some_iff.mp h
  have hT : ('T' == c) = false := beq_eq_false_iff_ne.mpr (Ne.symm hc)
  simp [isStatusLine, String.toList_append, hcs, List.isPrefixOf, hT]

/-- A fault says first what failed, or names the program in quotes. -/
theorem isStatusLine_message (e : RunError) : isStatusLine e.message = false := by
  unfold RunError.message
  cases e with
  | launchFailure program cause =>
    simp only [String.append_assoc]
    exact isStatusLine_append (c := 'f') (by simp) (by decide) _
  | timeout program after =>
    simp only [String.append_assoc]
    exact isStatusLine_append (c := '\'') (by simp) (by decide) _

theorem isStatusLine_failureDetail {outcome : Except RunError Verdict} {line : String}
    (h : failureDetail outcome = some line) : isStatusLine line = false := by
  rcases outcome with e | _ | _ | _
  · cases h
    exact isStatusLine_message e
  · cases h
  · cases h
    rw [String.append_assoc, String.append_assoc]
    exact isStatusLine_append (c := 'i') (by simp) (by decide) _
  · cases h
    exact isStatusLine_append (c := 'n') (by simp) (by decide) _

/-- A line of captured output, if there is any, is a line of some output. -/
theorem exists_mem_dump {captured : Option String} {line : String}
    (h : line ∈ (captured.map dump).getD []) : ∃ stdout, line ∈ dump stdout := by
  cases captured with
  | none => cases h
  | some stdout => exact ⟨stdout, h⟩

theorem isStatusLine_dump {stdout line : String} (h : line ∈ dump stdout) :
    isStatusLine line = false := by
  obtain ⟨l, -, rfl⟩ := List.mem_map.mp h
  exact isStatusLine_append (c := ' ') (by simp) (by decide) _

theorem isStatusLine_header {v : Verbosity} {count : Nat} {source line : String}
    (h : line ∈ header v count source) : isStatusLine line = false := by
  have hline := List.mem_singleton.mp (mem_of_mem_shown h)
  rw [hline, String.append_assoc, String.append_assoc]
  exact isStatusLine_append (c := 'R') (by simp) (by decide) _

theorem isStatusLine_echo {v : Verbosity} {i : Invocation} {line : String} (h : line ∈ echo v i) :
    isStatusLine line = false := by
  have hline := List.mem_singleton.mp (mem_of_mem_shown h)
  rw [hline]
  simp [isStatusLine, Invocation.quoted, Text.Quoted.quoteList, List.isPrefixOf]

theorem isStatusLine_closing {s : Summary} {line : String} (h : line ∈ closing s) :
    isStatusLine line = false := by
  rw [closing, List.mem_singleton] at h
  rw [h, Summary.line]
  split
  · simp [isStatusLine, List.isPrefixOf]
  · simp [isStatusLine, List.isPrefixOf]

/-! ### The status lines of a report -/

/-- A case has one status line. -/
theorem filter_caseBlock (v : Verbosity) (r : CaseResult) :
    (caseBlock v r).filter isStatusLine = [statusLine r.index r.passed] := by
  have hdetail : ((if !r.passed && v.showsDetail then (failureDetail r.outcome).toList
      else []).filter isStatusLine) = [] := by
    refine List.filter_eq_nil_iff.mpr fun line hline => ?_
    rw [isStatusLine_failureDetail (Option.mem_toList.mp (mem_of_mem_shown hline))]
    exact Bool.false_ne_true
  have hdump : ((if !r.passed && v.showsDebug then (r.stdout.map dump).getD []
      else []).filter isStatusLine) = [] := by
    refine List.filter_eq_nil_iff.mpr fun line hline => ?_
    obtain ⟨stdout, hdump⟩ := exists_mem_dump (mem_of_mem_shown hline)
    rw [isStatusLine_dump hdump]
    exact Bool.false_ne_true
  have htook : ((if v.showsProgress then ["  took " ++ toString r.elapsed.millis ++ " ms"]
      else []).filter isStatusLine) = [] := by
    refine List.filter_eq_nil_iff.mpr fun line hline => ?_
    rw [List.mem_singleton.mp (mem_of_mem_shown hline), String.append_assoc,
      isStatusLine_append (c := ' ') (by simp) (by decide) _]
    exact Bool.false_ne_true
  rw [caseBlock, List.filter_append, List.filter_append, List.filter_append, hdetail, hdump, htook,
    List.filter_cons_of_pos (isStatusLine_statusLine _ _), List.filter_nil]
  simp

theorem filter_caseStages (v : Verbosity) (r : CaseResult) :
    (linesOf (caseStages v r)).filter isStatusLine = [statusLine r.index r.passed] := by
  have hecho : (echo v r.invocation).filter isStatusLine = [] := by
    refine List.filter_eq_nil_iff.mpr fun line hline => ?_
    rw [isStatusLine_echo hline]
    exact Bool.false_ne_true
  rw [caseStages, linesOf_cons, linesOf_cons, List.filter_append, List.filter_append, hecho,
    filter_caseBlock]
  rfl

/-- **The status lines of a report** are those of its results, in order. -/
theorem filter_isStatusLine (v : Verbosity) (source : String) (rs : List CaseResult) :
    (linesOf (stages v source rs)).filter isStatusLine =
      rs.map fun r => statusLine r.index r.passed := by
  have hcases : (linesOf (rs.flatMap (caseStages v))).filter isStatusLine =
      rs.map fun r => statusLine r.index r.passed := by
    induction rs with
    | nil => rfl
    | cons r rs ih =>
      rw [List.flatMap_cons, linesOf_append, List.filter_append, filter_caseStages, ih, List.map_cons]
      rfl
  have hheader : (header v rs.length source).filter isStatusLine = [] := by
    refine List.filter_eq_nil_iff.mpr fun line hline => ?_
    rw [isStatusLine_header hline]
    exact Bool.false_ne_true
  have hclosing (s : Summary) : (closing s).filter isStatusLine = [] := by
    refine List.filter_eq_nil_iff.mpr fun line hline => ?_
    rw [isStatusLine_closing hline]
    exact Bool.false_ne_true
  rw [stages, linesOf_cons, linesOf_append, List.filter_append, List.filter_append, hheader, hcases,
    linesOf_cons, List.filter_append, hclosing]
  exact List.append_nil _

/-- **As many status lines tell a failure as there are failed results.** -/
theorem countP_tellsFailure (v : Verbosity) (source : String) (rs : List CaseResult) :
    (linesOf (stages v source rs)).countP (fun line => tellsFailure line && isStatusLine line) =
      rs.countP fun r => !r.passed := by
  rw [← List.countP_filter, filter_isStatusLine, List.countP_map]
  refine List.countP_congr fun r _ => ?_
  rw [Function.comp_apply, tellsFailure_statusLine]

end HashReplay.Report
