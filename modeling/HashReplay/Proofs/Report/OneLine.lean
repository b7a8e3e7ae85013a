import HashReplay.Proofs.HashLine.Grammar
import HashReplay.Proofs.Report.Lines
import HashReplay.Proofs.Report.StatusLines
import HashReplay.Proofs.Text.Quoting

/-!
# Every line of a report is one line

A report prints texts that come from elsewhere: argument vectors, output of the tool, hashes, and the
wording of faults.  The argument vectors are quoted, the output is cut at its line feeds, and a hash that
was found consists of digits.  So the only texts that could bring in a line feed of their own are the
expected hash, the path of the fixture and what a fault names.  If these are one line each, so is every
line of the report, and a reader finds the very status lines that were handed over.

## Main definitions

* `RunError.OneLine`, `Verdict.OneLine` — a fault, or a verdict, that holds nothing with a line feed.

## Main results

* `Verdict.oneLine_check` — the output of a tool brings no line feed into its verdict.
* `oneLine_of_mem_stages` — every line of a report is one line.
* `filter_isStatusLine_linesIn` — the status lines that a reader finds.
* `getLast?_linesIn` — the last line that a reader finds.
-/

namespace HashReplay

/-! ### Characters that are no line feeds -/

namespace Text

theorem lineFeed_not_mem_decimal (n : Nat) : '\n' ∉ decimal n := by
  have hdigit : ∀ d < 10, '\n' ≠ Nat.digitChar d := by decide
  intro hfeed
  obtain ⟨d, hd, hchar⟩ := exists_of_mem_toDigits (by decide) hfeed
  exact hdigit d hd hchar

/-- A line feed is not printable, so it is never quoted as it is. -/
theorem lineFeed_not_mem_quoteList (ss : List (List Char)) : '\n' ∉ Quoted.quoteList ss := by
  intro hfeed
  exact absurd (Quoted.isPrintable_of_mem_quoteList hfeed) (by decide)

end Text

namespace Verdict

theorem toUpper_eq_lineFeed {c : Char} (h : c.toUpper = '\n') : c = '\n' := by
  unfold Char.toUpper at h
  split at h
  · next hlower =>
    -- the letters with an upper case start at 97, and a line feed would come from 42
    have hval : c.val = '\n'.val - ('A'.val - 'a'.val) := by
      rw [← congrArg Char.val h, UInt32.add_sub_cancel]
    rw [hval] at hlower
    exact absurd hlower (by decide)
  · exact h

/-- Upper case brings in no line feed. -/
theorem lineFeed_not_mem_upper {s : List Char} (h : '\n' ∉ s) : '\n' ∉ upper s := by
  intro hfeed
  obtain ⟨c, hc, hupper⟩ := List.mem_map.mp hfeed
  exact h (toUpper_eq_lineFeed hupper ▸ hc)

end Verdict

/-- The digits of a hash are no line feeds. -/
theorem HashLine.lineFeed_not_mem_of_extract {text token : List Char}
    (h : HashLine.extract text = some token) : '\n' ∉ token := by
  intro hfeed
  exact absurd ((HashLine.digits_of_extract h).2 '\n' hfeed) (by decide)

namespace Report

/-! ### Texts on one line -/

@[simp] theorem oneLine_append {s t : String} : OneLine (s ++ t) ↔ OneLine s ∧ OneLine t := by
  rw [OneLine, String.toList_append, List.mem_append, not_or]
  rfl

@[simp] theorem oneLine_ofList {s : List Char} : OneLine (String.ofList s) ↔ '\n' ∉ s := by
  rw [OneLine, String.toList_ofList]

theorem oneLine_toString (n : Nat) : OneLine (toString n) := by
  have hdigits : (toString n).toList = Nat.toDigits 10 n := Nat.toList_repr
  rw [OneLine, hdigits]
  exact Text.lineFeed_not_mem_decimal n

theorem lineFeed_not_mem_fraction (width part : Nat) : '\n' ∉ Duration.fraction width part := by
  unfold Duration.fraction
  split
  · exact List.not_mem_nil
  · rw [List.mem_cons, List.mem_reverse, not_or]
    refine ⟨by decide, fun hfeed => ?_⟩
    -- what is left of the padded digits are zeros in front, and digits
    have hpadded := (List.dropWhile_sublist _).subset hfeed
    rw [List.mem_reverse, List.mem_append] at hpadded
    rcases hpadded with hzero | hdigit
    · exact absurd (List.eq_of_mem_replicate hzero) (by decide)
    · exact Text.lineFeed_not_mem_decimal part hdigit

/-- The wording of a duration is one line. -/
theorem oneLine_durationText (d : Duration) : OneLine d.text := by
  have hwhole (n : Nat) (fraction suffix : List Char) (hf : '\n' ∉ fraction) (hs : '\n' ∉ suffix) :
      '\n' ∉ Text.decimal n ++ fraction ++ suffix := by
    rw [List.mem_append, List.mem_append, not_or, not_or]
    exact ⟨⟨Text.lineFeed_not_mem_decimal n, hf⟩, hs⟩
  unfold Duration.text
  rw [oneLine_ofList]
  repeat' split
  · exact hwhole _ _ _ (lineFeed_not_mem_fraction _ _) (by decide)
  · exact hwhole _ _ _ (lineFeed_not_mem_fraction _ _) (by decide)
  · exact hwhole _ _ _ (lineFeed_not_mem_fraction _ _) (by decide)
  · exact List.append_nil (Text.decimal _) ▸ hwhole _ [] _ List.not_mem_nil (by decide)

end Report

/-! ### Explanations of failures -/

/-- A fault that names nothing with a line feed in it. -/
def RunError.OneLine : RunError → Prop
  | .launchFailure program cause => Report.OneLine program ∧ Report.OneLine cause.message
  | .timeout program _ => Report.OneLine program

/-- A verdict whose hashes are one line each. -/
def Verdict.OneLine : Verdict → Prop
  | .pass observed => Report.OneLine observed
  | .mismatch observed expected => Report.OneLine observed ∧ Report.OneLine expected
  | .malformedOutput expected => Report.OneLine expected

/-- The wording of a fault that names nothing with a line feed in it is one line. -/
theorem RunError.OneLine.message {e : RunError} (h : e.OneLine) : Report.OneLine e.message := by
  unfold RunError.message
  cases e with
  | launchFailure program cause =>
    simp only [Report.oneLine_append]
    exact ⟨⟨⟨by simp [Report.OneLine], h.1⟩, by simp [Report.OneLine]⟩, h.2⟩
  | timeout program after =>
    simp only [Report.oneLine_append]
    exact ⟨⟨⟨by simp [Report.OneLine], h⟩, by simp [Report.OneLine]⟩,
      Report.oneLine_durationText after⟩

/-- **No output brings a line feed into its verdict**, only an expected hash could. -/
theorem Verdict.oneLine_check (stdout : String) {expected : String} (h : Report.OneLine expected) :
    (Verdict.check stdout expected).OneLine := by
  have hwanted : '\n' ∉ upper (Text.trim expected.toList) :=
    lineFeed_not_mem_upper fun hfeed => h ((Text.trim_sublist _).subset hfeed)
  unfold Verdict.check
  cases htoken : HashLine.extract stdout.toList with
  | none => exact Report.oneLine_ofList.mpr hwanted
  | some token =>
    have hfound := lineFeed_not_mem_upper (HashLine.lineFeed_not_mem_of_extract htoken)
    simp only
    split
    · exact Report.oneLine_ofList.mpr hfound
    · exact ⟨Report.oneLine_ofList.mpr hfound, Report.oneLine_ofList.mpr hwanted⟩

namespace Report

/-- **The explanation of a failure is one line** if the verdict or the fault is. -/
theorem oneLine_failureDetail {outcome : Except RunError Verdict} {line : String}
    (hverdict : ∀ v, outcome = .ok v → v.OneLine) (hfault : ∀ e, outcome = .error e → e.OneLine)
    (h : failureDetail outcome = some line) : OneLine line := by
  rcases outcome with e | v
  · cases h
    exact (hfault e rfl).message
  · have hline := hverdict v rfl
    cases v with
    | pass observed => cases h
    | mismatch observed expected =>
      cases h
      simp only [oneLine_append]
      exact ⟨⟨⟨by simp [OneLine], hline.1⟩, by simp [OneLine]⟩, hline.2⟩
    | malformedOutput expected =>
      cases h
      exact oneLine_append.mpr ⟨by simp [OneLine], hline⟩

/-! ### The lines of a report -/

theorem oneLine_statusLine (index : Nat) (passed : Bool) : OneLine (statusLine index passed) := by
  rw [statusLine, oneLine_append, oneLine_append]
  refine ⟨⟨by simp [OneLine], oneLine_toString index⟩, ?_⟩
  cases passed with
  | true => simp [OneLine]
  | false => simp [OneLine]

theorem oneLine_summaryLine (s : Summary) : OneLine s.line := by
  unfold Summary.line
  split
  · simp [OneLine]
  · rw [oneLine_append, oneLine_append]
    exact ⟨⟨by simp [OneLine], oneLine_toString s.failed⟩, by simp [OneLine]⟩

theorem oneLine_header {v : Verbosity} {count : Nat} {source line : String} (hsource : OneLine source)
    (h : line ∈ header v count source) : OneLine line := by
  have hline := List.mem_singleton.mp (mem_of_mem_shown h)
  rw [hline, oneLine_append, oneLine_append, oneLine_append]
  exact ⟨⟨⟨by simp [OneLine], oneLine_toString count⟩, by simp [OneLine]⟩, hsource⟩

/-- An echo is one line, whatever the arguments hold. -/
theorem oneLine_echo {v : Verbosity} {i : Invocation} {line : String} (h : line ∈ echo v i) :
    OneLine line := by
  have hline := List.mem_singleton.mp (mem_of_mem_shown h)
  rw [hline, Invocation.quoted, oneLine_ofList]
  exact Text.lineFeed_not_mem_quoteList _

/-- The output of a tool is printed line by line. -/
theorem oneLine_dump {stdout line : String} (h : line ∈ dump stdout) : OneLine line := by
  obtain ⟨l, hl, rfl⟩ := List.mem_map.mp h
  exact oneLine_append.mpr ⟨by simp [OneLine],
    oneLine_ofList.mpr (Text.lineFeed_not_mem_of_mem_lines hl)⟩

theorem oneLine_caseBlock {v : Verbosity} {r : CaseResult} {line : String}
    (hdetail : ∀ d, failureDetail r.outcome = some d → OneLine d) (h : line ∈ caseBlock v r) :
    OneLine line := by
  rw [caseBlock, List.mem_append, List.mem_append, List.mem_append] at h
  rcases h with ((h | h) | h) | h
  · exact hdetail line (Option.mem_toList.mp (mem_of_mem_shown h))
  · obtain ⟨stdout, hdump⟩ := exists_mem_dump (mem_of_mem_shown h)
    exact oneLine_dump hdump
  · rw [List.mem_singleton.mp h]
    exact oneLine_statusLine _ _
  · rw [List.mem_singleton.mp (mem_of_mem_shown h), oneLine_append, oneLine_append]
    exact ⟨⟨by simp [OneLine], oneLine_toString _⟩, by simp [OneLine]⟩

/-- **Every line of a report is one line**, if the path of the fixture is one and every explanation of a
failure. -/
theorem oneLine_of_mem_stages {v : Verbosity} {source line : String} {rs : List CaseResult}
    (hsource : OneLine source)
    (hdetail : ∀ r ∈ rs, ∀ d, failureDetail r.outcome = some d → OneLine d)
    (h : line ∈ linesOf (stages v source rs)) : OneLine line := by
  obtain ⟨⟨s, ls⟩, hs, hline⟩ := List.mem_flatMap.mp h
  rw [stages, List.mem_cons, List.mem_append, List.mem_singleton, List.mem_flatMap] at hs
  rcases hs with hs | ⟨r, hr, hs⟩ | hs
  · cases hs
    exact oneLine_header hsource hline
  · rw [caseStages, List.mem_cons, List.mem_singleton] at hs
    rcases hs with hs | hs
    · cases hs
      exact oneLine_echo hline
    · cases hs
      exact oneLine_caseBlock (hdetail r hr) hline
  · cases hs
    rw [closing, List.mem_singleton] at hline
    rw [hline]
    exact oneLine_summaryLine _

/-! ### What a reader finds -/

/-- The carriage return that a reader leaves out does not make or unmake a status line. -/
theorem isStatusLine_chop (l : String) : isStatusLine (chop l) = isStatusLine l := by
  have hreturn : '\r' ∉ "Testcase #".toList := by decide
  rw [Bool.eq_iff_iff, isStatusLine, isStatusLine, List.isPrefixOf_iff_prefix,
    List.isPrefixOf_iff_prefix, toList_chop]
  constructor
  · intro h
    exact h.trans (Text.chopReturn_prefix _)
  · intro h
    rcases Text.eq_chopReturn_or l.toList with hl | hl
    · rwa [← hl]
    · rw [hl, List.prefix_concat_iff] at h
      rcases h with h | h
      · rw [h] at hreturn
        exact absurd (List.mem_append_right _ (List.mem_singleton_self _)) hreturn
      · exact h

theorem chop_statusLine (index : Nat) (passed : Bool) :
    chop (statusLine index passed) = statusLine index passed := by
  cases passed with
  | true => exact chop_append (c := '*') (by simp) (by decide) _
  | false => exact chop_append (c := '*') (by simp) (by decide) _

theorem chop_summaryLine (s : Summary) : chop s.line = s.line := by
  unfold Summary.line
  split
  · simp [chop, Text.chopReturn]
  · exact chop_append (c := '.') (by simp) (by decide) _

section Reader

variable {v : Verbosity} {source : String} {rs : List CaseResult}

/-- **The status lines that a reader finds** are those of the results, in order. -/
theorem filter_isStatusLine_linesIn
    (h : ∀ l ∈ linesOf (stages v source rs), OneLine l) :
    (linesIn (text (linesOf (stages v source rs)))).filter isStatusLine =
      rs.map fun r => statusLine r.index r.passed := by
  have hchop : isStatusLine ∘ chop = isStatusLine := by
    funext l
    rw [Function.comp_apply, isStatusLine_chop]
  have hkept : (chop ∘ fun r : CaseResult => statusLine r.index r.passed) =
      fun r => statusLine r.index r.passed := funext fun r => chop_statusLine r.index r.passed
  rw [linesIn_text_of_oneLine h, List.filter_map, hchop, filter_isStatusLine, List.map_map, hkept]

/-- **The last line that a reader finds** is the closing line. -/
theorem getLast?_linesIn (h : ∀ l ∈ linesOf (stages v source rs), OneLine l) :
    (linesIn (text (linesOf (stages v source rs)))).getLast? =
      some (Summary.line ⟨rs.length, rs.countP fun r => !r.passed⟩) := by
  have hclosing : (linesOf (stages v source rs)).getLast? =
      some (Summary.line ⟨rs.length, rs.countP fun r => !r.passed⟩) := by
    rw [stages, linesOf_cons, linesOf_append, ← List.append_assoc]
    exact List.getLast?_concat
  rw [linesIn_text_of_oneLine h, List.getLast?_map, hclosing, Option.map_some, chop_summaryLine]

end Reader

end Report

end HashReplay
