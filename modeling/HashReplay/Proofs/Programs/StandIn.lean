import HashReplay.Host
import HashReplay.Proofs.Bench.Accounting
import HashReplay.Proofs.Bench.Capturing
import HashReplay.Proofs.CommandLine.Spelling
import HashReplay.Proofs.HashLine.Grammar
import HashReplay.Proofs.Text.Strict
import HashReplay.Verdict

/-!
# The stand-in as the tool of a bench

What a case is built into is meant for the real tool, and the stand-in gets along with it.  It drops
every argument but the source and the wish for a hash, reports the digest of the source, and the verdict
on its output is about that digest and nothing else.

Two things could go wrong.  What a case says to the real tool could be taken for a flag of the stand-in,
so nothing in a case may be one (`Suits`).  And the output repeats the source, which may itself look like
a hash line; but the source never stands at the start of a line.

## Main definitions

* `Suits` — the cases that the stand-in can be given.
* `ordersFor` — what such a case asks of it.
* `sourceLine`, `reportLine` — the two lines that it prints.
* `Launchable`, `expectsSourceHash` — the cases that a host can launch, and those of them that pass.

## Main results

* `keep_build` — what is kept of the arguments of a case.
* `run_build` — what the stand-in prints for a case.
* `check_run` — the verdict on that.
* `runner_build` — a host on which the tool is the stand-in answers with that.
* `replay_onStandIn` — which cases fail in a run on such a host.
-/

namespace HashReplay

namespace Programs

/-! ### Bytes of texts -/

@[simp] theorem Bytes.encoded_ofEncoded (bytes : List UInt8) :
    Bytes.encoded (Bytes.ofEncoded bytes) = bytes := by
  have hbyte (b : UInt8) : (Char.ofNat b.toNat).toNat.toUInt8 = b := by
    have hchar : (Char.ofNat b.toNat).val.toNat = b.toNat :=
      Text.Utf8.toNat_val_ofNat (Or.inl (Nat.lt_trans b.toNat_lt (by decide)))
    rw [Char.toNat, hchar]
    exact UInt8.ofNat_toNat
  rw [Bytes.encoded, Bytes.ofEncoded, List.map_map]
  calc bytes.map _ = bytes.map id := List.map_congr_left fun b _ => hbyte b
    _ = bytes := List.map_id bytes

/-- A text is read back from its bytes. -/
@[simp] theorem Bytes.text_ofString (s : String) : Bytes.text (Bytes.ofString s) = s := by
  rw [Bytes.text, Bytes.ofString, Bytes.encoded_ofEncoded, Text.Utf8.decodeLossy_encode,
    String.ofList_toList]

theorem Finished.stdout_printed (out : Bytes) : (Finished.printed out).stdout = out.encoded := by
  simp [Finished.printed, Finished.stdout, Finished.writtenTo, inOrder]

/-- What a program printed as text is read as that text. -/
theorem outputOf_printed (s : String) :
    Host.outputOf (.printed (.ofString s)) = ⟨s, some 0⟩ := by
  rw [Host.outputOf, Finished.stdout_printed, ← Bytes.text, Bytes.text_ofString]
  rfl

/-- The answer of a program that printed a text at once. -/
theorem answerOf_printed {timeout : Option Duration} (h : ∀ t, timeout = some t → 0 < t.toNanos)
    (program s : String) :
    Host.answerOf timeout program (.printed (.ofString s)) =
      ⟨.ok ⟨s, some 0⟩, .zero, .epoch, ""⟩ := by
  have hcompletion : (Finished.printed (.ofString s)).completion = 0 := rfl
  have hstderr : (Finished.printed (.ofString s)).stderr = [] := by
    simp [Finished.printed, Finished.stderr, Finished.writtenTo, inOrder, Bytes.encoded]
  have hresult : Host.resultOf timeout program (.printed (.ofString s)) = .ok ⟨s, some 0⟩ := by
    cases timeout with
    | none => rw [Host.resultOf, outputOf_printed]
    | some t => rw [Host.resultOf, hcompletion, if_pos (h t rfl), outputOf_printed]
  have helapsed : Host.elapsedOf timeout (.printed (.ofString s)) = 0 := by
    cases timeout with
    | none => exact hcompletion
    | some t => rw [Host.elapsedOf, hcompletion, Nat.zero_min]
  rw [Host.answerOf, hresult, helapsed, hstderr]
  rfl

namespace StandIn

open CommandLine
open HashLine (label tokenLength isHexDigit IsHashLine)

/-! ### What is kept -/

/-- The flags that the stand-in knows. -/
def flagNames : List String := knownFlags.map (·.1)

theorem takesValue?_eq_none {a : String} (h : a ∉ flagNames) : takesValue? a = none := by
  rw [takesValue?, List.lookup_eq_none_iff]
  intro flag hflag
  rw [bne_iff_ne]
  rintro rfl
  exact h (List.mem_map_of_mem hflag)

/-- An argument that is no flag is dropped. -/
theorem keep_cons_of_notMem {a : String} (h : a ∉ flagNames) (rest : List String) :
    keep (a :: rest) = keep rest := by
  have hnone := takesValue?_eq_none h
  cases rest with
  | nil => simp [keep, hnone]
  | cons b rest => rw [keep, hnone]

theorem keep_append {dropped : List String} (h : ∀ a ∈ dropped, a ∉ flagNames) (rest : List String) :
    keep (dropped ++ rest) = keep rest := by
  induction dropped with
  | nil => rfl
  | cons a dropped ih =>
    obtain ⟨ha, hdropped⟩ := List.forall_mem_cons.mp h
    rw [List.cons_append, keep_cons_of_notMem ha, ih hdropped]

/-- The cases that the stand-in can be given: nothing in them is taken for one of its flags, and the
source is a line that does not look like an option. -/
structure Suits (b : Builder) (c : TestCase) : Prop where
  arguments : ∀ w ∈ Builder.wordsOf c.arguments, w ∉ flagNames
  streamClass : b.streamClass ∉ flagNames
  outputDestination : c.outputDestination ∉ flagNames
  oneLine : '\n' ∉ c.inputSource.toList
  noOption : c.inputSource.toList.head? ≠ some '-'

variable {b : Builder} {c : TestCase}

/-- **What is kept** of the arguments of a case: the source is not mistaken for anything, although its
flag is the start of another one. -/
theorem keep_build (h : Suits b c) :
    keep (b.build c).args = ["--source", c.inputSource, "--calc-hash"] := by
  have hsource : takesValue? "--source" = some true := by decide
  -- the source goes with its flag, so it is never looked at as a flag itself
  calc keep (b.build c).args
      = keep (b.trailer c.inputSource c.outputDestination) := keep_append h.arguments _
    _ = "--source" :: c.inputSource :: keep ["--source-stream-class", b.streamClass, "--output",
          c.outputDestination, "--calc-hash"] := by rw [Builder.trailer, keep, hsource]
    _ = "--source" :: c.inputSource :: keep ["--calc-hash"] := by
      rw [keep_cons_of_notMem (by decide), keep_cons_of_notMem h.streamClass,
        keep_cons_of_notMem (by decide), keep_cons_of_notMem h.outputDestination]
    _ = ["--source", c.inputSource, "--calc-hash"] := by
      rw [keep, if_pos (by decide)]

/-! ### What it prints -/

/-- What is asked of the stand-in for a source. -/
def ordersFor (source : String) : Orders := ⟨some source, true, none, false, 0⟩

/-- The kept arguments are read as they are meant. -/
theorem parse_kept {source : String} (h : source.toList.head? ≠ some '-') :
    grammar.parse .empty ["--source", source, "--calc-hash"] =
      .ok ⟨ordersFor source, [.source, .calcHash], none⟩ := by
  have hlong : ∀ long ∈ ["source", "calc-hash"], long ≠ "" ∧ '=' ∉ long.toList := by decide
  have hsource : grammar.Spells .source ⟨"source", none, .value .source "SOURCE", false⟩ (some source)
      ["--source", source] :=
    .long rfl rfl (hlong "source" (by decide)) h
  have hcalcHash : grammar.Spells .calcHash ⟨"calc-hash", none, .switch .calcHash, false⟩ none
      ["--calc-hash"] :=
    .switch rfl rfl (hlong "calc-hash" (by decide))
  have hnone : Grammar.Settled (⟨.empty, [], none⟩ : Parsing Flag Orders) := .of_none rfl
  exact hsource.continues (hcalcHash.continues grammar.continues_nil) _ hnone

/-- **What the stand-in prints for a case**: its output for the source, at once and with success. -/
theorem run_build (h : Suits b c) :
    run (b.build c).args = .printed (.ofString (output (ordersFor c.inputSource))) := by
  rw [run, argumentVector, List.tail_cons, keep_build h, parse_kept h.noOption]
  rfl

/-! ### The digits of a hash -/

/-- A digit of a hash can be read as one, and is the same in upper case. -/
theorem upperHexDigit_of_lt {n : Nat} (h : n < 16) :
    isHexDigit (Digest.upperHexDigit n) = true ∧
      (Digest.upperHexDigit n).toUpper = Digest.upperHexDigit n := by
  have hall : ∀ n ∈ List.range 16, isHexDigit (Digest.upperHexDigit n) = true ∧
      (Digest.upperHexDigit n).toUpper = Digest.upperHexDigit n := by
    decide
  exact hall n (List.mem_range.mpr h)

theorem length_upperHex (bytes : List UInt8) : (Digest.upperHex bytes).length = 2 * bytes.length := by
  induction bytes with
  | nil => rfl
  | cons byte bytes ih =>
    simp only [Digest.upperHex, List.flatMap_cons, List.length_append, List.length_cons,
      List.length_nil] at ih ⊢
    omega

theorem of_mem_upperHex {bytes : List UInt8} {d : Char} (h : d ∈ Digest.upperHex bytes) :
    isHexDigit d = true ∧ d.toUpper = d := by
  obtain ⟨byte, -, hd⟩ := List.mem_flatMap.mp h
  have hlt := byte.toNat_lt
  simp only [List.mem_cons, List.not_mem_nil, or_false] at hd
  rcases hd with rfl | rfl
  · exact upperHexDigit_of_lt (by omega)
  · exact upperHexDigit_of_lt (by omega)

theorem length_sourceHash (source : String) : (sourceHash source).length = tokenLength := by
  rw [sourceHash, length_upperHex, List.length_take, Digest.length_digest]
  rfl

/-- Comparing in upper case leaves the hash as it is. -/
theorem upper_sourceHash (source : String) : Verdict.upper (sourceHash source) = sourceHash source := by
  calc (sourceHash source).map Char.toUpper
      = (sourceHash source).map id := List.map_congr_left fun _ hd => (of_mem_upperHex hd).2
    _ = sourceHash source := List.map_id _

/-! ### The lines of the output -/

/-- The line that repeats the source. -/
def sourceLine (source : String) : List Char := ("czicmd-stub: processing " ++ source).toList

/-- The line that reports the hash. -/
def reportLine (source : String) : List Char := label ++ sourceHash source

theorem toList_output (source : String) :
    (output (ordersFor source)).toList = Text.ofLines [sourceLine source, reportLine source] := by
  have hreported : reported? (ordersFor source) = some (String.ofList (sourceHash source)) := rfl
  have hprocessing : processingLine (ordersFor source) = "czicmd-stub: processing " ++ source := rfl
  have hlabel : "hash of result: ".toList = label := by decide
  have hfeed : "\n".toList = ['\n'] := by decide
  simp only [output, hreported, hprocessing, sourceLine, reportLine, String.toList_append,
    String.toList_ofList, hlabel, hfeed, Text.ofLines_cons, Text.ofLines_nil, List.append_assoc,
    List.singleton_append]

/-- Whatever the source is, its line is no hash line. -/
theorem not_isHashLine_sourceLine (source : String) (token : List Char) :
    ¬IsHashLine (sourceLine source) token := by
  rintro ⟨rest, hline, -⟩
  -- the two lines differ in their first character, which the source cannot change
  have hhead := congrArg List.head? hline
  simp [sourceLine, label] at hhead

theorem isHashLine_reportLine (source : String) :
    IsHashLine (reportLine source) (sourceHash source) := by
  refine ⟨[], (List.append_nil _).symm, length_sourceHash source, ?_, ?_⟩
  · intro d hd
    exact (of_mem_upperHex hd).1
  · intro d hd
    cases hd

/-- **The output consists of two lines.** -/
theorem linePieces_output {source : String} (h : '\n' ∉ source.toList) :
    Text.linePieces (output (ordersFor source)).toList = [sourceLine source, reportLine source, []] := by
  have hreport : '\n' ∉ reportLine source := by
    intro hmem
    rcases List.mem_append.mp hmem with hmem | hmem
    · exact absurd hmem (by decide)
    · exact absurd (of_mem_upperHex hmem).1 (by decide)
  rw [toList_output, Text.linePieces_ofLines]
  · rfl
  · simpa [sourceLine, hreport] using h

/-! ### The verdict -/

/-- **The hash of the output** is the hash of the source. -/
theorem extract_output {source : String} (h : '\n' ∉ source.toList) :
    HashLine.extract (output (ordersFor source)).toList = some (sourceHash source) := by
  rw [HashLine.extract_eq_some_iff]
  refine ⟨[sourceLine source], reportLine source, [[]], linePieces_output h,
    isHashLine_reportLine source, ?_⟩
  intro l hl token
  rw [List.mem_singleton.mp hl]
  exact not_isHashLine_sourceLine source token

/-- The verdict on the output compares the expected hash with that of the source. -/
theorem check_output {source : String} (h : '\n' ∉ source.toList) (expected : String) :
    Verdict.check (output (ordersFor source)) expected =
      if Verdict.upper (Text.trim expected.toList) = sourceHash source then
        .pass (String.ofList (sourceHash source))
      else
        .mismatch (String.ofList (sourceHash source))
          (String.ofList (Verdict.upper (Text.trim expected.toList))) := by
  simp only [Verdict.check, extract_output h, upper_sourceHash, String.ofList_inj, eq_comm]

/-- The case passes if it expects the hash of the source. -/
theorem isPass_check_output {source : String} (h : '\n' ∉ source.toList) (expected : String) :
    (Verdict.check (output (ordersFor source)) expected).isPass = true ↔
      Verdict.upper (Text.trim expected.toList) = sourceHash source := by
  rw [check_output h]
  split
  · next heq => exact iff_of_true rfl heq
  · next hne => exact iff_of_false Bool.false_ne_true hne

/-- **A bench and the stand-in agree.**  Of the arguments that a suitable case is built into the stand-in
keeps the source and the wish for a hash.  It prints two lines, of which the second is a hash line and
the first is none, whatever the source looks like.  The case passes exactly if the hash it expects is, in
upper case and without the blanks around it, that of its source; otherwise the verdict is a mismatch, so
the output is never found to be malformed. -/
theorem check_run (h : Suits b c) :
    keep (b.build c).args = ["--source", c.inputSource, "--calc-hash"] ∧
      ∃ out, Host.outputOf (run (b.build c).args) = ⟨out, some 0⟩ ∧
        Text.linePieces out.toList = [sourceLine c.inputSource, reportLine c.inputSource, []] ∧
        (∀ token, ¬IsHashLine (sourceLine c.inputSource) token) ∧
        IsHashLine (reportLine c.inputSource) (sourceHash c.inputSource) ∧
        ((Verdict.check out c.expectedHash).isPass = true ↔
          Verdict.upper (Text.trim c.expectedHash.toList) = sourceHash c.inputSource) ∧
        (Verdict.upper (Text.trim c.expectedHash.toList) ≠ sourceHash c.inputSource →
          Verdict.check out c.expectedHash = .mismatch (String.ofList (sourceHash c.inputSource))
            (String.ofList (Verdict.upper (Text.trim c.expectedHash.toList)))) := by
  refine ⟨keep_build h, output (ordersFor c.inputSource), ?_, linePieces_output h.oneLine,
    not_isHashLine_sourceLine _, isHashLine_reportLine _, isPass_check_output h.oneLine _,
    fun hne => ?_⟩
  · rw [run_build h, outputOf_printed]
  · rw [check_output h.oneLine, if_neg hne]

/-- What the invocations of the sample share. -/
def sampleBuilder : Builder := ⟨"CZIcmd", defaultStreamClass⟩

/-- A case whose source looks like a hash line, and whose arguments like flags of the stand-in. -/
def sampleCase : TestCase :=
  ⟨"--command PlaneScan --source=a --stub-hashes", "hash of result: 00112233445566778899AABBCCDDEEFF",
    "-", " 48b3cd23597c46630661cbf8ad998097\t", 1⟩

/-- The sample passes with the digest of its source, and not with the hash that its source holds. -/
theorem check_run_sample :
    Suits sampleBuilder sampleCase ∧
      ∃ out, Host.outputOf (run (sampleBuilder.build sampleCase).args) = ⟨out, some 0⟩ ∧
        (Verdict.check out sampleCase.expectedHash).isPass = true := by
  have hsuits : Suits sampleBuilder sampleCase :=
    ⟨by decide, by decide, by decide, by decide, by decide⟩
  obtain ⟨-, out, hrun, -, -, -, hpass, -⟩ := check_run hsuits
  exact ⟨hsuits, out, hrun, hpass.mpr (by decide +kernel)⟩

/-! ### A whole run -/

/-- A case that can be launched with the stand-in: no argument holds the character that the system does
not let through. -/
structure Launchable (b : Builder) (c : TestCase) : Prop extends Suits b c where
  noNul : ∀ a ∈ (b.build c).argv, '\x00' ∉ a.toList

/-- **A host on which the tool is the stand-in** answers with the output for the source of a case, and
leaves its files alone. -/
theorem runner_build (h : Launchable b c) {files : FileSystem}
    (hprogram : files.findProgram b.executable = .ok .standIn) (env : Environment)
    {timeout : Option Duration} (htime : ∀ t, timeout = some t → 0 < t.toNanos) :
    Host.runner env timeout (b.build c) () files =
      ⟨⟨.ok ⟨output (ordersFor c.inputSource), some 0⟩, .zero, .epoch, ""⟩, (), files⟩ := by
  have hargv : ((b.build c).argv.any fun a => a.toList.contains '\x00') = false := by
    simpa [List.any_eq_false] using h.noNul
  have hargs : ((b.build c).args.map Bytes.ofString).map Bytes.text = (b.build c).args := by
    simp [Function.comp_def]
  have hfound : files.findProgram (b.build c).program = .ok .standIn := hprogram
  rw [Host.runner, Host.launch, hargv, if_neg Bool.false_ne_true, hfound]
  simp only [Host.behaviour, Host.maxDepth, Host.behaviourTo, Host.ofArguments, hargs,
    run_build h.toSuits, answerOf_printed htime]

/-- The usual programs are such a host. -/
example : (Host.withEntries [] ["tmp"]).findProgram "CZIcmd" = .ok .standIn := by decide +kernel

/-- Whether a case expects the hash of its source. -/
def expectsSourceHash (c : TestCase) : Bool :=
  Verdict.upper (Text.trim c.expectedHash.toList) == sourceHash c.inputSource

section Run

variable {env : Environment} {timeout : Option Duration}
  (htime : ∀ t, timeout = some t → 0 < t.toNanos)
include htime

/-- One case passes if it expects the hash of its source, and leaves the files alone. -/
theorem settle_onStandIn {b : Bench Unit} (hlog : b.log = none)
    (hprogram : b.files.findProgram b.settings.builder.executable = .ok .standIn)
    (hc : Launchable b.settings.builder c) (index : Nat) :
    (b.attempt (Host.runner env timeout) index c).passed = expectsSourceHash c ∧
      (b.settle (Host.runner env timeout) index c).log = none ∧
      (b.settle (Host.runner env timeout) index c).files = b.files := by
  have hanswer := runner_build hc hprogram env htime
  rw [Bench.settle_of_log_eq_none hlog]
  refine ⟨?_, hlog, congrArg Response.files hanswer⟩
  have hpassed : (b.attempt (Host.runner env timeout) index c).passed =
      (Verdict.check (output (ordersFor c.inputSource)) c.expectedHash).isPass := by
    rw [Attempt.passed, Attempt.result, Bench.attempt, Bench.respond, hanswer]
    rfl
  rw [hpassed, Bool.eq_iff_iff, isPass_check_output hc.oneLine, expectsSourceHash, beq_iff_eq]

/-- The cases of a list pass or fail one by one, whatever has been run before. -/
theorem map_passed_attempts : ∀ (cases : List TestCase) {b : Bench Unit} (index : Nat), b.log = none →
    b.files.findProgram b.settings.builder.executable = .ok .standIn →
    (∀ c ∈ cases, Launchable b.settings.builder c) →
    (b.attempts (Host.runner env timeout) index cases).map Attempt.passed =
      cases.map expectsSourceHash := by
  intro cases
  induction cases with
  | nil => intro b index _ _ _; rfl
  | cons c cases ih =>
    intro b index hlog hprogram hcases
    obtain ⟨hc, hcases⟩ := List.forall_mem_cons.mp hcases
    obtain ⟨hpassed, hlog', hfiles⟩ := settle_onStandIn htime hlog hprogram hc index
    rw [Bench.attempts, List.map_cons, hpassed, List.map_cons, ih (index + 1) hlog']
    · rwa [hfiles, Bench.settings_settle]
    · rwa [Bench.settings_settle]

/-- **A run with the stand-in** fails exactly for the cases that do not expect the hash of their
source. -/
theorem replay_onStandIn {b : Bench Unit} (hlog : b.log = none) (hsink : b.sink.TakesAll)
    (hprogram : b.files.findProgram b.settings.builder.executable = .ok .standIn)
    {cases : List TestCase} (hcases : ∀ c ∈ cases, Launchable b.settings.builder c) :
    ∃ left, b.replay (Host.runner env timeout) cases =
      .ok (⟨cases.length, cases.countP fun c => !expectsSourceHash c⟩, left) := by
  have hcourse : (b.course (Host.runner env timeout) cases).map Attempt.passed =
      cases.map expectsSourceHash :=
    map_passed_attempts htime cases 1 hlog hprogram hcases
  have hcount := congrArg (List.countP fun passed => !passed) hcourse
  rw [List.countP_map, List.countP_map] at hcount
  have hsummary : b.summary (Host.runner env timeout) cases =
      ⟨cases.length, cases.countP fun c => !expectsSourceHash c⟩ := by
    rw [Bench.summary, Bench.failures_complete]
    exact congrArg _ hcount
  exact ⟨_, hsummary ▸ b.replay_of_takesAll _ cases hsink⟩

end Run

end StandIn

end Programs

end HashReplay
