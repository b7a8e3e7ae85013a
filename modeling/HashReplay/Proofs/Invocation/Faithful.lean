import HashReplay.Invocation
import HashReplay.Proofs.Text.Words
import Mathlib.Data.List.Basic

/-!
# Invocations keep what a case says

The arguments of an invocation are the words of a case's arguments and then seven more.  The words may
look like options, even like those seven, and the source and the destination may hold blanks; still, the
seven are always the last ones, so an invocation can be taken apart from its end.  Two invocations are the
same only if they were made of the same parts.

## Main results

* `Builder.args_build_inj` — the parts that arguments are made of.
* `Builder.wordsOf_intercalate` — how the words are spaced does not matter.
* `Builder.build_faithful` — an invocation keeps what a case says, and nothing else.
-/

namespace HashReplay.Builder

open Text (HoldsWords IsWord holdsWords_iff)

/-- The words of a text are the ones that it holds. -/
theorem holdsWords_iff_wordsOf (s : String) (ws : List (List Char)) :
    HoldsWords s.toList ws ↔ wordsOf s = ws.map String.ofList := by
  have hinj : Function.Injective String.ofList := by
    intro v w h
    exact String.ofList_inj.mp h
  rw [holdsWords_iff, wordsOf]
  exact (List.map_injective_iff.mpr hinj).eq_iff.symm

theorem isWord_of_mem_wordsOf {s w : String} (h : w ∈ wordsOf s) : IsWord w.toList := by
  obtain ⟨v, hv, rfl⟩ := List.mem_map.mp h
  rw [String.toList_ofList]
  exact (holdsWords_iff.mpr rfl).isWord v hv

/-- Nothing but blanks is lost. -/
theorem join_wordsOf (s : String) :
    String.join (wordsOf s) = String.ofList (s.toList.filter fun c => !Text.isBlank c) := by
  have hflat : (wordsOf s).flatMap String.toList = (Text.words s.toList).flatten := by
    rw [wordsOf, List.flatMap_map]
    simp only [String.toList_ofList]
    exact List.flatMap_id
  rw [← String.toList_inj, String.toList_join, String.toList_ofList, hflat]
  exact (holdsWords_iff.mpr rfl).flatten_eq

/-- **How the words are spaced does not matter.** -/
theorem wordsOf_intercalate (s : String) : wordsOf (" ".intercalate (wordsOf s)) = wordsOf s := by
  have hwords : (wordsOf s).map String.toList = Text.words s.toList := by
    rw [wordsOf, List.map_map]
    have hid : String.toList ∘ String.ofList = id := funext fun _ => String.toList_ofList
    rw [hid, List.map_id]
  rw [wordsOf, String.toList_intercalate, hwords]
  exact congrArg (List.map String.ofList) (Text.words_intercalate s.toList)

/-- **The parts that arguments are made of** can be told from them: the last seven are the options and
what they are given, and the others are the words. -/
theorem args_build_inj {b b' : Builder} {c c' : TestCase} :
    (b.build c).args = (b'.build c').args ↔ b.streamClass = b'.streamClass ∧
      wordsOf c.arguments = wordsOf c'.arguments ∧ c.inputSource = c'.inputSource ∧
      c.outputDestination = c'.outputDestination := by
  constructor
  · intro h
    -- whatever the words are, both trailers are as long
    obtain ⟨hwords, htrailer⟩ := List.append_inj' h rfl
    simp only [trailer, List.cons.injEq, true_and, and_true] at htrailer
    obtain ⟨hinput, hstream, houtput⟩ := htrailer
    exact ⟨hstream, hwords, hinput, houtput⟩
  · rintro ⟨hstream, hwords, hinput, houtput⟩
    rw [build, build, trailer, trailer, hstream, hwords, hinput, houtput]

/-- **An invocation keeps what a case says.**  Its program is the executable, and its arguments are the
words of the case's arguments and the seven options at the end, in which the source, the stream class and
the destination are one argument each.  The words are the ones that the text holds: none is empty or has
a blank in it, and together they are the text without its blanks.

Two invocations are the same exactly if the executable, the stream class, the words, the source and the
destination are, also when programs are compared in another way than as texts, such as by the parts of
their paths.  The expected hash, the line and the blanks between the words do not show; with single spaces
the invocation is the same. -/
theorem build_faithful (b : Builder) (c : TestCase) :
    ((b.build c).program = b.executable ∧
      (b.build c).args = wordsOf c.arguments ++
        ["--source", c.inputSource, "--source-stream-class", b.streamClass,
          "--output", c.outputDestination, "--calc-hash"] ∧
      (∀ ws, HoldsWords c.arguments.toList ws ↔ wordsOf c.arguments = ws.map String.ofList) ∧
      (∀ w ∈ wordsOf c.arguments, w ≠ "" ∧ ∀ d ∈ w.toList, Text.isBlank d = false) ∧
      String.join (wordsOf c.arguments) =
        String.ofList (c.arguments.toList.filter fun d => !Text.isBlank d)) ∧
    (∀ (b' : Builder) (c' : TestCase), b.build c = b'.build c' ↔
      b.executable = b'.executable ∧ b.streamClass = b'.streamClass ∧
      wordsOf c.arguments = wordsOf c'.arguments ∧ c.inputSource = c'.inputSource ∧
      c.outputDestination = c'.outputDestination) ∧
    (∀ (same : String → String → Prop) (b' : Builder) (c' : TestCase),
      (same (b.build c).program (b'.build c').program ∧ (b.build c).args = (b'.build c').args) ↔
        same b.executable b'.executable ∧ b.streamClass = b'.streamClass ∧
        wordsOf c.arguments = wordsOf c'.arguments ∧ c.inputSource = c'.inputSource ∧
        c.outputDestination = c'.outputDestination) ∧
    b.build { c with arguments := " ".intercalate (wordsOf c.arguments) } = b.build c := by
  refine ⟨⟨rfl, rfl, holdsWords_iff_wordsOf c.arguments, ?_, join_wordsOf c.arguments⟩, ?_, ?_, ?_⟩
  · intro w hw
    obtain ⟨hne, hnoBlank⟩ := isWord_of_mem_wordsOf hw
    exact ⟨fun hempty => hne (by rw [hempty]; rfl), hnoBlank⟩
  · intro b' c'
    have hsame : b.build c = b'.build c' ↔
        b.executable = b'.executable ∧ (b.build c).args = (b'.build c').args := by
      rw [← Invocation.mk.injEq]
      rfl
    rw [hsame, args_build_inj]
  · intro same b' c'
    rw [args_build_inj]
    rfl
  · rw [build, build, wordsOf_intercalate]

/-- Words that look like the options at the end, and parts with blanks. -/
example : (Builder.mk "tool" "a class").build
    ⟨" --calc-hash\t--source\u00A0\u3000x ", "in put", "--output", "0", 3⟩ =
      ⟨"tool", ["--calc-hash", "--source", "x", "--source", "in put", "--source-stream-class",
        "a class", "--output", "--output", "--calc-hash"]⟩ := by
  decide +kernel

end HashReplay.Builder
