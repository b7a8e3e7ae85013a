import HashReplay.Proofs.Fixture.Records
import Mathlib.Data.List.Basic

/-!
# Writing fixtures

Cases can be written out in many ways: with blanks around the fields, with comments and blank lines in
between, with either kind of line ending, and after a byte-order mark.  Whichever way is taken, the text
reads as these cases, and each case is found on the line on which it was written.

What can be written is exactly what can be read.  A field that was read is never empty, has no blanks at
its ends, is one line and does not look like a comment (`isField_of_mem_caseFields`), and a field with
these properties can be written.

## Main definitions

* `IsField` — a text that can stand as a field.
* `Carries`, `WrittenLine` — a line as somebody may write it, and the field on it.
* `written`, `fieldsOf` — lines written out, and the fields on them.
* `IsText` — lines as a text, after a byte-order mark if one is needed.

## Main results

* `fields_eq` — the fields of a text are those that were written.
* `parse_written` — what was written is read, on the line where it was written.
-/

namespace HashReplay

namespace Fixture

/-! ### Fields -/

/-- A text that can stand as a field. -/
structure IsField (f : String) : Prop where
  ne_empty : f ≠ ""
  /-- No blanks stand at its ends. -/
  trimmed : Text.trim f.toList = f.toList
  oneLine : '\n' ∉ f.toList
  notComment : f.toList.head? ≠ some '#'

theorem isField_of_mem_fields {text : String} {f : Field} (h : f ∈ fields text) : IsField f.text := by
  obtain ⟨l, hl, htext, hnoise⟩ := exists_line_of_mem_fields h
  obtain ⟨hne, hcomment⟩ := (isNoise_eq_false_iff _).mp hnoise
  have hlist : f.text.toList = Text.trim l := by rw [htext, String.toList_ofList]
  have hline : '\n' ∉ l := Text.lineFeed_not_mem_of_mem_lines hl
  refine ⟨?_, ?_, ?_, ?_⟩
  · rw [htext, ne_eq, String.ofList_eq_empty_iff]
    exact hne
  · rw [hlist, Text.trim_trim]
  · rw [hlist]
    exact fun hfeed => hline ((Text.trim_sublist l).subset hfeed)
  · rw [hlist]
    exact hcomment

/-- A field is no noise. -/
theorem IsField.isNoise_eq_false {f : String} (h : IsField f) : isNoise f.toList = false := by
  rw [isNoise_eq_false_iff]
  exact ⟨fun hnil => h.ne_empty (String.toList_eq_nil_iff.mp hnil), h.notComment⟩

/-! ### Lines as they are written -/

/-- What a line may look like that carries a field, or none. -/
inductive Carries : List Char → Option String → Prop where
  | blank {l : List Char} (h : ∀ c ∈ l, Text.isBlank c = true) : Carries l none
  | comment {blanks : List Char} (h : ∀ c ∈ blanks, Text.isBlank c = true) (rest : List Char) :
      Carries (blanks ++ '#' :: rest) none
  | field {before after : List Char} (hbefore : ∀ c ∈ before, Text.isBlank c = true) (f : String)
      (hafter : ∀ c ∈ after, Text.isBlank c = true) : Carries (before ++ f.toList ++ after) (some f)

/-- A line of a fixture as somebody may write it. -/
structure WrittenLine where
  text : List Char
  /-- The field on it; nothing if it is blank or a comment. -/
  field? : Option String
  /-- Whether a carriage return stands before the line feed that ends it. -/
  returned : Bool
  oneLine : '\n' ∉ text
  carries : Carries text field?

/-- What stands before the line feed of a line. -/
def WrittenLine.body (l : WrittenLine) : List Char := l.text ++ if l.returned then ['\r'] else []

/-- Lines written out. -/
def written (ls : List WrittenLine) : List Char := Text.ofLines (ls.map WrittenLine.body)

/-- The fields on lines. -/
def fieldsOf (ls : List WrittenLine) : List String := ls.filterMap (·.field?)

/-- A text that consists of these lines.  A byte-order mark stands in front of them, which may be left
out if they do not start with one themselves. -/
inductive IsText (ls : List WrittenLine) : String → Prop where
  | marked : IsText ls (String.ofList (byteOrderMark :: written ls))
  | plain (h : (written ls).head? ≠ some byteOrderMark) : IsText ls (String.ofList (written ls))

theorem WrittenLine.lineFeed_not_mem_body (l : WrittenLine) : '\n' ∉ l.body := by
  have hline := l.oneLine
  unfold body
  split
  · simpa using hline
  · simpa using hline

/-- A line without its ending. -/
def WrittenLine.line (l : WrittenLine) : List Char := Text.chopReturn l.body

/-- Neither the carriage return of its ending nor the blanks on it matter for what is on a line. -/
theorem WrittenLine.trim_line (l : WrittenLine) : Text.trim l.line = Text.trim l.text := by
  have hreturn : ∀ c ∈ ['\r'], Text.isBlank c = true := List.all_eq_true.mp rfl
  rw [line, Text.trim_chopReturn, body]
  split
  · exact Text.trim_append hreturn _
  · rw [List.append_nil]

/-- The lines that are found in lines written out. -/
theorem lines_written (ls : List WrittenLine) : Text.lines (written ls) = ls.map WrittenLine.line := by
  rw [written, Text.lines_ofLines, List.flatMap_map]
  induction ls with
  | nil => rfl
  | cons l ls ih =>
    rw [List.flatMap_cons, ih, Text.linePieces_eq_singleton l.lineFeed_not_mem_body]
    rfl

/-- Every line ends in a line feed and holds no other. -/
theorem count_written (ls : List WrittenLine) : (written ls).count '\n' = ls.length := by
  unfold written
  induction ls with
  | nil => rfl
  | cons l ls ih =>
    have hbody := List.count_eq_zero.mpr l.lineFeed_not_mem_body
    rw [List.map_cons, Text.ofLines_cons, List.count_append, List.count_cons_self, hbody, ih,
      List.length_cons, Nat.zero_add]

/-! ### The fields of what was written -/

theorem Carries.isNoise_trim {l : List Char} (h : Carries l none) : isNoise (Text.trim l) = true := by
  cases h with
  | blank h => rw [Text.trim_eq_nil h]; rfl
  | comment h rest =>
    have hhash : Text.isBlank '#' = false := by decide
    rw [Text.trim, Text.trimStart_append h, ← Text.trim, Text.trim_cons hhash]
    rfl

theorem Carries.trim_eq {l : List Char} {f : String} (h : Carries l (some f)) (hf : IsField f) :
    Text.trim l = f.toList := by
  cases h with
  | field hbefore _ hafter => rw [Text.trim_padded hbefore hafter, hf.trimmed]

/-- A line with no field only counts. -/
theorem fieldsFrom_line_of_none {l : WrittenLine} (h : l.field? = none) (n : Nat)
    (ls : List (List Char)) : fieldsFrom n (l.line :: ls) = fieldsFrom (n + 1) ls := by
  refine fieldsFrom_cons_of_isNoise ls ?_
  rw [l.trim_line]
  exact (h ▸ l.carries).isNoise_trim

/-- A line with a field gives that field. -/
theorem fieldsFrom_line_of_some {l : WrittenLine} {f : String} (h : l.field? = some f) (hf : IsField f)
    (n : Nat) (ls : List (List Char)) :
    fieldsFrom n (l.line :: ls) = ⟨n, f⟩ :: fieldsFrom (n + 1) ls := by
  have htrim : Text.trim l.line = f.toList := by
    rw [l.trim_line]
    exact (h ▸ l.carries).trim_eq hf
  rw [fieldsFrom_cons ls (htrim ▸ hf.isNoise_eq_false), htrim, String.ofList_toList]

theorem fieldsOf_cons_of_none {l : WrittenLine} (h : l.field? = none) (ls : List WrittenLine) :
    fieldsOf (l :: ls) = fieldsOf ls := List.filterMap_cons_none h

theorem fieldsOf_cons_of_some {l : WrittenLine} {f : String} (h : l.field? = some f)
    (ls : List WrittenLine) : fieldsOf (l :: ls) = f :: fieldsOf ls := List.filterMap_cons_some h

/-- **The fields of what was written** are the fields that were written. -/
theorem map_text_fieldsFrom : ∀ (ls : List WrittenLine) (n : Nat), (∀ f ∈ fieldsOf ls, IsField f) →
    (fieldsFrom n (ls.map WrittenLine.line)).map (·.text) = fieldsOf ls := by
  intro ls
  induction ls with
  | nil => intro n _; rfl
  | cons l ls ih =>
    intro n hls
    rw [List.map_cons]
    cases h : l.field? with
    | none =>
      rw [fieldsOf_cons_of_none h] at hls ⊢
      rw [fieldsFrom_line_of_none h, ih (n + 1) hls]
    | some f =>
      rw [fieldsOf_cons_of_some h] at hls ⊢
      obtain ⟨hf, hls⟩ := List.forall_mem_cons.mp hls
      rw [fieldsFrom_line_of_some h hf, List.map_cons, ih (n + 1) hls]

/-- **The line of a field** is the one on which it was written, after the fields before it. -/
theorem exists_line_of_fieldsFrom : ∀ (ls : List WrittenLine) (n : Nat) (pre : List Field) {f : Field}
    {post : List Field}, (∀ f ∈ fieldsOf ls, IsField f) →
    fieldsFrom n (ls.map WrittenLine.line) = pre ++ f :: post →
    ∃ before l after, ls = before ++ l :: after ∧ fieldsOf before = pre.map (·.text) ∧
      l.field? = some f.text ∧ f.line = n + before.length := by
  intro ls
  induction ls with
  | nil => intro n pre f post _ h; simp at h
  | cons l ls ih =>
    intro n pre f post hls h
    rw [List.map_cons] at h
    cases hl : l.field? with
    | none =>
      rw [fieldsOf_cons_of_none hl] at hls
      rw [fieldsFrom_line_of_none hl] at h
      -- the line holds none of the fields before, but it is counted
      obtain ⟨before, l', after, rfl, hpre, hf, hline⟩ := ih (n + 1) pre hls h
      refine ⟨l :: before, l', after, rfl, ?_, hf, by rw [hline, List.length_cons]; omega⟩
      rw [fieldsOf_cons_of_none hl, hpre]
    | some t =>
      rw [fieldsOf_cons_of_some hl] at hls
      obtain ⟨ht, hls⟩ := List.forall_mem_cons.mp hls
      rw [fieldsFrom_line_of_some hl ht] at h
      cases pre with
      | nil =>
        obtain ⟨rfl, -⟩ := List.cons.inj h
        exact ⟨[], l, ls, rfl, rfl, hl, rfl⟩
      | cons g pre =>
        obtain ⟨rfl, hrest⟩ := List.cons.inj h
        obtain ⟨before, l', after, rfl, hpre, hf, hline⟩ := ih (n + 1) pre hls hrest
        refine ⟨l :: before, l', after, rfl, ?_, hf, by rw [hline, List.length_cons]; omega⟩
        rw [fieldsOf_cons_of_some hl, hpre, List.map_cons]

/-! ### The cases of what was written -/

/-- **Fields in chunks of four** that are the fields of cases are these cases, each on the line of its
first field. -/
theorem records_of_map_text : ∀ (cs : List TestCase) {fs : List Field},
    fs.map (·.text) = cs.flatMap caseFields →
    dangling fs = none ∧ (records fs).length = cs.length ∧
      ∀ j c, cs[j]? = some c → ∃ pre f post, fs = pre ++ f :: post ∧
        pre.map (·.text) = (cs.take j).flatMap caseFields ∧ f.text = c.arguments ∧
        (records fs)[j]? = some { c with line := f.line } := by
  intro cs
  induction cs with
  | nil =>
    intro fs h
    rw [List.flatMap_nil, List.map_eq_nil_iff] at h
    subst h
    exact ⟨rfl, rfl, by simp⟩
  | cons c cs ih =>
    intro fs h
    rw [List.flatMap_cons, caseFields] at h
    obtain ⟨a, fs, rfl, ha, h⟩ := List.map_eq_cons_iff.mp h
    obtain ⟨i, fs, rfl, hi, h⟩ := List.map_eq_cons_iff.mp h
    obtain ⟨o, fs, rfl, ho, h⟩ := List.map_eq_cons_iff.mp h
    obtain ⟨x, fs, rfl, hx, h⟩ := List.map_eq_cons_iff.mp h
    obtain ⟨hdangling, hlength, hcases⟩ := ih h
    refine ⟨hdangling, by rw [records, List.length_cons, hlength, List.length_cons], ?_⟩
    intro j d hj
    cases j with
    | zero =>
      cases hj
      exact ⟨[], a, i :: o :: x :: fs, rfl, rfl, ha, by simp [records, ha, hi, ho, hx]⟩
    | succ j =>
      obtain ⟨pre, f, post, rfl, hpre, hf, hrecord⟩ := hcases j d hj
      refine ⟨a :: i :: o :: x :: pre, f, post, rfl, ?_, hf, hrecord⟩
      simp [caseFields, hpre, ha, hi, ho, hx]

/-- A text that consists of lines has the fields that are found on them. -/
theorem fields_eq {ls : List WrittenLine} {text : String} (h : IsText ls text) :
    fields text = fieldsFrom 1 (ls.map WrittenLine.line) := by
  rw [fields_stripMark, ← lines_written]
  cases h with
  | marked => rw [String.toList_ofList, stripMark, if_pos rfl]
  | plain h => rw [String.toList_ofList, stripMark_eq, if_neg h]

/-- **What can be read is what can be written.**  Every field of a case that was read can stand as a field.
Conversely, let the fields of cases be written on lines of their own, in order, with blanks around them
and with comments and blank lines wherever they may be.  A text that consists of these lines reads as
the same cases, with nothing left over; and each case has the number of the line that holds its arguments,
counted by the line feeds before it. -/
theorem parse_written :
    (∀ text, ∀ c ∈ (parse text).cases, ∀ f ∈ caseFields c, IsField f) ∧
      ∀ (cs : List TestCase) (ls : List WrittenLine) (text : String),
        (∀ c ∈ cs, ∀ f ∈ caseFields c, IsField f) → fieldsOf ls = cs.flatMap caseFields →
        IsText ls text →
        (parse text).incomplete = none ∧ (parse text).cases.length = cs.length ∧
          ∀ j c, cs[j]? = some c → ∃ before l after, ls = before ++ l :: after ∧
            fieldsOf before = (cs.take j).flatMap caseFields ∧ l.field? = some c.arguments ∧
            (parse text).cases[j]? = some { c with line := (written before).count '\n' + 1 } := by
  refine ⟨fun text c hc f hf => ?_, fun cs ls text hcs hls htext => ?_⟩
  · obtain ⟨field, hfield, rfl⟩ := exists_field_of_mem_caseFields hc hf
    exact isField_of_mem_fields hfield
  · have hfields : ∀ f ∈ fieldsOf ls, IsField f := by
      intro f hf
      rw [hls] at hf
      obtain ⟨c, hc, hf⟩ := List.mem_flatMap.mp hf
      exact hcs c hc f hf
    have hmap := (map_text_fieldsFrom ls 1 hfields).trans hls
    obtain ⟨hdangling, hlength, hcases⟩ := records_of_map_text cs hmap
    rw [parse_eq, fields_eq htext]
    refine ⟨hdangling, hlength, fun j c hj => ?_⟩
    obtain ⟨pre, f, post, hsplit, hpre, hf, hrecord⟩ := hcases j c hj
    obtain ⟨before, l, after, rfl, hbefore, hl, hline⟩ := exists_line_of_fieldsFrom ls 1 pre hfields hsplit
    refine ⟨before, l, after, rfl, hbefore.trans hpre, hf ▸ hl, ?_⟩
    rw [hrecord, hline, count_written, Nat.add_comm]

/-- A case whose fields look like comments, hold blanks and start with a byte-order mark. -/
def sampleCase : TestCase := ⟨"-a #1", "in put", "\uFEFFout", "0011", 7⟩

/-- Lines on which it is written, among comments and blank lines and with both kinds of line endings. -/
def sampleLines : List WrittenLine :=
  have blanks {l : List Char} : l.all Text.isBlank = true → ∀ c ∈ l, Text.isBlank c = true :=
    List.all_eq_true.mp
  [⟨['\t'], none, true, by decide, .blank (blanks rfl)⟩,
    ⟨[' ', '#', '1'], none, false, by decide, @Carries.comment [' '] (blanks rfl) ['1']⟩,
    ⟨[' '] ++ "-a #1".toList ++ ['\u00A0'], some "-a #1", true, by decide,
      .field (blanks rfl) _ (blanks rfl)⟩,
    ⟨[] ++ "in put".toList ++ [], some "in put", false, by decide,
      .field (blanks rfl) _ (blanks rfl)⟩,
    ⟨[], none, false, by decide, .blank (blanks rfl)⟩,
    ⟨[] ++ "\uFEFFout".toList ++ ['\r'], some "\uFEFFout", false, by decide,
      .field (blanks rfl) _ (blanks rfl)⟩,
    ⟨[] ++ "0011".toList ++ [], some "0011", true, by decide, .field (blanks rfl) _ (blanks rfl)⟩]

/-- The sample is read from its third line. -/
theorem parse_written_sample :
    (∀ c ∈ [sampleCase], ∀ f ∈ caseFields c, IsField f) ∧
      fieldsOf sampleLines = [sampleCase].flatMap caseFields ∧
      (parse (String.ofList (written sampleLines))).incomplete = none ∧
      ∃ before l after, sampleLines = before ++ l :: after ∧ fieldsOf before = [] ∧
        l.field? = some "-a #1" ∧ (parse (String.ofList (written sampleLines))).cases[0]? =
          some { sampleCase with line := (written before).count '\n' + 1 } := by
  have hcs : ∀ c ∈ [sampleCase], ∀ f ∈ caseFields c, IsField f := by
    intro c hc f hf
    rw [List.mem_singleton.mp hc] at hf
    have hfields : f ∈ ["-a #1", "in put", "\uFEFFout", "0011"] := hf
    simp only [List.mem_cons, List.not_mem_nil, or_false] at hfields
    rcases hfields with rfl | rfl | rfl | rfl
    all_goals exact ⟨by decide, by decide, by decide, by decide⟩
  have hls : fieldsOf sampleLines = [sampleCase].flatMap caseFields := rfl
  obtain ⟨hnone, -, hcases⟩ := parse_written.2 [sampleCase] sampleLines _ hcs hls (.plain (by decide))
  exact ⟨hcs, hls, hnone, hcases 0 sampleCase rfl⟩

end Fixture

end HashReplay
