import HashReplay.Fixture.Parser

/-!
# The cases of a text as chunks of its fields

The reader of fixtures goes through the lines once and holds the fields of the case it is in.  Seen
from outside it does something simpler: it numbers the lines, keeps those that carry a field, and cuts
what is left into chunks of four.

The two views meet in an invariant: what is pending are the fields held since the last complete case,
of which only the first still has its line number (`Pending.Holds`).  Reading on from there gives the
records of the held fields followed by the fields still to come (`readLines_eq`).

## Main definitions

* `Field`, `fields` — the lines of a text that carry a field.
* `records`, `dangling` — fields cut into chunks of four, and what is left over.
* `caseAt`, `danglingAt` — the same by the places of the fields.

## Main results

* `parse_eq` — a text reads as the records of its fields.
* `parse_chunks_fields` — the same, place by place: every field stands in exactly one case or in the
  incomplete rest.
-/

namespace HashReplay

namespace Fixture

/-! ### The fields of a text -/

/-- A line that carries a field: its number, and its text without the blanks around it. -/
structure Field where
  line : Nat
  text : String
  deriving DecidableEq, Repr

/-- The lines, numbered from `n`, that are neither blank nor start with a number sign, without the
blanks around them. -/
def fieldsFrom (n : Nat) (ls : List (List Char)) : List Field :=
  ((ls.zipIdx n).map fun l => Field.mk l.2 (String.ofList (Text.trim l.1))).filter
    fun f => f.text ≠ "" && f.text.toList.head? ≠ some '#'

/-- The fields of a text, after at most one byte-order mark. -/
def fields (text : String) : List Field :=
  fieldsFrom 1 (Text.lines
    (if text.toList.head? = some byteOrderMark then text.toList.tail else text.toList))

theorem stripMark_eq (s : List Char) :
    stripMark s = if s.head? = some byteOrderMark then s.tail else s := by
  cases s with
  | nil => rfl
  | cons c s => simp [stripMark]

/-- The fields of a text stand on its lines after the mark. -/
theorem fields_stripMark (text : String) :
    fields text = fieldsFrom 1 (Text.lines (stripMark text.toList)) := by
  rw [fields, stripMark_eq]

theorem isNoise_eq_false_iff (t : List Char) :
    isNoise t = false ↔ t ≠ [] ∧ t.head? ≠ some '#' := by
  cases t with
  | nil => simp [isNoise]
  | cons c t => simp [isNoise]

@[simp] theorem fieldsFrom_nil (n : Nat) : fieldsFrom n [] = [] := rfl

/-- A noise line only counts. -/
theorem fieldsFrom_cons_of_isNoise {n : Nat} {l : List Char} (ls : List (List Char))
    (h : isNoise (Text.trim l) = true) : fieldsFrom n (l :: ls) = fieldsFrom (n + 1) ls := by
  have hl : ¬(Text.trim l ≠ [] ∧ (Text.trim l).head? ≠ some '#') := by
    rw [← isNoise_eq_false_iff, h]
    decide
  rw [fieldsFrom, List.zipIdx_cons, List.map_cons, List.filter_cons_of_neg, fieldsFrom]
  simpa [String.ofList_eq_empty_iff] using hl

/-- Any other line is a field. -/
theorem fieldsFrom_cons {n : Nat} {l : List Char} (ls : List (List Char))
    (h : isNoise (Text.trim l) = false) :
    fieldsFrom n (l :: ls) = ⟨n, String.ofList (Text.trim l)⟩ :: fieldsFrom (n + 1) ls := by
  have hl := (isNoise_eq_false_iff _).mp h
  rw [fieldsFrom, List.zipIdx_cons, List.map_cons, List.filter_cons_of_pos, fieldsFrom]
  simpa using hl

/-- A field is what is left of a line without the blanks around it. -/
theorem exists_line_of_mem_fields {text : String} {f : Field} (h : f ∈ fields text) :
    ∃ l ∈ Text.lines (stripMark text.toList),
      f.text = String.ofList (Text.trim l) ∧ isNoise (Text.trim l) = false := by
  rw [fields_stripMark] at h
  obtain ⟨hf, hnoise⟩ := List.mem_filter.mp h
  obtain ⟨⟨l, n⟩, hl, rfl⟩ := List.mem_map.mp hf
  obtain ⟨-, -, hl⟩ := List.mem_zipIdx hl
  refine ⟨l, hl ▸ List.getElem_mem _, rfl, (isNoise_eq_false_iff _).mpr ?_⟩
  simpa using hnoise

/-! ### Chunks of four -/

/-- The cases of fields: four in a row are a case, which starts on the line of the first. -/
def records : List Field → List TestCase
  | a :: i :: o :: h :: rest => ⟨a.text, i.text, o.text, h.text, a.line⟩ :: records rest
  | _ => []

/-- What fewer than four fields at the end lack. -/
def dangling : List Field → Option Incomplete
  | _ :: _ :: _ :: _ :: rest => dangling rest
  | [a, _, _] => some ⟨a.line, .expectedHash⟩
  | [a, _] => some ⟨a.line, .outputDestination⟩
  | [a] => some ⟨a.line, .inputSource⟩
  | [] => none

/-- What is pending are these fields; only the first still has its line number. -/
def Pending.Holds : Pending → List Field → Prop
  | .start, held => held = []
  | .afterArguments n a, held => held = [⟨n, a⟩]
  | .afterInput n a i, held => ∃ m, held = [⟨n, a⟩, ⟨m, i⟩]
  | .afterOutput n a i o, held => ∃ m m', held = [⟨n, a⟩, ⟨m, i⟩, ⟨m', o⟩]

/-- One more field: it is held, or it completes a case, and nothing is held after that. -/
theorem Pending.Holds.take {p : Pending} {held : List Field} (h : p.Holds held) (n : Nat)
    (t : String) :
    (∃ q, p.take n t = (q, none) ∧ q.Holds (held ++ [⟨n, t⟩])) ∨
      ∃ c, p.take n t = (.start, some c) ∧ ∀ rest,
        records (held ++ ⟨n, t⟩ :: rest) = c :: records rest ∧
          dangling (held ++ ⟨n, t⟩ :: rest) = dangling rest := by
  cases p with
  | start =>
    subst h
    exact Or.inl ⟨.afterArguments n t, rfl, rfl⟩
  | afterArguments l a =>
    subst h
    exact Or.inl ⟨.afterInput l a t, rfl, n, rfl⟩
  | afterInput l a i =>
    obtain ⟨m, rfl⟩ := h
    exact Or.inl ⟨.afterOutput l a i t, rfl, m, n, rfl⟩
  | afterOutput l a i o =>
    obtain ⟨m, m', rfl⟩ := h
    exact Or.inr ⟨⟨a, i, o, t, l⟩, rfl, fun rest => ⟨rfl, rfl⟩⟩

/-- Held fields are too few for a case. -/
theorem Pending.Holds.eq_nil {p : Pending} {held : List Field} (h : p.Holds held) :
    records held = [] ∧ dangling held = p.incomplete := by
  cases p with
  | start => subst h; exact ⟨rfl, rfl⟩
  | afterArguments l a => subst h; exact ⟨rfl, rfl⟩
  | afterInput l a i => obtain ⟨m, rfl⟩ := h; exact ⟨rfl, rfl⟩
  | afterOutput l a i o => obtain ⟨m, m', rfl⟩ := h; exact ⟨rfl, rfl⟩

/-- **The invariant of the reader.**  Reading on gives the records of the held fields followed by
the fields still to come. -/
theorem readLines_eq : ∀ (ls : List (List Char)) (n : Nat) (p : Pending) (held : List Field),
    p.Holds held → readLines n p ls =
      ⟨records (held ++ fieldsFrom n ls), dangling (held ++ fieldsFrom n ls)⟩ := by
  intro ls
  induction ls with
  | nil =>
    intro n p held h
    rw [fieldsFrom_nil, List.append_nil, h.eq_nil.1, h.eq_nil.2, readLines]
  | cons l ls ih =>
    intro n p held h
    simp only [readLines]
    cases hl : isNoise (Text.trim l) with
    | true =>
      -- noise moves the line number on, and neither what is pending nor what is held
      rw [fieldsFrom_cons_of_isNoise ls hl, if_pos rfl]
      exact ih (n + 1) p held h
    | false =>
      rw [fieldsFrom_cons ls hl, if_neg Bool.false_ne_true]
      -- the field goes over from the lines to what is held, or it completes what is held
      rcases h.take n (String.ofList (Text.trim l)) with ⟨q, hq, hheld⟩ | ⟨c, hc, hrest⟩
      · rw [hq, List.append_cons]
        exact ih (n + 1) q _ hheld
      · obtain ⟨hrec, hdang⟩ := hrest (fieldsFrom (n + 1) ls)
        rw [hc, hrec, hdang]
        simp only [ih (n + 1) .start [] rfl, List.nil_append]

/-- **A text reads as the records of its fields.** -/
theorem parse_eq (text : String) :
    parse text = ⟨records (fields text), dangling (fields text)⟩ := by
  rw [parse, readLines_eq _ 1 .start [] rfl, stripMark_eq, List.nil_append, fields]

/-! ### The chunks by place -/

/-- The case that starts at the field with place `4 * j`, if four fields are there. -/
def caseAt (fs : List Field) (j : Nat) : Option TestCase := do
  let a ← fs[4 * j]?
  let i ← fs[4 * j + 1]?
  let o ← fs[4 * j + 2]?
  let h ← fs[4 * j + 3]?
  return ⟨a.text, i.text, o.text, h.text, a.line⟩

/-- The first field that is missing after so many fields of a case. -/
def missingAfter : Nat → Option MissingField
  | 1 => some .inputSource
  | 2 => some .outputDestination
  | 3 => some .expectedHash
  | _ => none

/-- The case that starts after the last whole chunk, if a field is there. -/
def danglingAt (fs : List Field) : Option Incomplete := do
  let a ← fs[4 * (fs.length / 4)]?
  let missing ← missingAfter (fs.length % 4)
  return ⟨a.line, missing⟩

/-- The four fields of a case, in the order of their lines. -/
def caseFields (c : TestCase) : List String :=
  [c.arguments, c.inputSource, c.outputDestination, c.expectedHash]

/-- Fields that are no chunk and more are fewer than four. -/
theorem length_lt_of_ne_chunk {fs : List Field}
    (hfs : ∀ a i o h rest, fs = a :: i :: o :: h :: rest → False) : fs.length < 4 := by
  rcases fs with _ | ⟨a, _ | ⟨i, _ | ⟨o, _ | ⟨h, rest⟩⟩⟩⟩
  · decide
  · simp
  · simp
  · simp
  · exact absurd rfl (hfs a i o h rest)

@[simp] theorem length_records (fs : List Field) : (records fs).length = fs.length / 4 := by
  fun_induction records fs with
  | case1 a i o h rest ih =>
    simp only [List.length_cons, ih]
    omega
  | case2 fs hfs =>
    have hlt := length_lt_of_ne_chunk hfs
    rw [List.length_nil, Nat.div_eq_of_lt hlt]

/-- Behind a chunk, the places are four less. -/
theorem caseAt_chunk_succ (a i o h : Field) (rest : List Field) (j : Nat) :
    caseAt (a :: i :: o :: h :: rest) (j + 1) = caseAt rest j := by
  have hj : 4 * (j + 1) = 4 * j + 1 + 1 + 1 + 1 := by omega
  simp only [caseAt, hj, List.getElem?_cons_succ]

theorem caseAt_eq_none {fs : List Field} (hfs : fs.length < 4) (j : Nat) : caseAt fs j = none := by
  have hj : fs[4 * j + 3]? = none := List.getElem?_eq_none (by omega)
  simp [caseAt, hj]

theorem getElem?_records (fs : List Field) (j : Nat) : (records fs)[j]? = caseAt fs j := by
  fun_induction records fs generalizing j with
  | case1 a i o h rest ih =>
    cases j with
    | zero => rfl
    | succ j => rw [List.getElem?_cons_succ, caseAt_chunk_succ, ih]
  | case2 fs hfs => rw [caseAt_eq_none (length_lt_of_ne_chunk hfs), List.getElem?_nil]

theorem danglingAt_chunk (a i o h : Field) (rest : List Field) :
    danglingAt (a :: i :: o :: h :: rest) = danglingAt rest := by
  have hdiv : 4 * ((rest.length + 1 + 1 + 1 + 1) / 4) = 4 * (rest.length / 4) + 1 + 1 + 1 + 1 := by
    omega
  have hmod : (rest.length + 1 + 1 + 1 + 1) % 4 = rest.length % 4 := by omega
  simp only [danglingAt, List.length_cons, hdiv, hmod, List.getElem?_cons_succ]

theorem dangling_eq_danglingAt (fs : List Field) : dangling fs = danglingAt fs := by
  fun_induction dangling fs with
  | case1 a i o h rest ih => rw [ih, danglingAt_chunk]
  | case2 => simp [danglingAt, missingAfter]
  | case3 => simp [danglingAt, missingAfter]
  | case4 => simp [danglingAt, missingAfter]
  | case5 => simp [danglingAt]

theorem dangling_eq_none_iff (fs : List Field) : dangling fs = none ↔ 4 ∣ fs.length := by
  fun_induction dangling fs with
  | case1 a i o h rest ih =>
    simp only [List.length_cons, ih]
    omega
  | case2 => simp
  | case3 => simp
  | case4 => simp
  | case5 => simp

/-- The fields of the cases, and what is left, are all fields in order. -/
theorem flatMap_caseFields_records (fs : List Field) :
    (records fs).flatMap caseFields ++ (fs.drop (4 * (fs.length / 4))).map (·.text) =
      fs.map (·.text) := by
  fun_induction records fs with
  | case1 a i o h rest ih =>
    have hdiv : 4 * ((rest.length + 1 + 1 + 1 + 1) / 4) = 4 * (rest.length / 4) + 1 + 1 + 1 + 1 := by
      omega
    simp only [List.flatMap_cons, caseFields, List.length_cons, hdiv, List.drop_succ_cons,
      List.map_cons, List.cons_append, List.nil_append, ih]
  | case2 fs hfs =>
    have hlt := length_lt_of_ne_chunk hfs
    simp [Nat.div_eq_of_lt hlt]

/-- The fields of the cases of a text are fields of the text. -/
theorem exists_field_of_mem_caseFields {text field : String} {c : TestCase}
    (hc : c ∈ (parse text).cases) (hfield : field ∈ caseFields c) :
    ∃ f ∈ fields text, f.text = field := by
  rw [parse_eq] at hc
  have hmem : field ∈ (fields text).map (·.text) := by
    rw [← flatMap_caseFields_records]
    exact List.mem_append_left _ (List.mem_flatMap.mpr ⟨c, hc, hfield⟩)
  exact List.mem_map.mp hmem

/-- **A text reads as the chunks of four of its fields.**  Of `k` fields, `k / 4` cases are made, the
case with place `j` from the fields with places `4 * j` to `4 * j + 3`, on the line of the first of
them.  There is an incomplete rest exactly when four does not divide `k`; it starts at the field with
place `4 * (k / 4)` and lacks what comes after so many fields as are left.  No field is lost, doubled
or moved. -/
theorem parse_chunks_fields (text : String) :
    (parse text).cases.length = (fields text).length / 4 ∧
      (∀ j, (parse text).cases[j]? = caseAt (fields text) j) ∧
      ((parse text).incomplete = none ↔ 4 ∣ (fields text).length) ∧
      (parse text).incomplete = danglingAt (fields text) ∧
      (parse text).cases.flatMap caseFields ++
          ((fields text).drop (4 * ((fields text).length / 4))).map (·.text) =
        (fields text).map (·.text) := by
  rw [parse_eq]
  exact ⟨length_records _, getElem?_records _, dangling_eq_none_iff _, dangling_eq_danglingAt _,
    flatMap_caseFields_records _⟩

end Fixture

end HashReplay
