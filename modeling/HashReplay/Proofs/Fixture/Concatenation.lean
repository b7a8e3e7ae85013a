import HashReplay.Proofs.Fixture.Records

/-!
# Fixtures one after the other

A fixture that ends in a line feed can be continued.  Whatever is appended, the cases that are complete
stay as they are.  If no case is left open, the second text reads as it does alone, only further down by
the lines of the first; otherwise its first fields complete the open case.

A byte-order mark counts only in front of the whole text.  A second text that starts with one loses it
alone, but keeps it as part of its first line here.

## Main definitions

* `TestCase.movedBy`, `Incomplete.movedBy` — a case as many lines further down.

## Main results

* `fields_append` — the fields of two texts.
* `records_append` — fields that end with a complete case do not reach into what follows them.
* `parse_append` — the cases of two texts.
-/

namespace HashReplay

/-- A case as many lines further down. -/
def TestCase.movedBy (k : Nat) (c : TestCase) : TestCase := { c with line := k + c.line }

/-- An incomplete case as many lines further down. -/
def Incomplete.movedBy (k : Nat) (i : Incomplete) : Incomplete := { i with line := k + i.line }

namespace Fixture

/-- A field as many lines further down. -/
def Field.movedBy (k : Nat) (f : Field) : Field := { f with line := k + f.line }

/-! ### The fields of two texts -/

theorem fieldsFrom_append (n : Nat) (ls ms : List (List Char)) :
    fieldsFrom n (ls ++ ms) = fieldsFrom n ls ++ fieldsFrom (n + ls.length) ms := by
  simp only [fieldsFrom, List.zipIdx_append, List.map_append, List.filter_append]

/-- Counting on from another line moves the fields. -/
theorem fieldsFrom_add (k : Nat) : ∀ (ls : List (List Char)) (n : Nat),
    fieldsFrom (k + n) ls = (fieldsFrom n ls).map (Field.movedBy k) := by
  intro ls
  induction ls with
  | nil => intro n; rfl
  | cons l ls ih =>
    intro n
    cases hl : isNoise (Text.trim l) with
    | true =>
      rw [fieldsFrom_cons_of_isNoise ls hl, fieldsFrom_cons_of_isNoise ls hl, Nat.add_assoc, ih]
    | false =>
      rw [fieldsFrom_cons ls hl, fieldsFrom_cons ls hl, Nat.add_assoc, ih]
      rfl

theorem stripMark_append {s : List Char} (h : s ≠ []) (t : List Char) :
    stripMark (s ++ t) = stripMark s ++ t := by
  cases s with
  | nil => exact absurd rfl h
  | cons c s =>
    rw [List.cons_append, stripMark, stripMark]
    split <;> rfl

/-- A byte-order mark is no line feed, so it is not the one at the end and does not count as one. -/
theorem stripMark_lineFeeds {s : List Char} (h : s.getLast? = some '\n') :
    (stripMark s).getLast? = some '\n' ∧ (stripMark s).count '\n' = s.count '\n' := by
  cases s with
  | nil => cases h
  | cons c s =>
    rw [stripMark]
    by_cases hc : c = byteOrderMark
    · subst hc
      rw [if_pos rfl, List.count_cons_of_ne (by decide)]
      cases s with
      | nil => exact absurd h (by decide)
      | cons d s => exact ⟨by rwa [List.getLast?_cons_cons] at h, rfl⟩
    · rw [if_neg hc]
      exact ⟨h, rfl⟩

/-- A text with no byte-order mark is read from its first character. -/
theorem fields_of_head?_ne {text : String} (h : text.toList.head? ≠ some byteOrderMark) :
    fields text = fieldsFrom 1 (Text.lines text.toList) := by
  rw [fields, if_neg h]

/-- **The fields of two texts** are those of the first, and those on the lines of the second as many
lines further down as the first has. -/
theorem fields_append {a : String} (ha : a.toList.getLast? = some '\n') (b : String) :
    fields (a ++ b) = fields a ++
      (fieldsFrom 1 (Text.lines b.toList)).map (Field.movedBy (a.toList.count '\n')) := by
  obtain ⟨hlast, hcount⟩ := stripMark_lineFeeds ha
  obtain ⟨hlength, hlines⟩ := Text.lines_append hlast
  -- the mark that counts is the one in front of `a`, which is not empty
  have hne : a.toList ≠ [] := by
    intro hnil
    rw [hnil] at ha
    cases ha
  rw [fields_stripMark, String.toList_append, stripMark_append hne, hlines, fieldsFrom_append,
    hlength, hcount, Nat.add_comm 1, fieldsFrom_add, ← fields_stripMark]

/-! ### The records of fields one after the other -/

/-- More fields leave complete cases as they are. -/
theorem prefix_records_append (fs gs : List Field) : records fs <+: records (fs ++ gs) := by
  -- the chunks are cut from the start, so only fields that are too few for one go on into `gs`
  fun_induction records fs with
  | case1 a i o h rest ih => exact (List.prefix_cons_inj _).mpr ih
  | case2 => exact List.nil_prefix

/-- **Fields that end with a complete case** do not reach into what follows them. -/
theorem records_append {fs : List Field} (h : dangling fs = none) (gs : List Field) :
    records (fs ++ gs) = records fs ++ records gs ∧ dangling (fs ++ gs) = dangling gs := by
  fun_induction dangling fs with
  | case1 a i o x rest ih =>
    obtain ⟨hrecords, hdangling⟩ := ih h
    exact ⟨congrArg (_ :: ·) hrecords, hdangling⟩
  | case2 => cases h
  | case3 => cases h
  | case4 => cases h
  | case5 => exact ⟨rfl, rfl⟩

/-- Moving the fields moves their cases, the incomplete one too. -/
theorem records_map_movedBy (k : Nat) (fs : List Field) :
    records (fs.map (Field.movedBy k)) = (records fs).map (TestCase.movedBy k) ∧
      dangling (fs.map (Field.movedBy k)) = (dangling fs).map (Incomplete.movedBy k) := by
  -- what is made of fields takes its line from the first of them and nothing else depends on lines
  fun_induction dangling fs with
  | case1 a i o x rest ih =>
    obtain ⟨hrecords, hdangling⟩ := ih
    exact ⟨congrArg (_ :: ·) hrecords, hdangling⟩
  | case2 => exact ⟨rfl, rfl⟩
  | case3 => exact ⟨rfl, rfl⟩
  | case4 => exact ⟨rfl, rfl⟩
  | case5 => exact ⟨rfl, rfl⟩

/-! ### The cases of two texts -/

/-- **Fixtures concatenate.**  Let a text end in a line feed.  Its cases are the first ones of every text
that continues it.  If it leaves no case open and no byte-order mark follows, the cases of the second
text come after them, as many lines further down as the first text has, and what the second text leaves
open is what both leave open. -/
theorem parse_append {a : String} (ha : a.toList.getLast? = some '\n') (b : String) :
    (parse a).cases <+: (parse (a ++ b)).cases ∧
      (b.toList.head? ≠ some byteOrderMark → (parse a).incomplete = none →
        parse (a ++ b) =
          ⟨(parse a).cases ++ (parse b).cases.map (TestCase.movedBy (a.toList.count '\n')),
            (parse b).incomplete.map (Incomplete.movedBy (a.toList.count '\n'))⟩) := by
  rw [parse_eq, parse_eq, fields_append ha]
  refine ⟨prefix_records_append _ _, fun hmark hcomplete => ?_⟩
  have hb : parse b = ⟨records (fieldsFrom 1 (Text.lines b.toList)),
      dangling (fieldsFrom 1 (Text.lines b.toList))⟩ := by
    rw [parse_eq, fields_of_head?_ne hmark]
  obtain ⟨hrecords, hdangling⟩ := records_append hcomplete
    ((fieldsFrom 1 (Text.lines b.toList)).map (Field.movedBy (a.toList.count '\n')))
  obtain ⟨hmoved, hleft⟩ := records_map_movedBy (a.toList.count '\n')
    (fieldsFrom 1 (Text.lines b.toList))
  rw [hrecords, hdangling, hmoved, hleft, hb]

/-- A marked text of one case, and one that is cut short in its second case: the case of the second
text moves from its second line to the seventh, and what the cut leaves open from its sixth to the
eleventh. -/
theorem parse_append_sample :
    parse ("\uFEFFa\n# no field\ni\r\no\nh\n" ++ "\nb\nj\np\ng\nc\n") =
      ⟨[⟨"a", "i", "o", "h", 1⟩, ⟨"b", "j", "p", "g", 7⟩], some ⟨11, .inputSource⟩⟩ := by
  have hfirst : parse "\uFEFFa\n# no field\ni\r\no\nh\n" = ⟨[⟨"a", "i", "o", "h", 1⟩], none⟩ := by
    decide +kernel
  have hsecond : parse "\nb\nj\np\ng\nc\n" =
      ⟨[⟨"b", "j", "p", "g", 2⟩], some ⟨6, .inputSource⟩⟩ := by
    decide +kernel
  have happend := (parse_append (a := "\uFEFFa\n# no field\ni\r\no\nh\n") (by decide)
    "\nb\nj\np\ng\nc\n").2 (by decide) (by rw [hfirst])
  rw [happend, hfirst, hsecond]
  decide +kernel

end Fixture

end HashReplay
