import HashReplay.Proofs.HashLine.Search
import HashReplay.Proofs.Text.LetterCase
import HashReplay.Report

/-!
# The first hash line of an output

The hash of an output is the token of its first hash line, and it does not matter which lines are meant:
the pieces between line feeds as they are, the same without a carriage return at their ends, or the lines
that a report dumps.  Carriage returns neither belong to the label nor are they digits, so one at the end
of a line only comes after the token.

Lines that look like hash lines and are none are passed over, however many there are, and the search goes
on with the next line as if it were the first.

## Main definitions

* `NearMiss` — lines that look like hash lines.

## Main results

* `tokenAt_chopReturn` — the token of a line without the carriage return at its end.
* `extract_ofLines_append` — lines that are no hash lines do not count.
* `extract_first_hashLine` — the hash of an output is that of its first hash line.
-/

namespace HashReplay.HashLine

open Text (StartsLine SameButCase)

/-! ### Carriage returns -/

/-- A carriage return at the end of a line is not part of its token, and does not spoil it. -/
theorem tokenAt_append_return (l : List Char) : tokenAt (l ++ ['\r']) = tokenAt l :=
  tokenAt_append_cons (by decide) (by decide) l []

theorem tokenAt_chopReturn (l : List Char) : tokenAt (Text.chopReturn l) = tokenAt l := by
  rcases Text.eq_chopReturn_or l with h | h
  · rw [← h]
  · conv_rhs => rw [h, tokenAt_append_return]

/-- The lines of a text hold the tokens of its pieces. -/
theorem findSome?_linesOfPieces (ps : List (List Char)) :
    (Text.linesOfPieces ps).findSome? tokenAt = ps.findSome? tokenAt := by
  fun_induction Text.linesOfPieces ps with
  | case1 => rfl
  | case2 p hp =>
    -- the piece behind the last line feed is no line if it is empty, and has no token then
    rw [List.isEmpty_iff.mp hp]
    rfl
  | case3 p hp => rfl
  | case4 p q ps ih =>
    rw [List.findSome?_cons, List.findSome?_cons, tokenAt_chopReturn, ih]

/-! ### Lines that are no hash lines -/

/-- Lines that look like hash lines and are none. -/
inductive NearMiss : List Char → Prop
  /-- Too few or too many digits; so does a token look that a line feed cuts off. -/
  | miscounted {digits rest : List Char} (hlength : digits.length ≠ tokenLength)
      (hdigits : ∀ c ∈ digits, isHexDigit c = true)
      (hrest : ∀ c, rest.head? = some c → isHexDigit c = false) :
      NearMiss (label ++ digits ++ rest)
  /-- What comes of a token behind the line feed that cuts it. -/
  | remainder {digit : Char} (h : isHexDigit digit = true) (rest : List Char) :
      NearMiss (digit :: rest)
  /-- Blanks in front of what may be a hash line. -/
  | indented {blank : Char} (h : Text.isBlank blank = true) (rest : List Char) :
      NearMiss (blank :: rest)
  /-- The label with some letters in the other case. -/
  | recased {start : List Char} (h : SameButCase label start) (hne : start ≠ label)
      (rest : List Char) : NearMiss (start ++ rest)

/-- A hash line starts like the label. -/
theorem IsHashLine.head? {l token : List Char} (h : IsHashLine l token) : l.head? = some 'h' := by
  obtain ⟨rest, rfl, -⟩ := h
  rfl

/-- **A near miss is no hash line.** -/
theorem NearMiss.not_isHashLine {l : List Char} (h : NearMiss l) (token : List Char) :
    ¬IsHashLine l token := by
  intro hline
  cases h with
  | miscounted hlength hdigits hrest =>
    rename_i digits rest
    obtain ⟨behind, hl, htoken, hall, hbehind⟩ := hline
    rw [List.append_assoc, List.append_assoc, List.append_cancel_left_eq] at hl
    -- both are the longest run of digits behind the label
    have hrun := (takeWhile_eq_iff isHexDigit (digits ++ rest) digits).mpr
      ⟨rest, rfl, hdigits, hrest⟩
    have hsame := (takeWhile_eq_iff isHexDigit (digits ++ rest) token).mpr
      ⟨behind, hl, hall, hbehind⟩
    rw [hrun] at hsame
    exact hlength (hsame ▸ htoken)
  | remainder hdigit rest =>
    cases hline.head?
    exact absurd hdigit (by decide)
  | indented hblank rest =>
    cases hline.head?
    exact absurd hblank (by decide)
  | recased hcase hne rest =>
    obtain ⟨behind, hl, -⟩ := hline
    rw [List.append_assoc] at hl
    exact hne (List.append_inj hl hcase.length_eq.symm).1

/-- **Lines that are no hash lines** do not count: what follows them is searched as if it came first. -/
theorem extract_ofLines_append {before : List (List Char)}
    (hbefore : ∀ l ∈ before, '\n' ∉ l ∧ ∀ token, ¬IsHashLine l token) (s : List Char) :
    extract (Text.ofLines before ++ s) = extract s := by
  induction before with
  | nil => rfl
  | cons l before ih =>
    obtain ⟨⟨hfeed, hnone⟩, hbefore⟩ := List.forall_mem_cons.mp hbefore
    have htoken : tokenAt l = none := by
      refine Option.eq_none_iff_forall_ne_some.mpr fun token htoken => ?_
      exact hnone token ((tokenAt_eq_some_iff l token).mp htoken)
    have hpieces : Text.linePieces (l ++ '\n' :: (Text.ofLines before ++ s)) =
        l :: Text.linePieces (Text.ofLines before ++ s) := by
      rw [Text.linePieces, Text.pieces_append_cons rfl, ← Text.linePieces, ← Text.linePieces,
        Text.linePieces_eq_singleton hfeed]
      rfl
    rw [Text.ofLines_cons, List.append_assoc, List.cons_append, extract_eq_findSome?, hpieces,
      List.findSome?_cons, htoken, ← extract_eq_findSome?]
    exact ih hbefore

/-! ### The first hash line -/

/-- **The hash of an output is that of its first hash line.**  It is the token of the first piece between
line feeds that is the label, 32 hexadecimal digits and then nothing or something that does not go on
with a digit, and there is none if no piece is like that.  It is what the pattern catches where it matches
first in the whole text.  The pieces may as well be taken without a carriage return at their ends, and
instead of them the lines that a report dumps.  Lines in front that are no hash lines, near misses among
them, change nothing. -/
theorem extract_first_hashLine (output : String) (token : List Char) :
    (extract output.toList = some token ↔ FirstOf (Text.linePieces output.toList) token) ∧
    (extract output.toList = none ↔
      ∀ l ∈ Text.linePieces output.toList, ∀ t, ¬IsHashLine l t) ∧
    (extract output.toList = some token ↔
      ∃ before m after, pattern.FirstMatch output.toList before m after [token]) ∧
    (extract output.toList = some token ↔
      FirstOf ((Text.linePieces output.toList).map Text.chopReturn) token) ∧
    (∀ ls, Report.dump output = ls.map (fun l => "  | " ++ String.ofList l) →
      (extract output.toList = some token ↔ FirstOf ls token)) ∧
    (∀ l, NearMiss l → ∀ t, ¬IsHashLine l t) ∧
    ∀ before, (∀ l ∈ before, '\n' ∉ l ∧ ∀ t, ¬IsHashLine l t) →
      extract (Text.ofLines before ++ output.toList) = extract output.toList := by
  refine ⟨extract_eq_some_iff _ _, ?_, extract_eq_some_iff_firstMatch _ _, ?_, ?_,
    fun l hl => hl.not_isHashLine, fun before hbefore => extract_ofLines_append hbefore _⟩
  · rw [extract_eq_findSome?, List.findSome?_eq_none_iff]
    simp only [Option.eq_none_iff_forall_ne_some, ne_eq, tokenAt_eq_some_iff]
  · have hchop : tokenAt ∘ Text.chopReturn = tokenAt := funext tokenAt_chopReturn
    rw [← findSome?_tokenAt_eq_some_iff, List.findSome?_map, hchop, extract_eq_findSome?]
  · intro ls hls
    have hmark : Function.Injective fun l : List Char => "  | " ++ String.ofList l := by
      intro l m hlm
      simpa using congrArg String.toList hlm
    have hlines : Text.lines output.toList = ls := List.map_injective_iff.mpr hmark hls
    rw [← hlines, ← findSome?_tokenAt_eq_some_iff, Text.lines, findSome?_linesOfPieces,
      extract_eq_findSome?]

/-- A token that is one digit short, one that has a digit too many, an indented hash line, one with a
capital letter in its label, and one that is cut after its first digit. -/
def nearMisses : List (List Char) :=
  [label ++ List.replicate 31 'a' ++ ['g'], label ++ List.replicate 33 'B' ++ [],
    ' ' :: (label ++ List.replicate 32 '0'), ('H' :: label.tail) ++ List.replicate 32 '0',
    label ++ List.replicate 1 '0' ++ [], 'F' :: List.replicate 30 '0']

theorem nearMiss_of_mem_nearMisses {l : List Char} (h : l ∈ nearMisses) : '\n' ∉ l ∧ NearMiss l := by
  have hdigits {n : Nat} {digit : Char} (hdigit : isHexDigit digit = true) :
      ∀ c ∈ List.replicate n digit, isHexDigit c = true := by
    intro c hc
    rw [List.eq_of_mem_replicate hc]
    exact hdigit
  simp only [nearMisses, List.mem_cons, List.not_mem_nil, or_false] at h
  rcases h with rfl | rfl | rfl | rfl | rfl | rfl
  · refine ⟨by decide, .miscounted (by decide) (hdigits (by decide)) ?_⟩
    intro c hc
    cases hc
    decide
  · exact ⟨by decide, .miscounted (by decide) (hdigits (by decide)) (by simp)⟩
  · exact ⟨by decide, .indented (by decide) _⟩
  · refine ⟨by decide, .recased ?_ (by decide) _⟩
    exact .cons (.raised 7) (List.forall₂_same.mpr fun c _ => .same c)
  · exact ⟨by decide, .miscounted (by decide) (hdigits (by decide)) (by simp)⟩
  · exact ⟨by decide, .remainder (by decide) _⟩

/-- Behind the near misses the first of two hash lines is found, although it ends in a carriage return. -/
theorem extract_first_hashLine_sample :
    (∀ l ∈ nearMisses, '\n' ∉ l ∧ NearMiss l) ∧
      extract (Text.ofLines nearMisses ++ (String.ofList (label ++ List.replicate 32 'c' ++ ['\r', '\n']
        ++ label ++ List.replicate 32 'd')).toList) = some (List.replicate 32 'c') := by
  obtain ⟨-, -, -, -, -, hmiss, hfront⟩ := extract_first_hashLine
    (String.ofList (label ++ List.replicate 32 'c' ++ ['\r', '\n'] ++ label ++ List.replicate 32 'd'))
    (List.replicate 32 'c')
  have hnone : ∀ l ∈ nearMisses, '\n' ∉ l ∧ ∀ t, ¬IsHashLine l t := by
    intro l hl
    obtain ⟨hfeed, hnear⟩ := nearMiss_of_mem_nearMisses hl
    exact ⟨hfeed, hmiss l hnear⟩
  refine ⟨fun l hl => nearMiss_of_mem_nearMisses hl, ?_⟩
  rw [hfront nearMisses hnone]
  decide +kernel

end HashReplay.HashLine
