import HashReplay.HashLine
import Mathlib.Data.List.TakeWhile

/-!
# The grammar of hash lines

A hash line is the label, exactly 32 hexadecimal digits, and then nothing or something that is no such
digit.  The hash that a text reports is the token of the first of its pieces between line feeds that
is a hash line.

The search goes through the text character by character and only notes whether it is at the start of a
line, so its invariant has two halves: at the start of a line it finds what the pieces hold, and inside
a line what the pieces behind that line hold (`search_eq`).

## Main definitions

* `IsHashLine` — a line that holds a token.
* `Reports` — the first hash line of a text holds a token.
* `FirstOf` — the first hash line among some lines holds a token.

## Main results

* `tokenAt_eq_some_iff` — the token at the start of a text.
* `extract_eq_some_iff` — the hash of a text is the one that it reports.
* `digits_of_extract` — a hash that is found consists of digits.
-/

namespace HashReplay.HashLine

/-- A line that consists of the label, the digits of a hash, and then nothing or something that does
not go on with such a digit. -/
def IsHashLine (line token : List Char) : Prop :=
  ∃ rest, line = label ++ token ++ rest ∧ token.length = tokenLength ∧
    (∀ c ∈ token, isHexDigit c = true) ∧ ∀ c, rest.head? = some c → isHexDigit c = false

/-- The first hash line of a text, cut at every line feed, holds this token. -/
def Reports (text token : List Char) : Prop :=
  ∃ before line after, Text.linePieces text = before ++ line :: after ∧ IsHashLine line token ∧
    ∀ l ∈ before, ∀ t, ¬IsHashLine l t

/-- The first hash line among these lines holds this token. -/
def FirstOf (ls : List (List Char)) (token : List Char) : Prop :=
  ∃ before line after, ls = before ++ line :: after ∧ IsHashLine line token ∧
    ∀ l ∈ before, ∀ t, ¬IsHashLine l t

/-! ### The token of a line -/

/-- Digits are characters of ASCII. -/
theorem lt_of_isHexDigit {c : Char} (h : isHexDigit c = true) : c.toNat < 0x80 := by
  simp only [isHexDigit, Bool.or_eq_true, Bool.and_eq_true, decide_eq_true_eq, Char.le_def,
    UInt32.le_iff_toNat_le] at h
  change c.val.toNat < 0x80
  simp only [Char.reduceVal, UInt32.reduceToNat] at h
  omega

theorem afterLabel?_eq_some_iff : ∀ (p s r : List Char), afterLabel? p s = some r ↔ s = p ++ r := by
  intro p
  induction p with
  | nil => intro s r; simp [afterLabel?]
  | cons c p ih =>
    intro s r
    cases s with
    | nil => simp [afterLabel?]
    | cons d s =>
      rw [afterLabel?]
      by_cases h : c = d
      · subst h
        rw [if_pos rfl, ih, List.cons_append, List.cons.injEq, and_iff_right rfl]
      · rw [if_neg h]
        simp [Ne.symm h]

/-- The longest run of digits at the start is a token exactly when the text goes on with none. -/
theorem takeWhile_eq_iff (p : Char → Bool) (s t : List Char) :
    s.takeWhile p = t ↔ ∃ rest, s = t ++ rest ∧ (∀ c ∈ t, p c = true) ∧
      ∀ c, rest.head? = some c → p c = false := by
  constructor
  · rintro rfl
    refine ⟨s.dropWhile p, List.takeWhile_append_dropWhile.symm, ?_, ?_⟩
    · intro c hc
      exact List.mem_takeWhile_imp hc
    · intro c hc
      have := List.head?_dropWhile_not p s
      rw [hc] at this
      simpa using this
  · rintro ⟨rest, rfl, ht, hrest⟩
    rw [List.takeWhile_append_of_pos ht]
    cases rest with
    | nil => simp
    | cons c rest => rw [List.takeWhile_cons_of_neg (by simp [hrest c rfl]), List.append_nil]

/-- **The token at the start of a text** is there exactly when the text is a hash line. -/
theorem tokenAt_eq_some_iff (s t : List Char) : tokenAt s = some t ↔ IsHashLine s t := by
  unfold tokenAt IsHashLine
  cases h : afterLabel? label s with
  | none =>
    simp only [false_iff, reduceCtorEq]
    rintro ⟨rest, hs, -⟩
    rw [List.append_assoc, ← afterLabel?_eq_some_iff, h] at hs
    simp at hs
  | some r =>
    rw [afterLabel?_eq_some_iff] at h
    subst h
    simp only [Option.ite_none_right_eq_some, Option.some.injEq]
    constructor
    · rintro ⟨hlen, ht⟩
      obtain ⟨rest, rfl, hdigits, hrest⟩ := (takeWhile_eq_iff isHexDigit r t).mp ht
      exact ⟨rest, (List.append_assoc ..).symm, ht ▸ hlen, hdigits, hrest⟩
    · rintro ⟨rest, hs, hlen, hdigits, hrest⟩
      rw [List.append_assoc, List.append_cancel_left_eq] at hs
      have ht := (takeWhile_eq_iff isHexDigit r t).mpr ⟨rest, hs, hdigits, hrest⟩
      exact ⟨ht ▸ hlen, ht⟩

/-! ### The search -/

/-- A label ends in front of every character that it does not hold. -/
theorem afterLabel?_append_cons {c : Char} : ∀ (p : List Char), c ∉ p → ∀ (s rest : List Char),
    afterLabel? p (s ++ c :: rest) = (afterLabel? p s).map (· ++ c :: rest) := by
  intro p
  induction p with
  | nil => intro _ s rest; rfl
  | cons d p ih =>
    intro hp s rest
    rw [List.mem_cons, not_or] at hp
    cases s with
    | nil => simp [afterLabel?, Ne.symm hp.1]
    | cons e s =>
      rw [List.cons_append, afterLabel?, afterLabel?]
      by_cases h : d = e
      · rw [if_pos h, if_pos h, ih hp.2]
      · rw [if_neg h, if_neg h]
        rfl

/-- A character that stands neither in the label nor in a token ends both, so that nothing from there
on matters for the token in front of it. -/
theorem tokenAt_append_cons {c : Char} (hlabel : c ∉ label) (hdigit : isHexDigit c = false)
    (s rest : List Char) : tokenAt (s ++ c :: rest) = tokenAt s := by
  have hc : ¬isHexDigit c = true := by rw [hdigit]; exact Bool.false_ne_true
  rw [tokenAt, tokenAt, afterLabel?_append_cons label hlabel]
  cases afterLabel? label s with
  | none => rfl
  | some r =>
    have hr : (r ++ c :: rest).takeWhile isHexDigit = r.takeWhile isHexDigit := by
      rw [List.takeWhile_append, List.takeWhile_cons_of_neg hc, List.append_nil]
      split
      · rename_i h
        exact (List.takeWhile_prefix _).eq_of_length h |>.symm
      · rfl
    simp only [Option.map_some, hr]

/-- The token at the start of a text is the one of its first line. -/
theorem tokenAt_takeWhile (s : List Char) :
    tokenAt (s.takeWhile fun c => !(c == '\n')) = tokenAt s := by
  rcases h : s.dropWhile (fun c => !(c == '\n')) with _ | ⟨c, rest⟩
  · rw [List.dropWhile_eq_nil_iff] at h
    rw [List.takeWhile_eq_self_iff.mpr h]
  · have hc : c = '\n' := by
      have := List.head?_dropWhile_not (fun c => !(c == '\n')) s
      rw [h] at this
      simpa using this
    subst hc
    have hs := List.takeWhile_append_dropWhile (p := fun c => !(c == '\n')) (l := s)
    rw [h] at hs
    calc tokenAt (s.takeWhile fun c => !(c == '\n'))
        = tokenAt ((s.takeWhile fun c => !(c == '\n')) ++ '\n' :: rest) :=
          (tokenAt_append_cons (by decide) (by decide) _ _).symm
      _ = tokenAt s := by rw [hs]

/-- **The invariant of the search.**  At the start of a line the first token among all pieces is
found, inside a line the first one behind that line. -/
theorem search_eq (s : List Char) :
    search true s = (Text.linePieces s).findSome? tokenAt ∧
      search false s = (Text.linePieces s).tail.findSome? tokenAt := by
  induction s with
  | nil => exact ⟨rfl, rfl⟩
  | cons c s ih =>
    have hfalse : search false (c :: s) = (Text.linePieces (c :: s)).tail.findSome? tokenAt := by
      rw [search, Text.linePieces, Text.pieces]
      cases hc : c == '\n' with
      | true => exact ih.1
      | false =>
        rw [if_neg Bool.false_ne_true, Text.pieces_eq_cons]
        exact ih.2
    refine ⟨?_, hfalse⟩
    -- at the start of a line, the search only goes into the line if there is no token
    have htrue : search true (c :: s) = (tokenAt (c :: s)).or (search false (c :: s)) := by
      rw [search, search]
      cases tokenAt (c :: s) <;> rfl
    rw [htrue, hfalse, Text.linePieces, Text.pieces_eq_cons, List.findSome?_cons, tokenAt_takeWhile,
      List.tail_cons]
    cases tokenAt (c :: s) <;> rfl

/-- Going through lines and taking the first token there is. -/
theorem findSome?_tokenAt_eq_some_iff (ls : List (List Char)) (token : List Char) :
    ls.findSome? tokenAt = some token ↔ FirstOf ls token := by
  rw [List.findSome?_eq_some_iff]
  simp only [FirstOf, tokenAt_eq_some_iff, Option.eq_none_iff_forall_ne_some, ne_eq]

theorem extract_eq_findSome? (text : List Char) :
    extract text = (Text.linePieces text).findSome? tokenAt :=
  (search_eq text).1

/-- **The hash of a text** is the token of its first hash line. -/
theorem extract_eq_some_iff (text token : List Char) :
    extract text = some token ↔ Reports text token := by
  rw [extract_eq_findSome?]
  exact findSome?_tokenAt_eq_some_iff (Text.linePieces text) token

/-- Whatever is found has as many digits as a hash, and nothing else. -/
theorem digits_of_extract {text token : List Char} (h : extract text = some token) :
    token.length = tokenLength ∧ ∀ c ∈ token, isHexDigit c = true := by
  obtain ⟨before, line, after, -, ⟨rest, -, hlength, hdigits, -⟩, -⟩ :=
    (extract_eq_some_iff text token).mp h
  exact ⟨hlength, hdigits⟩

end HashReplay.HashLine
