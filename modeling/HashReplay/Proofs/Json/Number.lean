import HashReplay.Proofs.Binary64.Rounding
import HashReplay.Proofs.Json.Text
import HashReplay.Proofs.Text.Numeral

/-!
# Written numbers are read back

A number is written as its parts: whole digits, a point and decimal places, an exponent with its sign.
Reading finds the same parts, as long as what follows ends the value.  The value of whole digits that
fit a word is their number, and a number of moderate size is never out of range.

## Main definitions

* `Lexeme.written` — the parts of a number, written out.
* `Lexeme.Proper` — parts that can be written: digits, without zeros in front.

## Main results

* `Lexeme.read_written` — the parts are found again.
* `reads_readWord` — a whole number that fits is read back.
* `Lexeme.numeral?_of_exponent_le` — a number with a moderate exponent has a value.
-/

namespace HashReplay.Json

open Text (decimal isDigit_decimal decimal_ne_nil le_ofDigitChars valueOf valueOf_decimal)

/-! ### Digits -/

/-- A text that does not start with a digit. -/
def NoDigit (s : List Char) : Prop := ∀ c ∈ s.head?, c.isDigit = false

theorem EndsValue.noDigit {s : List Char} (h : EndsValue s) : NoDigit s := by
  intro c hc
  cases s with
  | nil => cases hc
  | cons d t =>
    obtain rfl : d = c := Option.some.inj hc
    rcases h with rfl | rfl | rfl <;> rfl

theorem takeWhile_digits {ds s : List Char} (hds : ∀ c ∈ ds, c.isDigit = true) (hs : NoDigit s) :
    (ds ++ s).takeWhile Char.isDigit = ds := by
  rw [List.takeWhile_append_of_pos hds]
  cases s with
  | nil => simp
  | cons c t => simp [hs c rfl]

theorem dropWhile_digits {ds s : List Char} (hds : ∀ c ∈ ds, c.isDigit = true) (hs : NoDigit s) :
    (ds ++ s).dropWhile Char.isDigit = s := by
  rw [List.dropWhile_append_of_pos hds]
  cases s with
  | nil => rfl
  | cons c t => rw [List.dropWhile_cons_of_neg (by rw [hs c rfl]; exact Bool.false_ne_true)]

theorem flat_decimal (n : Nat) : Flat (decimal n) := flat_of_isDigit isDigit_decimal

/-- A number that is not zero has no zero in front. -/
theorem head?_decimal {n : Nat} (hn : n ≠ 0) : (decimal n).head? ≠ some '0' := by
  induction n using Nat.strongRecOn with
  | ind n ih =>
    rw [decimal, Nat.toDigits_eq_if (by decide)]
    split
    · simpa using hn
    · rw [List.head?_append_of_ne_nil _ Nat.toDigits_ne_nil]
      exact ih (n / 10) (by omega) (by omega)

/-- The value of digits is the number that they write. -/
theorem digitsValue_eq (ds : List Char) : digitsValue ds = valueOf ds := by
  simp only [digitsValue, valueOf, Nat.ofDigitChars, Nat.mul_comm]

theorem digitsValue_decimal (n : Nat) : digitsValue (decimal n) = n := by
  rw [digitsValue_eq, valueOf_decimal]

/-! ### The parts of a number -/

/-- The written decimal places: nothing if there are none. -/
def fractionPart (ds : List Char) : List Char := if ds = [] then [] else '.' :: ds

/-- The written exponent, with its sign: nothing if there is none. -/
def exponentPart : Option Int → List Char
  | none => []
  | some e => 'e' :: (if e < 0 then '-' else '+') :: decimal e.natAbs

/-- The parts of a number, written out without a sign. -/
def Lexeme.written (l : Lexeme) : List Char :=
  l.whole ++ (fractionPart l.fraction ++ exponentPart l.exponent)

/-- Parts that can be written: there are whole digits, none but a single one starts with zero, and the
number has no sign. -/
structure Lexeme.Proper (l : Lexeme) : Prop where
  unsigned : l.negative = false
  whole_ne_nil : l.whole ≠ []
  whole_digits : ∀ c ∈ l.whole, c.isDigit = true
  no_zero : l.whole.head? = some '0' → l.whole = ['0']
  fraction_digits : ∀ c ∈ l.fraction, c.isDigit = true

/-- The whole digits are read up to the first character that is no digit. -/
theorem readWhole_append {ds s : List Char} (hne : ds ≠ []) (hds : ∀ c ∈ ds, c.isDigit = true)
    (hzero : ds.head? = some '0' → ds = ['0']) (hs : NoDigit s) :
    readWhole (ds ++ s) = .ok (ds, s) := by
  dsimp only [readWhole]
  rw [takeWhile_digits hds hs, dropWhile_digits hds hs]
  split
  · exact absurd rfl hne
  · rfl
  · rename_i t hnot
    have hsingle := hzero rfl
    exact absurd (List.cons.inj hsingle).2 (fun h => hnot h)
  · rfl

theorem readFraction_append {ds s : List Char} (hds : ∀ c ∈ ds, c.isDigit = true) (hs : NoDigit s)
    (hpoint : s.head? ≠ some '.') : readFraction (fractionPart ds ++ s) = .ok (ds, s) := by
  unfold fractionPart
  split
  · rename_i hnil
    subst hnil
    rw [List.nil_append, readFraction.eq_def]
    split
    · exact absurd rfl hpoint
    · rfl
  · rename_i hne
    simp [readFraction, takeWhile_digits hds hs, dropWhile_digits hds hs, hne]

theorem readExponent_append (e : Option Int) {s : List Char} (hs : EndsValue s) :
    readExponent (exponentPart e ++ s) = .ok (e, s) := by
  cases e with
  | none =>
    cases s with
    | nil => rfl
    | cons c t =>
      have hc : ¬(c = 'e' ∨ c = 'E') := by rcases hs with rfl | rfl | rfl <;> decide
      simp [exponentPart, readExponent, hc]
  | some e =>
    have hdigits : readExponentDigits (decide (e < 0)) (decimal e.natAbs ++ s) = .ok (some e, s) := by
      have hvalue : (if e < 0 then -(e.natAbs : Int) else e.natAbs) = e := by split <;> omega
      have hne : (decimal e.natAbs).isEmpty = false := List.isEmpty_eq_false_iff.mpr (decimal_ne_nil _)
      simp only [readExponentDigits, takeWhile_digits isDigit_decimal hs.noDigit,
        dropWhile_digits isDigit_decimal hs.noDigit, hne, digitsValue_decimal, decide_eq_true_eq,
        hvalue]
      rfl
    by_cases hneg : e < 0
    · rw [decide_eq_true hneg] at hdigits
      simp [exponentPart, readExponent, hneg, hdigits]
    · rw [decide_eq_false hneg] at hdigits
      simp [exponentPart, readExponent, hneg, hdigits]

theorem noDigit_exponentPart (e : Option Int) {s : List Char} (hs : EndsValue s) :
    NoDigit (exponentPart e ++ s) ∧ (exponentPart e ++ s).head? ≠ some '.' := by
  cases e with
  | none =>
    refine ⟨hs.noDigit, ?_⟩
    cases s with
    | nil => exact fun h => nomatch h
    | cons c t =>
      intro hc
      obtain rfl : c = '.' := Option.some.inj hc
      rcases hs with h | h | h <;> exact absurd h (by decide)
  | some e =>
    refine ⟨?_, ?_⟩
    · intro c hc
      obtain rfl : 'e' = c := Option.some.inj hc
      decide
    · intro hc
      exact absurd (Option.some.inj hc) (by decide)

theorem noDigit_fractionPart (ds : List Char) {s : List Char} (hs : NoDigit s) :
    NoDigit (fractionPart ds ++ s) := by
  unfold fractionPart
  split
  · exact hs
  · intro c hc
    obtain rfl : '.' = c := Option.some.inj hc
    decide

/-- A written number starts with a digit. -/
theorem Lexeme.Proper.exists_digit {l : Lexeme} (h : l.Proper) :
    ∃ c t, c.isDigit = true ∧ l.written = c :: t := by
  obtain ⟨c, t, hc⟩ := List.exists_cons_of_ne_nil h.whole_ne_nil
  refine ⟨c, t ++ (fractionPart l.fraction ++ exponentPart l.exponent), ?_, ?_⟩
  · exact h.whole_digits c (hc ▸ List.mem_cons_self)
  · rw [Lexeme.written, hc, List.cons_append]

/-- A written number is flat. -/
theorem Lexeme.Proper.flat {l : Lexeme} (h : l.Proper) : Flat l.written := by
  have hfraction : Flat (fractionPart l.fraction) := by
    unfold fractionPart
    split
    · exact flat_nil
    · exact flat_cons.mpr ⟨by decide, flat_of_isDigit h.fraction_digits⟩
  have hexponent : Flat (exponentPart l.exponent) := by
    cases l.exponent with
    | none => exact flat_nil
    | some e =>
      rw [exponentPart, flat_cons, flat_cons]
      exact ⟨by decide, by split <;> decide, flat_decimal _⟩
  rw [Lexeme.written, flat_append, flat_append]
  exact ⟨flat_of_isDigit h.whole_digits, hfraction, hexponent⟩

/-- **The parts of a written number are found again.** -/
theorem Lexeme.read_written {l : Lexeme} (h : l.Proper) {s : List Char} (hs : EndsValue s) :
    Lexeme.read (l.written ++ s) = .ok (l, s) := by
  obtain ⟨hexponent, hpoint⟩ := noDigit_exponentPart l.exponent hs
  have hwhole := readWhole_append h.whole_ne_nil h.whole_digits h.no_zero
    (noDigit_fractionPart l.fraction hexponent)
  have hfraction := readFraction_append h.fraction_digits hexponent hpoint
  have hunsigned : Lexeme.readUnsigned false (l.written ++ s) = .ok (l, s) := by
    simp only [Lexeme.readUnsigned, Lexeme.written, List.append_assoc, hwhole, hfraction,
      readExponent_append l.exponent hs, ← h.unsigned]
  -- a written number starts with a digit, so there is no sign to take
  obtain ⟨c, t, hdigit, hstart⟩ := h.exists_digit
  have hsign : c ≠ '-' := by rintro rfl; exact absurd hdigit (by decide)
  rw [hstart, List.cons_append] at hunsigned ⊢
  rw [Lexeme.read.eq_def]
  split
  · rename_i heq
    exact absurd (List.cons.inj heq).1 hsign
  · exact hunsigned

/-! ### Heads -/

/-- **The head of a written number is its value**, if it has one. -/
theorem readHead_written {l : Lexeme} (h : l.Proper) {n : Numeral} (hn : l.numeral? = some n)
    {s : List Char} (hs : EndsValue s) : readHead (l.written ++ s) = .ok (.numeral n, s) := by
  have hread := Lexeme.read_written h hs
  obtain ⟨c, t, hdigit, hstart⟩ := h.exists_digit
  have hspace : isSpace c = false := by
    by_contra hblank
    simp only [isSpace, Bool.not_eq_false, Bool.or_eq_true, beq_iff_eq] at hblank
    rcases hblank with ((rfl | rfl) | rfl) | rfl <;> exact absurd hdigit (by decide)
  have hnull : c ≠ 'n' := by rintro rfl; exact absurd hdigit (by decide)
  have htrue : c ≠ 't' := by rintro rfl; exact absurd hdigit (by decide)
  have hfalse : c ≠ 'f' := by rintro rfl; exact absurd hdigit (by decide)
  rw [hstart, List.cons_append] at hread ⊢
  rw [readHead, skipSpace_cons hspace]
  simp [hnull, htrue, hfalse, hdigit, readNumeral, hread, hn, Except.map]

/-! ### Words -/

/-- Digits that fit a word are all taken; each changes the exponent by `shift`. -/
theorem foldl_push_of_le (shift skip : Int) (ds : List Char) (n : Nat) (e : Int)
    (h : Nat.ofDigitChars 10 ds n ≤ maxWord) :
    ds.foldl (Significand.push shift skip) ⟨n, e, false⟩ =
      ⟨Nat.ofDigitChars 10 ds n, e + shift * ds.length, false⟩ := by
  induction ds generalizing n e with
  | nil => simp
  | cons c ds ih =>
    rw [Nat.ofDigitChars_cons] at h ⊢
    have hnext : n * 10 + (c.toNat - '0'.toNat) ≤ maxWord := by
      rw [Nat.mul_comm n 10]
      exact le_trans (le_ofDigitChars ds _) h
    have hpush : Significand.push shift skip ⟨n, e, false⟩ c =
        ⟨10 * n + (c.toNat - '0'.toNat), e + shift, false⟩ := by
      rw [Nat.mul_comm 10 n, Significand.push]
      simp only [Bool.not_false, Bool.true_and, decide_eq_true_eq, if_pos hnext]
    rw [List.foldl_cons, hpush, ih _ _ h]
    simp only [List.length_cons, Significand.mk.injEq, true_and, and_true]
    push_cast
    ring

/-- The parts of a whole number. -/
def wholeLexeme (n : Nat) : Lexeme := ⟨false, decimal n, [], none⟩

theorem wholeLexeme_written (n : Nat) : (wholeLexeme n).written = decimal n := by
  simp [wholeLexeme, Lexeme.written, fractionPart, exponentPart]

theorem wholeLexeme_proper (n : Nat) : (wholeLexeme n).Proper where
  unsigned := rfl
  whole_ne_nil := decimal_ne_nil n
  whole_digits := isDigit_decimal
  no_zero := by
    intro hzero
    by_cases hn : n = 0
    · subst hn
      rfl
    · exact absurd hzero (head?_decimal hn)
  fraction_digits := fun _ hc => absurd hc List.not_mem_nil

theorem wholeLexeme_numeral? {n : Nat} (hn : n ≤ maxWord) :
    (wholeLexeme n).numeral? = some (.natural n) := by
  have hvalue : Nat.ofDigitChars 10 (decimal n) 0 = n := valueOf_decimal n
  have hsignificand : (wholeLexeme n).significand = ⟨n, 0, false⟩ := by
    have hfold := foldl_push_of_le 0 1 (decimal n) 0 0 (by rw [hvalue]; exact hn)
    rw [hvalue] at hfold
    simp [Lexeme.significand, wholeLexeme, hfold]
  simp only [Lexeme.numeral?, hsignificand]
  simp [wholeLexeme]

/-- **A whole number that fits is read back.** -/
theorem reads_readWord (bits : Nat) {n : Nat} (hbits : n ≤ greatest bits) (hword : n ≤ maxWord)
    (expected : String) : Reads (readWord bits expected) (decimal n) n := by
  intro rest hrest
  have hhead := readHead_written (wholeLexeme_proper n) (wholeLexeme_numeral? hword) hrest
  rw [wholeLexeme_written] at hhead
  simp [readWord, hhead, hbits]

/-! ### Floating-point numbers -/

/-- One more digit leaves the significand a word; the exponent grows by no more than either change. -/
theorem push_bounds {shift skip b : Int} (hshift : shift ≤ b) (hskip : skip ≤ b) {s : Significand}
    (hs : s.value ≤ maxWord) (c : Char) :
    (s.push shift skip c).value ≤ maxWord ∧ (s.push shift skip c).exponent ≤ s.exponent + b := by
  simp only [Significand.push, Bool.and_eq_true, decide_eq_true_eq]
  split
  · rename_i h
    exact ⟨h.2, by dsimp only; omega⟩
  · exact ⟨hs, by dsimp only; omega⟩

theorem foldl_push_bounds (shift skip b : Int) (hshift : shift ≤ b) (hskip : skip ≤ b)
    (ds : List Char) {s : Significand} (hs : s.value ≤ maxWord) :
    (ds.foldl (Significand.push shift skip) s).value ≤ maxWord ∧
      (ds.foldl (Significand.push shift skip) s).exponent ≤ s.exponent + b * ds.length := by
  induction ds generalizing s with
  | nil => exact ⟨hs, by simp⟩
  | cons c ds ih =>
    obtain ⟨hvalue, hexponent⟩ := push_bounds hshift hskip hs c
    obtain ⟨hvalues, hexponents⟩ := ih hvalue
    refine ⟨hvalues, ?_⟩
    rw [List.foldl_cons, List.length_cons]
    push_cast
    linarith

/-- The significand of a number is a word, and its exponent counts at most the whole digits. -/
theorem Lexeme.significand_bounds (l : Lexeme) :
    l.significand.value ≤ maxWord ∧ l.significand.exponent ≤ l.whole.length := by
  obtain ⟨hwhole, hwholeExponent⟩ :=
    foldl_push_bounds 0 1 1 (by decide) (by decide) l.whole
      (s := ⟨0, 0, false⟩) (Nat.zero_le _)
  obtain ⟨hall, hallExponent⟩ :=
    foldl_push_bounds (-1) 0 0 (by decide) (by decide) l.fraction
      (s := { l.whole.foldl (Significand.push 0 1) ⟨0, 0, false⟩ with full := false }) hwhole
  refine ⟨hall, ?_⟩
  dsimp only [Lexeme.significand] at *
  linarith

/-- Dividing by a power of ten is never out of range. -/
theorem exists_scale_of_neg (f : Rat) {e : Int} (he : e < 0) : ∃ y, scale f e = some y := by
  fun_induction scale f e with
  | case1 => omega
  | case2 => omega
  | case3 => omega
  | case4 f e _ _ => exact ⟨_, rfl⟩
  | case5 => exact ⟨_, rfl⟩
  | case6 f e _ hsmall _ ih =>
    simp only [maxTen] at *
    exact ih (by omega)

/-- The greatest exponent for which no word is out of range here. -/
def moderateExponent : Int := 40

/-- A word times a moderate power of ten is not out of range. -/
theorem exists_scale {n : Nat} (hn : n ≤ maxWord) {e : Int} (he : e ≤ moderateExponent) :
    ∃ y, scale (Binary64.round n) e = some y := by
  rcases lt_or_ge e 0 with hneg | hnonneg
  · exact exists_scale_of_neg _ hneg
  · have hmax : e ≤ maxTen := le_trans he (by decide)
    have hword : Binary64.round n ≤ 2 * (maxWord : Rat) + 1 := by
      have hcast : (n : Rat) ≤ maxWord := by exact_mod_cast hn
      have := Binary64.round_le (x := n) (Nat.cast_nonneg n)
      linarith
    have hten : tenPower e ≤ 2 * (10 : Rat) ^ moderateExponent + 1 := by
      have hpow : (10 : Rat) ^ e ≤ 10 ^ moderateExponent := zpow_le_zpow_right₀ (by norm_num) he
      have := Binary64.round_le (x := (10 : Rat) ^ e) (by positivity)
      rw [tenPower]
      linarith
    have hproduct : Binary64.round n * tenPower e ≤
        (2 * (maxWord : Rat) + 1) * (2 * (10 : Rat) ^ moderateExponent + 1) := by
      have := Binary64.round_nonneg ((10 : Rat) ^ e)
      exact mul_le_mul hword hten this (by positivity)
    have hround := Binary64.round_le (x := Binary64.round n * tenPower e)
      (mul_nonneg (Binary64.round_nonneg _) (Binary64.round_nonneg _))
    have hlimit : 2 * ((2 * (maxWord : Rat) + 1) * (2 * (10 : Rat) ^ moderateExponent + 1)) + 1 <
        Binary64.limit := by
      decide +kernel
    have hlt : Binary64.round (Binary64.round n * tenPower e) < Binary64.limit := by linarith
    refine ⟨Binary64.round (Binary64.round n * tenPower e), ?_⟩
    rw [scale, if_pos hnonneg, if_pos hmax, Binary64.round?]
    exact if_pos hlt

/-- What is written with a point or an exponent is scaled. -/
theorem Lexeme.numeral?_eq_scale {l : Lexeme} (hfloat : l.fraction ≠ [] ∨ l.exponent ≠ none) :
    l.numeral? = (scale (Binary64.round l.significand.value)
      (l.significand.exponent + l.exponent.getD 0)).map fun x => .float ⟨l.negative, x⟩ := by
  have hparts : ¬(l.fraction = [] ∧ l.exponent = none ∧ !l.significand.full) := by
    rintro ⟨hfraction, hnone, -⟩
    exact hfloat.elim (· hfraction) (· hnone)
  simp only [Lexeme.numeral?, if_neg hparts]

/-- **A number of moderate size has a value**: one that is written with a point or an exponent is
floating point. -/
theorem Lexeme.numeral?_of_exponent_le {l : Lexeme} (hfloat : l.fraction ≠ [] ∨ l.exponent ≠ none)
    (hsize : (l.whole.length : Int) + l.exponent.getD 0 ≤ moderateExponent) :
    ∃ x, l.numeral? = some (.float ⟨l.negative, x⟩) := by
  obtain ⟨hvalue, hexponent⟩ := l.significand_bounds
  obtain ⟨x, hx⟩ := exists_scale hvalue (e := l.significand.exponent + l.exponent.getD 0) (by omega)
  exact ⟨x, by rw [numeral?_eq_scale hfloat, hx, Option.map_some]⟩

/-- **A number with a value is read back** as that value. -/
theorem reads_readFloat {l : Lexeme} (h : l.Proper) {n : Numeral} (hn : l.numeral? = some n) :
    Reads readFloat l.written n.toNumber := by
  intro rest hrest
  simp [readFloat, readHead_written h hn hrest]

end HashReplay.Json
