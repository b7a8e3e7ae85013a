import HashReplay.Text.Numeral
import Mathlib.Algebra.Order.Ring.Nat

/-!
# The grammar of numerals

A numeral is read digit by digit against a bound, and reading stops at the first fault.  What comes out
does not depend on that order: exactly the texts that consist of an optional plus sign and at least one
digit are read, if the number that they write is within the bound.  Zeros in front do not count.

## Main definitions

* `valueOf` — the number that digits write.
* `IsNumeral` — a text that writes a number.

## Main results

* `readNat_eq_ok_iff` — which texts are read, and as what.
* `valueOf_eq_iff_of_lt_ten` — a number below ten is written as zeros and its digit.
* `isNumeral_decimal` — a number is written by its own digits.
-/

namespace HashReplay.Text

/-! ### Digits -/

theorem isDigit_decimal {n : Nat} : ∀ c ∈ decimal n, c.isDigit = true :=
  fun _ hc => Nat.isDigit_of_mem_toDigits (by decide) (by decide) hc

theorem decimal_ne_nil (n : Nat) : decimal n ≠ [] := Nat.toDigits_ne_nil

/-- The number that digits write. -/
def valueOf (ds : List Char) : Nat := Nat.ofDigitChars 10 ds 0

theorem valueOf_decimal (n : Nat) : valueOf (decimal n) = n :=
  Nat.ofDigitChars_toDigits (by decide) (by decide)

/-- Digits only make a number greater. -/
theorem le_ofDigitChars (ds : List Char) (n : Nat) : n ≤ Nat.ofDigitChars 10 ds n := by
  rw [Nat.ofDigitChars_eq_ofDigitChars_zero]
  have hpow : 0 < 10 ^ ds.length := Nat.pow_pos (by decide)
  calc n ≤ 10 ^ ds.length * n := Nat.le_mul_of_pos_left n hpow
    _ ≤ _ := Nat.le_add_right _ _

/-- The first digit counts as often as the place that it stands at. -/
theorem valueOf_cons (c : Char) (ds : List Char) :
    valueOf (c :: ds) = 10 ^ ds.length * (c.toNat - '0'.toNat) + valueOf ds := by
  rw [valueOf, Nat.ofDigitChars_cons, Nat.ofDigitChars_eq_ofDigitChars_zero, Nat.mul_zero, Nat.zero_add]
  rfl

/-- A digit is the digit of its value. -/
theorem digitChar_of_isDigit {c : Char} (h : c.isDigit = true) :
    Nat.digitChar (c.toNat - '0'.toNat) = c ∧ c.toNat - '0'.toNat < 10 := by
  have hall : ∀ k < 10, Nat.digitChar k = Char.ofNat (k + '0'.toNat) := by decide
  have hrange : '0'.toNat ≤ c.toNat ∧ c.toNat ≤ '9'.toNat := by
    simpa [Char.isDigit, UInt32.le_iff_toNat_le] using h
  have hlow : '0'.toNat = 48 := rfl
  have hhigh : '9'.toNat = 57 := rfl
  have hlt : c.toNat - '0'.toNat < 10 := by omega
  refine ⟨?_, hlt⟩
  rw [hall _ hlt, Nat.sub_add_cancel hrange.1, Char.ofNat_toNat]

/-- Zeros write nothing. -/
theorem valueOf_zeros_append (k : Nat) (ds : List Char) :
    valueOf (List.replicate k '0' ++ ds) = valueOf ds := by
  induction k with
  | zero => rfl
  | succ k ih =>
    rw [List.replicate_succ, List.cons_append, valueOf_cons, ih]
    simp

/-- **A number below ten** is written as any number of zeros and its digit. -/
theorem valueOf_eq_iff_of_lt_ten {ds : List Char} {d : Nat} (hd : d < 10) :
    (ds ≠ [] ∧ (∀ c ∈ ds, c.isDigit = true) ∧ valueOf ds = d) ↔
      ∃ zeros, ds = List.replicate zeros '0' ++ [Nat.digitChar d] := by
  have hdigit : ∀ d < 10, (Nat.digitChar d).isDigit = true ∧ valueOf [Nat.digitChar d] = d := by decide
  constructor
  · rintro ⟨hne, hds, hvalue⟩
    -- a digit in front that is no zero would make the number greater than nine
    induction ds with
    | nil => exact absurd rfl hne
    | cons c ds ih =>
      obtain ⟨hc, hrest⟩ := List.forall_mem_cons.mp hds
      obtain ⟨hchar, hsmall⟩ := digitChar_of_isDigit hc
      rw [valueOf_cons] at hvalue
      by_cases hnil : ds = []
      · subst hnil
        have hcd : c.toNat - '0'.toNat = d := by simpa [valueOf] using hvalue
        exact ⟨0, by rw [← hchar, hcd]; rfl⟩
      · have hplace : 10 ≤ 10 ^ ds.length :=
          Nat.le_self_pow (by simpa using hnil) 10
        have hzero : c.toNat - '0'.toNat = 0 := by
          by_contra hpos
          have hmul : 10 * 1 ≤ 10 ^ ds.length * (c.toNat - '0'.toNat) :=
            Nat.mul_le_mul hplace (by omega)
          omega
        rw [hzero, Nat.mul_zero, Nat.zero_add] at hvalue
        obtain ⟨zeros, hzeros⟩ := ih hnil hrest hvalue
        refine ⟨zeros + 1, ?_⟩
        rw [hzeros, ← hchar, hzero]
        rfl
  · rintro ⟨zeros, rfl⟩
    obtain ⟨hisDigit, hvalue⟩ := hdigit d hd
    refine ⟨by simp, ?_, by rw [valueOf_zeros_append, hvalue]⟩
    intro c hc
    rcases List.mem_append.mp hc with hzero | hlast
    · rw [List.eq_of_mem_replicate hzero]
      rfl
    · rw [List.mem_singleton.mp hlast, hisDigit]

/-! ### Numerals -/

/-- A text that writes a number: at least one digit, and a plus sign in front or none. -/
inductive IsNumeral : List Char → Nat → Prop
  | plain {ds : List Char} (hne : ds ≠ []) (hds : ∀ c ∈ ds, c.isDigit = true) :
    IsNumeral ds (valueOf ds)
  | signed {ds : List Char} (hne : ds ≠ []) (hds : ∀ c ∈ ds, c.isDigit = true) :
    IsNumeral ('+' :: ds) (valueOf ds)

/-- **A number is written by its own digits.** -/
theorem isNumeral_decimal (n : Nat) : IsNumeral (decimal n) n := by
  have hnumeral := IsNumeral.plain (decimal_ne_nil n) isDigit_decimal
  rwa [valueOf_decimal] at hnumeral

theorem isNumeral_plus_iff {ds : List Char} {n : Nat} : IsNumeral ('+' :: ds) n ↔
    ds ≠ [] ∧ (∀ c ∈ ds, c.isDigit = true) ∧ valueOf ds = n := by
  constructor
  · intro h
    cases h with
    | plain _ hds => exact absurd (hds '+' (List.mem_cons_self ..)) (by decide)
    | signed hne hds => exact ⟨hne, hds, rfl⟩
  · rintro ⟨hne, hds, rfl⟩
    exact .signed hne hds

theorem isNumeral_iff_of_head?_ne {t : List Char} (ht : t.head? ≠ some '+') {n : Nat} :
    IsNumeral t n ↔ t ≠ [] ∧ (∀ c ∈ t, c.isDigit = true) ∧ valueOf t = n := by
  constructor
  · intro h
    cases h with
    | plain hne hds => exact ⟨hne, hds, rfl⟩
    | signed _ _ => exact absurd rfl ht
  · rintro ⟨hne, hds, rfl⟩
    exact .plain hne hds

/-- A text writes one number at most. -/
theorem IsNumeral.unique {t : List Char} {m n : Nat} (hm : IsNumeral t m) (hn : IsNumeral t n) :
    m = n := by
  cases hm with
  | plain hne hds =>
    cases hn with
    | plain => rfl
    | signed => exact absurd (hds '+' (List.mem_cons_self ..)) (by decide)
  | signed hne hds =>
    obtain ⟨-, -, hvalue⟩ := isNumeral_plus_iff.mp hn
    exact hvalue

/-- A numeral starts with a plus sign or a digit. -/
theorem IsNumeral.head? {t : List Char} {n : Nat} (h : IsNumeral t n) :
    ∃ c ∈ t.head?, c = '+' ∨ c.isDigit = true := by
  cases h with
  | plain hne hds =>
    obtain ⟨c, ds, rfl⟩ := List.exists_cons_of_ne_nil hne
    exact ⟨c, rfl, Or.inr (hds c (List.mem_cons_self ..))⟩
  | signed _ _ => exact ⟨'+', rfl, Or.inl rfl⟩

/-! ### Reading -/

/-- Digits are read onto a value that is within the bound if the number that comes out is. -/
theorem readDigits_eq_ok_iff {bound : Nat} {excess : NumeralError} {acc n : Nat} {s : List Char}
    (hacc : acc ≤ bound) : readDigits bound excess acc s = .ok n ↔
      (∀ c ∈ s, c.isDigit = true) ∧ Nat.ofDigitChars 10 s acc = n ∧ n ≤ bound := by
  induction s generalizing acc with
  | nil =>
    simp only [readDigits, Except.ok.injEq, List.not_mem_nil, false_implies, implies_true,
      Nat.ofDigitChars_nil, true_and]
    constructor
    · rintro rfl
      exact ⟨rfl, hacc⟩
    · exact fun h => h.1
  | cons c s ih =>
    rw [readDigits, List.forall_mem_cons, Nat.ofDigitChars_cons, Nat.mul_comm 10 acc]
    by_cases hc : c.isDigit = true
    · have hvalue : digitValue? c = some (c.toNat - '0'.toNat) := if_pos hc
      rw [hvalue]
      by_cases hle : acc * 10 + (c.toNat - '0'.toNat) ≤ bound
      · simp only [if_pos hle, ih hle, hc, true_and]
      · -- the digits that follow do not bring the value back below the bound
        have hgreater := le_ofDigitChars s (acc * 10 + (c.toNat - '0'.toNat))
        simp only [if_neg hle, reduceCtorEq, false_iff]
        rintro ⟨-, rfl, hn⟩
        omega
    · have hvalue : digitValue? c = none := if_neg hc
      simp [hvalue, hc]

/-- **Which texts are read**: the numerals of numbers within the bound. -/
theorem readNat_eq_ok_iff {bound n : Nat} {t : List Char} :
    readNat bound t = .ok n ↔ IsNumeral t n ∧ n ≤ bound := by
  unfold readNat
  split
  · have hempty : ¬IsNumeral [] n := by
      intro h
      obtain ⟨c, hc, -⟩ := h.head?
      cases hc
    simp [hempty]
  · simp [isNumeral_plus_iff]
  · next s hne =>
    rw [readDigits_eq_ok_iff (Nat.zero_le bound), isNumeral_plus_iff, valueOf]
    have hs : s ≠ [] := fun hnil => hne (by rw [hnil])
    tauto
  · next hnil _ hplus =>
    have hhead : t.head? ≠ some '+' := by
      intro hhead
      obtain ⟨s, rfl⟩ := List.head?_eq_some_iff.mp hhead
      exact hplus s rfl
    rw [readDigits_eq_ok_iff (Nat.zero_le bound), isNumeral_iff_of_head?_ne hhead, valueOf]
    tauto

end HashReplay.Text
