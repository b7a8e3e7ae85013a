import HashReplay.Proofs.Binary64.SeventeenDigits
import HashReplay.Proofs.Json.Layout

/-!
# How near a written magnitude is read back

The parts of a number write a decimal: all its digits together, and the power of ten by which they
count.  If the digits fit a word, reading rounds them, rounds the power, and rounds their product or
quotient.  The layout of records writes the value of the shortest decimal, with digits that fit.

So four roundings lie between a magnitude and what is read back for it: those three, and the one that
stands for taking the shortest decimal.

## Main definitions

* `Lexeme.toDecimal` — the decimal that the parts of a number write.

## Main results

* `scale_near`, `Lexeme.numeral?_near` — a number is read with three roundings.
* `magnitudeLexeme_value`, `magnitudeLexeme_digits_le` — what the layout of records writes.
* `exists_numeral?_near` — a magnitude is read back with four roundings.
-/

namespace HashReplay.Json

open Text (decimal valueOf valueOf_decimal valueOf_zeros_append le_ofDigitChars)
open Binary64 (Decimal Near Sizable shortest sizable_natCast)

/-! ### The decimal of a number -/

/-- The decimal that the parts of a number write, without the sign. -/
def Lexeme.toDecimal (l : Lexeme) : Decimal :=
  ⟨valueOf (l.whole ++ l.fraction), l.exponent.getD 0 - l.fraction.length⟩

/-- Digits that fit a word are all taken. -/
theorem Lexeme.significand_of_le {l : Lexeme} (h : l.toDecimal.digits ≤ maxWord) :
    l.significand = ⟨l.toDecimal.digits, -(l.fraction.length : Int), false⟩ := by
  have hall : l.toDecimal.digits = Nat.ofDigitChars 10 l.fraction (valueOf l.whole) :=
    Nat.ofDigitChars_append 0
  rw [hall] at h
  have hwhole : valueOf l.whole ≤ maxWord := le_trans (le_ofDigitChars l.fraction _) h
  rw [Lexeme.significand, foldl_push_of_le 0 1 l.whole 0 0 hwhole]
  dsimp only
  rw [show Nat.ofDigitChars 10 l.whole 0 = valueOf l.whole from rfl, foldl_push_of_le (-1) 0 _ _ _ h,
    hall]
  simp

/-! ### Scaling -/

theorem scale_zero (e : Int) {y : Rat} (h : scale 0 e = some y) : y = 0 := by
  rw [scale] at h
  split at h
  · split at h
    · rw [Binary64.round?, zero_mul, Binary64.round_zero] at h
      exact (Option.ite_some_none_eq_some.mp h).2.symm
    · simpa using h.symm
  split at h
  · rw [zero_div, Binary64.round_zero] at h
    exact (Option.some.inj h).symm
  · simpa using h.symm

/-- A power of ten is rounded once. -/
theorem tenPower_near {e : Int} (he : 0 ≤ e) : Near 1 ((10 : Rat) ^ e) (tenPower e) := by
  have hsizable : Sizable ((10 : Rat) ^ e) := Or.inr (zpow_le_zpow_right₀ (by norm_num) (by omega))
  exact (Near.refl 0 hsizable.nonneg).round (by decide) hsizable

/-- A decimal that is near to a sizable magnitude needs no great number of decimal places. -/
theorem neg_maxTen_le {n k : Nat} {e : Int} {x : Rat} (h : Near k x (n * (10 : Rat) ^ e)) (hk : k ≤ 90)
    (hx : (10 : Rat) ^ (-50 : Int) ≤ x) (hn : n ≤ maxWord) : -maxTen ≤ e := by
  have hword : (n : Rat) ≤ 10 ^ (20 : Int) := by
    calc (n : Rat) ≤ maxWord := by exact_mod_cast hn
      _ ≤ 10 ^ (20 : Int) := by norm_num [maxWord]
  have hvalue : (10 : Rat) ^ (-71 : Int) < (10 : Rat) ^ e := by
    have hhalf : (10 : Rat) ^ (-50 : Int) / 2 ≤ 10 ^ (20 : Int) * (10 : Rat) ^ e := by
      calc (10 : Rat) ^ (-50 : Int) / 2 ≤ x / 2 := div_le_div_of_nonneg_right hx (by norm_num)
        _ ≤ n * (10 : Rat) ^ e := h.half_le (by omega) (le_trans (by positivity) hx)
        _ ≤ 10 ^ (20 : Int) * (10 : Rat) ^ e := mul_le_mul_of_nonneg_right hword (by positivity)
    have hconst : (10 : Rat) ^ (20 : Int) * (10 : Rat) ^ (-71 : Int) < (10 : Rat) ^ (-50 : Int) / 2 := by
      norm_num
    exact lt_of_mul_lt_mul_left (lt_of_lt_of_le hconst hhalf) (by positivity)
  have hexp := (zpow_lt_zpow_iff_right₀ (by norm_num : (1 : Rat) < 10)).mp hvalue
  rw [maxTen]
  omega

/-- **Scaling needs three roundings**: of the digits, of the power of ten, and of the result. -/
theorem scale_near {n k : Nat} {e : Int} {x y : Rat} (h : Near k x (n * (10 : Rat) ^ e)) (hk : k ≤ 90)
    (hx : Sizable x) (hn : n ≤ maxWord) (hy : scale (Binary64.round n) e = some y) :
    Near (k + 3) x y := by
  have hdigits : Near 1 (n : Rat) (Binary64.round n) :=
    (Near.refl 0 (Nat.cast_nonneg n)).round (by decide) (sizable_natCast n)
  by_cases hzero : Binary64.round n = 0
  · -- without digits the result is zero, even where the power is out of range
    rw [hzero] at hdigits hy
    rw [hdigits.symm.eq_zero, zero_mul] at h
    rw [h.symm.eq_zero, scale_zero e hy]
    exact Near.refl _ (le_refl 0)
  have hlarge : (10 : Rat) ^ (-50 : Int) ≤ x := by
    rcases hx with rfl | hx
    · have hvalue := h.eq_zero
      rw [mul_eq_zero] at hvalue
      have hnone : (n : Rat) = 0 := hvalue.resolve_right (by positivity)
      rw [hnone] at hzero
      exact absurd Binary64.round_zero hzero
    · exact hx
  rw [scale] at hy
  rcases lt_or_ge e 0 with hneg | hnonneg
  · rw [if_neg (not_le.mpr hneg), if_pos (neg_maxTen_le h hk hlarge hn)] at hy
    obtain rfl := Option.some.inj hy
    have hquotient : Near 2 (n * (10 : Rat) ^ e) (Binary64.round n / tenPower (-e)) := by
      have hinverse : (n : Rat) * 10 ^ e = n / 10 ^ (-e) := by rw [zpow_neg, div_inv_eq_mul]
      rw [hinverse]
      exact hdigits.div (tenPower_near (by omega)) (Nat.cast_nonneg n) (by positivity)
    exact (h.trans hquotient).round (by omega) hx
  · rw [if_pos hnonneg] at hy
    have hmax : e ≤ maxTen := by
      by_contra hgreat
      rw [if_neg hgreat, if_neg hzero] at hy
      cases hy
    rw [if_pos hmax, Binary64.round?] at hy
    obtain rfl := (Option.ite_some_none_eq_some.mp hy).2
    have hproduct : Near 2 (n * (10 : Rat) ^ e) (Binary64.round n * tenPower e) :=
      hdigits.mul (tenPower_near hnonneg) (Nat.cast_nonneg n) (by positivity)
    exact (h.trans hproduct).round (by omega) hx

/-- **A number is read with three roundings** if its digits fit a word. -/
theorem Lexeme.numeral?_near {l : Lexeme} {k : Nat} {x y : Rat}
    (hfloat : l.fraction ≠ [] ∨ l.exponent ≠ none) (hdigits : l.toDecimal.digits ≤ maxWord)
    (h : Near k x l.toDecimal.value) (hk : k ≤ 90) (hx : Sizable x)
    (hy : l.numeral? = some (.float ⟨l.negative, y⟩)) : Near (k + 3) x y := by
  rw [numeral?_eq_scale hfloat, Option.map_eq_some_iff] at hy
  obtain ⟨y', hscale, hsame⟩ := hy
  obtain rfl : y' = y := by
    cases hsame
    rfl
  rw [significand_of_le hdigits] at hscale
  dsimp only at hscale
  rw [neg_add_eq_sub] at hscale
  exact scale_near h hk hx hdigits hscale

/-! ### The layout of records -/

/-- The layout with an exponent writes the decimal as it is. -/
theorem scientificLexeme_toDecimal (d : Decimal) : (scientificLexeme d).toDecimal = d := by
  obtain ⟨digits, exponent⟩ := d
  have hlength : 0 < (decimal digits).length := Nat.length_toDigits_pos
  dsimp only [scientificLexeme, Lexeme.toDecimal]
  rw [List.take_append_drop, valueOf_decimal, Option.getD_some, List.length_drop]
  congr 1
  omega

/-- So does the positional layout of a decimal with a fraction. -/
theorem positionalLexeme_toDecimal {d : Decimal} (h : d.exponent < 0) :
    (positionalLexeme d).toDecimal = d := by
  obtain ⟨digits, exponent⟩ := d
  have hlength : 0 < (decimal digits).length := Nat.length_toDigits_pos
  dsimp only at h
  dsimp only [positionalLexeme]
  rw [if_neg (not_le.mpr h)]
  split
  · rw [Lexeme.toDecimal]
    dsimp only
    rw [List.take_append_drop, valueOf_decimal, Option.getD_none, List.length_drop]
    congr 1
    omega
  · rw [Lexeme.toDecimal]
    dsimp only
    rw [show ['0'] = List.replicate 1 '0' from rfl, valueOf_zeros_append, valueOf_zeros_append,
      valueOf_decimal, Option.getD_none, List.length_append, List.length_replicate]
    congr 1
    omega

/-- A decimal without a fraction is written with its zeros and one decimal place. -/
theorem positionalLexeme_toDecimal_whole {d : Decimal} (h : 0 ≤ d.exponent) :
    (positionalLexeme d).toDecimal = ⟨d.digits * 10 ^ d.exponent.toNat * 10, -1⟩ := by
  have hzeros : decimal d.digits ++ List.replicate d.exponent.toNat '0' ++ ['0'] =
      decimal d.digits ++ List.replicate (d.exponent.toNat + 1) '0' := by
    rw [List.replicate_succ', List.append_assoc]
  dsimp only [positionalLexeme]
  rw [if_pos h, Lexeme.toDecimal]
  dsimp only
  rw [hzeros, valueOf, Nat.ofDigitChars_append, Nat.ofDigitChars_replicate_zero]
  rw [show Nat.ofDigitChars 10 (decimal d.digits) 0 = d.digits from valueOf_decimal _]
  congr 1
  ring

/-- The zeros do not change the value. -/
theorem positionalLexeme_value (d : Decimal) : (positionalLexeme d).toDecimal.value = d.value := by
  rcases lt_or_ge d.exponent 0 with hneg | hnonneg
  · rw [positionalLexeme_toDecimal hneg]
  · have hexp : (10 : Rat) ^ d.exponent = 10 ^ d.exponent.toNat := by
      rw [← zpow_natCast, Int.toNat_of_nonneg hnonneg]
    rw [positionalLexeme_toDecimal_whole hnonneg, Decimal.value, Decimal.value, hexp]
    push_cast
    rw [zpow_neg_one, mul_inv_cancel_right₀ (by norm_num)]

/-- With at most sixteen digits before the point, there are at most seventeen in all. -/
theorem positionalLexeme_digits_le {d : Decimal} (hdigits : d.digits ≤ 10 ^ 17)
    (hpoint : ((decimal d.digits).length : Int) + d.exponent ≤ 16) :
    (positionalLexeme d).toDecimal.digits ≤ 10 ^ 17 := by
  rcases lt_or_ge d.exponent 0 with hneg | hnonneg
  · rw [positionalLexeme_toDecimal hneg]
    exact hdigits
  · have hlength : d.digits ≤ 10 ^ (decimal d.digits).length := by
      by_cases hzero : d.digits = 0
      · rw [hzero]
        exact Nat.zero_le _
      · exact (Binary64.pow_length_decimal hzero).2.le
    rw [positionalLexeme_toDecimal_whole hnonneg]
    calc d.digits * 10 ^ d.exponent.toNat * 10
        ≤ 10 ^ (decimal d.digits).length * 10 ^ d.exponent.toNat * 10 :=
          Nat.mul_le_mul_right _ (Nat.mul_le_mul_right _ hlength)
      _ = 10 ^ ((decimal d.digits).length + d.exponent.toNat + 1) := by rw [pow_succ, pow_add]
      _ ≤ 10 ^ 17 := Nat.pow_le_pow_right (by decide) (by omega)

/-- **The layout of records keeps the value** of the shortest decimal. -/
theorem magnitudeLexeme_value (x : Rat) :
    (magnitudeLexeme x).toDecimal.value = (shortest .toEven x).value := by
  dsimp only [magnitudeLexeme]
  split
  · exact positionalLexeme_value _
  · rw [scientificLexeme_toDecimal]

/-- The digits of the layout fit a word. -/
theorem magnitudeLexeme_digits_le {x : Rat} (hx : 0 ≤ x) :
    (magnitudeLexeme x).toDecimal.digits ≤ maxWord := by
  have hdigits := Binary64.shortest_digits_le .toEven hx
  refine le_trans ?_ (by decide : 10 ^ 17 ≤ maxWord)
  dsimp only [magnitudeLexeme]
  split
  · rename_i hlayout
    apply positionalLexeme_digits_le hdigits
    rcases hlayout with rfl | hlayout
    · rw [shortest, if_pos rfl]
      decide
    · exact hlayout.2
  · rw [scientificLexeme_toDecimal]
    exact hdigits

/-- **A magnitude is read back with four roundings**, if it is not too large. -/
theorem exists_numeral?_near {k : Nat} {x y : Rat} (h : Near k x y) (hk : k ≤ 80) (hx : Sizable x)
    (hsize : 2 * y < (10 : Rat) ^ 24) :
    ∃ z, (magnitudeLexeme y).numeral? = some (.float ⟨false, z⟩) ∧ Near (k + 4) x z := by
  have hy := h.nonneg hx.nonneg
  obtain ⟨z, hz⟩ := magnitudeLexeme_numeral? hy hsize
  have hdecimal : Near (k + 1) x (magnitudeLexeme y).toDecimal.value := by
    rw [magnitudeLexeme_value]
    exact h.shortest (by omega) hx .toEven
  refine ⟨z, hz, ?_⟩
  exact Lexeme.numeral?_near (magnitudeLexeme_float y) (magnitudeLexeme_digits_le hy) hdecimal
    (by omega) hx ((magnitudeLexeme_proper hy).unsigned.symm ▸ hz)

end HashReplay.Json
