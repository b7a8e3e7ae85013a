import HashReplay.Proofs.Binary64.Rounding
import Mathlib.Algebra.Order.Ring.Pow
import Mathlib.Tactic.NormNum

/-!
# How near a computed magnitude is

Each rounding moves a magnitude by a small part of itself, unless it is near the lower limit.  So what is
computed from exact magnitudes by multiplying, dividing, and adding is known but for some of these parts,
and it is enough to count the roundings.

## Main definitions

* `roundoff` — the part of a magnitude that one rounding can take or give.
* `Near` — two magnitudes that some roundings may tell apart.
* `Sizable` — magnitudes that are not near the lower limit.

## Main results

* `Near.add`, `Near.mul`, `Near.div` — the roundings of the operands.
* `Near.round` — one rounding more.
* `Near.roundHalfUp_eq` — a few roundings do not hide a whole number that is not too large.
-/

namespace HashReplay.Binary64

/-! ### Counting roundings -/

/-- The part of a magnitude that one rounding can take or give. -/
def roundoff : Rat := 1 / 2 ^ 53

/-- The magnitudes `x` and `y` can be told apart by `n` roundings at most. -/
structure Near (n : Nat) (x y : Rat) : Prop where
  lower : (1 - roundoff) ^ n * x ≤ y
  upper : (1 - roundoff) ^ n * y ≤ x

theorem roundoff_pos : 0 < roundoff := by norm_num [roundoff]

theorem roundoff_lt_one : roundoff < 1 := by norm_num [roundoff]

theorem pow_roundoff_pos (n : Nat) : 0 < (1 - roundoff) ^ n :=
  pow_pos (sub_pos.mpr roundoff_lt_one) n

theorem pow_roundoff_le_one (n : Nat) : (1 - roundoff) ^ n ≤ 1 :=
  pow_le_one₀ (sub_nonneg.mpr roundoff_lt_one.le) (sub_le_self 1 roundoff_pos.le)

/-- Many roundings take no more than that many parts. -/
theorem one_sub_le_pow_roundoff (n : Nat) : 1 - n * roundoff ≤ (1 - roundoff) ^ n := by
  have hbernoulli := one_add_mul_le_pow (a := -roundoff) (by linarith [roundoff_lt_one]) n
  rw [mul_neg, ← sub_eq_add_neg, ← sub_eq_add_neg] at hbernoulli
  exact hbernoulli

namespace Near

variable {m n : Nat} {x x' y y' z c : Rat}

theorem symm (h : Near n x y) : Near n y x := ⟨h.upper, h.lower⟩

/-- A magnitude is near to itself. -/
theorem refl (n : Nat) (hx : 0 ≤ x) : Near n x x :=
  ⟨mul_le_of_le_one_left hx (pow_roundoff_le_one n), mul_le_of_le_one_left hx (pow_roundoff_le_one n)⟩

theorem trans (h : Near m x y) (h' : Near n y z) : Near (m + n) x z where
  lower := by
    calc (1 - roundoff) ^ (m + n) * x = (1 - roundoff) ^ n * ((1 - roundoff) ^ m * x) := by ring
      _ ≤ (1 - roundoff) ^ n * y := mul_le_mul_of_nonneg_left h.lower (pow_roundoff_pos n).le
      _ ≤ z := h'.lower
  upper := by
    calc (1 - roundoff) ^ (m + n) * z = (1 - roundoff) ^ m * ((1 - roundoff) ^ n * z) := by ring
      _ ≤ (1 - roundoff) ^ m * y := mul_le_mul_of_nonneg_left h'.upper (pow_roundoff_pos m).le
      _ ≤ x := h.upper

theorem nonneg (h : Near n x y) (hx : 0 ≤ x) : 0 ≤ y :=
  le_trans (mul_nonneg (pow_roundoff_pos n).le hx) h.lower

theorem pos (h : Near n x y) (hx : 0 < x) : 0 < y :=
  lt_of_lt_of_le (mul_pos (pow_roundoff_pos n) hx) h.lower

/-- Only zero is near to zero. -/
theorem eq_zero (h : Near n 0 y) : y = 0 := by
  have hnonneg := h.nonneg (le_refl 0)
  by_contra hne
  have hpos : 0 < y := lt_of_le_of_ne hnonneg (Ne.symm hne)
  exact absurd h.upper (not_le.mpr (mul_pos (pow_roundoff_pos n) hpos))

/-! ### Operations on near magnitudes -/

/-- Sums need no more roundings than their terms. -/
theorem add (h : Near n x y) (h' : Near n x' y') : Near n (x + x') (y + y') where
  lower := by rw [mul_add]; exact add_le_add h.lower h'.lower
  upper := by rw [mul_add]; exact add_le_add h.upper h'.upper

/-- Products need the roundings of both factors. -/
theorem mul (h : Near m x y) (h' : Near n x' y') (hx : 0 ≤ x) (hx' : 0 ≤ x') :
    Near (m + n) (x * x') (y * y') where
  lower := by
    calc (1 - roundoff) ^ (m + n) * (x * x')
        = (1 - roundoff) ^ m * x * ((1 - roundoff) ^ n * x') := by ring
      _ ≤ y * y' := mul_le_mul h.lower h'.lower (mul_nonneg (pow_roundoff_pos n).le hx') (h.nonneg hx)
  upper := by
    calc (1 - roundoff) ^ (m + n) * (y * y')
        = (1 - roundoff) ^ m * y * ((1 - roundoff) ^ n * y') := by ring
      _ ≤ x * x' :=
        mul_le_mul h.upper h'.upper (mul_nonneg (pow_roundoff_pos n).le (h'.nonneg hx')) hx

/-- Multiplying by an exact magnitude needs no rounding. -/
theorem mul_right (h : Near n x y) (hc : 0 ≤ c) : Near n (x * c) (y * c) where
  lower := by rw [← mul_assoc]; exact mul_le_mul_of_nonneg_right h.lower hc
  upper := by rw [← mul_assoc]; exact mul_le_mul_of_nonneg_right h.upper hc

theorem inv (h : Near n x y) (hx : 0 < x) : Near n x⁻¹ y⁻¹ := by
  have hy := h.pos hx
  constructor
  · rw [← div_eq_mul_inv, div_le_iff₀ hx, ← div_eq_inv_mul, le_div_iff₀ hy]
    exact h.upper
  · rw [← div_eq_mul_inv, div_le_iff₀ hy, ← div_eq_inv_mul, le_div_iff₀ hx]
    exact h.lower

/-- Quotients need the roundings of dividend and divisor. -/
theorem div (h : Near m x y) (h' : Near n x' y') (hx : 0 ≤ x) (hx' : 0 < x') :
    Near (m + n) (x / x') (y / y') := by
  rw [div_eq_mul_inv, div_eq_mul_inv]
  exact h.mul (h'.inv hx') hx (inv_nonneg.mpr hx'.le)

/-- A few roundings take no more than half of a magnitude. -/
theorem half_le (h : Near n x y) (hn : n ≤ 100) (hx : 0 ≤ x) : x / 2 ≤ y := by
  have hparts : (n : Rat) * roundoff ≤ 1 / 2 := by
    have hcast : (n : Rat) ≤ 100 := by exact_mod_cast hn
    calc (n : Rat) * roundoff ≤ 100 * roundoff := mul_le_mul_of_nonneg_right hcast roundoff_pos.le
      _ ≤ 1 / 2 := by norm_num [roundoff]
  calc x / 2 = 1 / 2 * x := by ring
    _ ≤ (1 - roundoff) ^ n * x :=
      mul_le_mul_of_nonneg_right (by linarith [one_sub_le_pow_roundoff n]) hx
    _ ≤ y := h.lower

end Near

/-! ### One rounding -/

/-- The magnitude is zero, or far from the lower limit. -/
def Sizable (x : Rat) : Prop := x = 0 ∨ (10 : Rat) ^ (-50 : Int) ≤ x

theorem Sizable.nonneg {x : Rat} (h : Sizable x) : 0 ≤ x := by
  rcases h with rfl | h
  · exact le_refl 0
  · exact le_trans (by positivity) h

/-- Half a unit is a small part of a magnitude that has all its digits. -/
theorem half_unit_le {x : Rat} (h : (2 : Rat) ^ (-1022 : Int) ≤ x) :
    (2 : Rat) ^ unitExponent x / 2 ≤ roundoff * x := by
  have hpos : 0 < x := lt_of_lt_of_le (by positivity) h
  have hexp : -1022 < log2 x + 1 :=
    (zpow_lt_zpow_iff_right₀ (by norm_num : (1 : Rat) < 2)).mp (lt_of_le_of_lt h (lt_zpow_log2 hpos))
  have hunit : unitExponent x = log2 x - 52 := by
    rw [unitExponent, if_neg hpos.ne', minExponent]
    omega
  have hhalf : (2 : Rat) ^ (log2 x - 52) / 2 = roundoff * (2 : Rat) ^ log2 x := by
    rw [zpow_sub₀ two_ne_zero, roundoff]
    norm_num
    ring
  rw [hunit, hhalf]
  exact mul_le_mul_of_nonneg_left (zpow_log2_le hpos) roundoff_pos.le

/-- What is moved by no more than its part is told apart by one rounding. -/
theorem near_of_abs_sub_le {x y : Rat} (hx : 0 ≤ x) (h : |y - x| ≤ roundoff * x) : Near 1 x y := by
  obtain ⟨hlow, hhigh⟩ := abs_le.mp h
  constructor
  · rw [pow_one]
    linarith
  · have hsecond : 0 ≤ roundoff * (roundoff * x) :=
      mul_nonneg roundoff_pos.le (mul_nonneg roundoff_pos.le hx)
    have hscaled : (1 - roundoff) * y ≤ (1 - roundoff) * (x + roundoff * x) :=
      mul_le_mul_of_nonneg_left (by linarith) (sub_nonneg.mpr roundoff_lt_one.le)
    rw [pow_one]
    linarith

@[simp] theorem round_zero : round 0 = 0 := by
  have hunits : units 0 = 0 := by
    rw [units, zero_div]
    decide +kernel
  rw [round, hunits, Nat.cast_zero, zero_mul]

namespace Near

variable {n : Nat} {x y z : Rat}

/-- What is near to a sizable magnitude may be moved once more, by half a unit. -/
theorem step (h : Near n x y) (hn : n ≤ 100) (hx : Sizable x) (hzero : y = 0 → z = 0)
    (hmove : |z - y| ≤ (2 : Rat) ^ unitExponent y / 2) : Near (n + 1) x z := by
  rcases hx with rfl | hx
  · obtain rfl := h.eq_zero
    rw [hzero rfl]
    exact refl (n + 1) (le_refl 0)
  · have hlarge : (2 : Rat) ^ (-1022 : Int) ≤ y := by
      calc (2 : Rat) ^ (-1022 : Int) ≤ 2 ^ (-200 : Int) := zpow_le_zpow_right₀ (by norm_num) (by decide)
        _ ≤ (10 : Rat) ^ (-50 : Int) / 2 := by norm_num
        _ ≤ x / 2 := div_le_div_of_nonneg_right hx (by norm_num)
        _ ≤ y := h.half_le hn (le_trans (by positivity) hx)
    have hy : 0 ≤ y := le_trans (by positivity) hlarge
    exact h.trans (near_of_abs_sub_le hy (le_trans hmove (half_unit_le hlarge)))

/-- **A rounding is one rounding more.** -/
protected theorem round (h : Near n x y) (hn : n ≤ 100) (hx : Sizable x) : Near (n + 1) x (round y) :=
  h.step hn hx (fun hy => by rw [hy, round_zero]) (abs_round_sub_le (h.nonneg hx.nonneg))

end Near

/-- A whole number is sizable. -/
theorem sizable_natCast (n : Nat) : Sizable n := by
  rcases Nat.eq_zero_or_pos n with rfl | hpos
  · exact Or.inl Nat.cast_zero
  · right
    calc (10 : Rat) ^ (-50 : Int) ≤ 1 := by norm_num
      _ ≤ n := by exact_mod_cast hpos

/-! ### Whole numbers -/

/-- **Eight roundings do not hide a whole number** below `2 ^ 49`: the nearest whole number is still the
same. -/
theorem Near.roundHalfUp_eq {n : Nat} {y : Rat} (h : Near 8 n y) (hn : n < 2 ^ 49) :
    roundHalfUp y = n := by
  have hcast : (n : Rat) + 1 ≤ 2 ^ 49 := by exact_mod_cast hn
  have hfactor : 1 - 8 * roundoff ≤ (1 - roundoff) ^ 8 := one_sub_le_pow_roundoff 8
  -- this is where the bound on the number is needed: eight of its parts are less than one half
  have hsmall : 8 * roundoff * (n + 1 / 2) < 1 / 2 := by
    calc 8 * roundoff * (n + 1 / 2) ≤ 8 * roundoff * (2 ^ 49 - 1 / 2) :=
          mul_le_mul_of_nonneg_left (by linarith) (by linarith [roundoff_pos])
      _ < 1 / 2 := by norm_num [roundoff]
  have hzero : (0 : Rat) ≤ n := Nat.cast_nonneg n
  have hlow : (n : Rat) < y + 1 / 2 := by
    have hscaled : (1 - 8 * roundoff) * n ≤ y :=
      le_trans (mul_le_mul_of_nonneg_right hfactor hzero) h.lower
    linarith [mul_nonneg roundoff_pos.le hzero, roundoff_pos]
  have hhigh : y + 1 / 2 < n + 1 := by
    by_contra hlarge
    have hy : (n : Rat) + 1 / 2 ≤ y := by linarith
    have hscaled : (1 - 8 * roundoff) * (n + 1 / 2) ≤ n := by
      calc (1 - 8 * roundoff) * (n + 1 / 2) ≤ (1 - roundoff) ^ 8 * y :=
            mul_le_mul hfactor hy (by linarith) (pow_roundoff_pos 8).le
        _ ≤ n := h.upper
    linarith
  have hfloor : (y + 1 / 2).floor = n := by
    show ⌊y + 1 / 2⌋ = (n : Int)
    rw [Int.floor_eq_iff]
    exact ⟨by exact_mod_cast hlow.le, by exact_mod_cast hhigh⟩
  rw [roundHalfUp, hfloor, Int.toNat_natCast]

/-- They do not bring a whole number from `2 ^ 49` on below it. -/
theorem Near.le_roundHalfUp {n : Nat} {y : Rat} (h : Near 8 n y) (hn : 2 ^ 49 ≤ n) :
    2 ^ 49 ≤ roundHalfUp y := by
  have hcast : (2 : Rat) ^ 49 ≤ n := by exact_mod_cast hn
  have hlow : (2 : Rat) ^ 49 ≤ y + 1 / 2 := by
    calc (2 : Rat) ^ 49 = (1 - 8 * roundoff) * 2 ^ 49 + 1 / 2 := by norm_num [roundoff]
      _ ≤ (1 - roundoff) ^ 8 * n + 1 / 2 :=
        add_le_add_left (mul_le_mul (one_sub_le_pow_roundoff 8) hcast (by positivity)
          (pow_roundoff_pos 8).le) _
      _ ≤ y + 1 / 2 := add_le_add_left h.lower _
  have hfloor : ((2 ^ 49 : Nat) : Int) ≤ (y + 1 / 2).floor := by
    rw [Rat.le_floor_iff]
    exact_mod_cast hlow
  rw [roundHalfUp]
  omega

end HashReplay.Binary64
