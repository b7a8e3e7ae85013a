import HashReplay.Proofs.Binary64.Rounding
import HashReplay.Binary64.Layout

/-!
# Bounds for shortest decimals

The decimals that are tried for a magnitude have the decimal exponent of the magnitude, so none of them
has the digit zero alone, and none is more than twice the magnitude.  Dropping zeros at the end changes
neither.

## Main results

* `zpow_log10_le` — the decimal exponent of a magnitude is one that the magnitude reaches.
* `candidate_spec` — what is found for a number of digits.
* `trim_spec` — what trimming keeps.
* `shortest_bounds` — the shortest decimal is zero, or has digits and is at most twice the magnitude.
* `zpow_point_le` — where the point stands in the digits of a decimal, by its value.
-/

namespace HashReplay.Binary64

open Text (decimal)

variable {x : Rat}

/-! ### Decimal exponents -/

/-- A number has at least as many digits as its size asks for, and no more. -/
theorem pow_length_decimal {n : Nat} (hn : n ≠ 0) :
    10 ^ ((decimal n).length - 1) ≤ n ∧ n < 10 ^ (decimal n).length := by
  have hpos : 0 < (decimal n).length := Nat.length_toDigits_pos
  constructor
  · by_cases hone : (decimal n).length - 1 = 0
    · rw [hone, pow_zero]
      omega
    · have hshort := Nat.length_toDigits_le_iff (b := 10) (n := n) (by decide) (Nat.pos_of_ne_zero hone)
      rw [decimal] at *
      exact not_lt.mp fun hlt => by have := hshort.mpr hlt; omega
  · exact (Nat.length_toDigits_le_iff (by decide) hpos).mp (Nat.le_refl _)

theorem mul_den_eq_toNat_num (hx : 0 ≤ x) : x * x.den = x.num.toNat := by
  have hcast : (x.num.toNat : Rat) = (x.num : Rat) := by
    exact_mod_cast Int.toNat_of_nonneg (Rat.num_nonneg.mpr hx)
  rw [hcast, Rat.mul_den_eq_num]

/-- The inverse of a magnitude, rounded up to a whole number: its own inverse is no more than the
magnitude. -/
theorem inv_ceilDiv_le (hx : 0 < x) :
    0 < (x.den + x.num.toNat - 1) / x.num.toNat ∧
      (((x.den + x.num.toNat - 1) / x.num.toNat : Nat) : Rat)⁻¹ ≤ x := by
  have hnum : 0 < x.num.toNat := by
    have := Rat.num_pos.mpr hx
    omega
  set c := (x.den + x.num.toNat - 1) / x.num.toNat with hc
  have hreach : x.den ≤ c * x.num.toNat := by
    have hmod := Nat.div_add_mod (x.den + x.num.toNat - 1) x.num.toNat
    have hrest := Nat.mod_lt (x.den + x.num.toNat - 1) hnum
    rw [← hc, Nat.mul_comm] at hmod
    omega
  have hcpos : 0 < c := Nat.pos_of_mul_pos_right (Nat.lt_of_lt_of_le x.den_pos hreach)
  have hpos : (0 : Rat) < c := by exact_mod_cast hcpos
  have hvalue := mul_den_eq_toNat_num hx.le
  have hden : (0 : Rat) < x.den := by exact_mod_cast x.den_pos
  have hreachRat : 1 * (x.den : Rat) ≤ x * c * x.den := by
    calc 1 * (x.den : Rat) ≤ c * x.num.toNat := by
          rw [one_mul]
          exact_mod_cast hreach
      _ = x * c * x.den := by rw [← hvalue]; ring
  refine ⟨hcpos, ?_⟩
  rw [inv_le_iff_one_le_mul₀ hpos]
  exact le_of_mul_le_mul_right hreachRat hden

/-- **The decimal exponent** of a magnitude is one that the magnitude reaches. -/
theorem zpow_log10_le (hx : 0 < x) : (10 : Rat) ^ log10 x ≤ x := by
  dsimp only [log10]
  split
  · rename_i hone
    have hfloor : (1 : Int) ≤ x.floor := Rat.le_floor_iff.mpr (by exact_mod_cast hone)
    have hne : x.floor.toNat ≠ 0 := by omega
    have hlow := (pow_length_decimal hne).1
    have hpos : 0 < (Nat.toDigits 10 x.floor.toNat).length := Nat.length_toDigits_pos
    have hexp : ((Nat.toDigits 10 x.floor.toNat).length : Int) - 1 =
        (((Nat.toDigits 10 x.floor.toNat).length - 1 : Nat) : Int) := by omega
    rw [hexp, zpow_natCast]
    calc (10 : Rat) ^ ((Nat.toDigits 10 x.floor.toNat).length - 1)
        ≤ (x.floor.toNat : Rat) := by exact_mod_cast hlow
      _ = (x.floor : Rat) := by exact_mod_cast Int.toNat_of_nonneg (by omega)
      _ ≤ x := Rat.floor_le x
  · obtain ⟨hcpos, hinv⟩ := inv_ceilDiv_le hx
    set c := (x.den + x.num.toNat - 1) / x.num.toNat
    have hpos : 0 < (Nat.toDigits 10 c).length := Nat.length_toDigits_pos
    split
    · rename_i hpower
      have hexp : -(((Nat.toDigits 10 c).length : Int) - 1) =
          -(((Nat.toDigits 10 c).length - 1 : Nat) : Int) := by omega
      have hcast : (c : Rat) = 10 ^ ((Nat.toDigits 10 c).length - 1) := by exact_mod_cast hpower
      rw [hexp, zpow_neg, zpow_natCast, ← hcast]
      exact hinv
    · have hhigh : (c : Rat) ≤ 10 ^ (Nat.toDigits 10 c).length := by
        exact_mod_cast (pow_length_decimal hcpos.ne').2.le
      have hcast : (0 : Rat) < c := by exact_mod_cast hcpos
      rw [zpow_neg, zpow_natCast]
      calc ((10 : Rat) ^ (Nat.toDigits 10 c).length)⁻¹ ≤ (c : Rat)⁻¹ := by gcongr
        _ ≤ x := hinv

/-! ### Candidates -/

/-- A decimal that is found is one of the two that enclose the magnitude, and stands for it. -/
theorem candidate_spec {tie : Tie} {k : Int} {n : Nat} {d : Decimal}
    (h : candidate tie x k n = some d) :
    (d = ⟨(x / (10 : Rat) ^ (k - n + 1)).floor.toNat, k - n + 1⟩ ∨
        d = ⟨(x / (10 : Rat) ^ (k - n + 1)).floor.toNat + 1, k - n + 1⟩) ∧
      standsFor x d.value = true := by
  simp only [candidate] at h
  split at h
  · cases h
  · rename_i hlow _
    obtain rfl := Option.some.inj h
    exact ⟨Or.inl rfl, hlow⟩
  · rename_i _ hhigh
    obtain rfl := Option.some.inj h
    exact ⟨Or.inr rfl, hhigh⟩
  · rename_i hlow hhigh
    split at h
    · obtain rfl := Option.some.inj h
      exact ⟨Or.inl rfl, hlow⟩
    split at h
    · obtain rfl := Option.some.inj h
      exact ⟨Or.inr rfl, hhigh⟩
    split at h
    · obtain rfl := Option.some.inj h
      exact ⟨Or.inl rfl, hlow⟩
    · obtain rfl := Option.some.inj h
      exact ⟨Or.inr rfl, hhigh⟩

/-- A decimal that is tried has digits, and is at most twice the magnitude. -/
theorem candidate_bounds {tie : Tie} {n : Nat} {d : Decimal} (hx : 0 < x)
    (h : candidate tie x (log10 x) (n + 1) = some d) : d.digits ≠ 0 ∧ d.value ≤ 2 * x := by
  have hexp : log10 x - ((n + 1 : Nat) : Int) + 1 = log10 x - n := by push_cast; ring
  have hsides := (candidate_spec h).1
  rw [hexp] at hsides
  have hgrid : (0 : Rat) < (10 : Rat) ^ (log10 x - n) := by positivity
  have hsmall : (10 : Rat) ^ (log10 x - n) ≤ x := by
    calc (10 : Rat) ^ (log10 x - n) ≤ 10 ^ log10 x := zpow_le_zpow_right₀ (by norm_num) (by omega)
      _ ≤ x := zpow_log10_le hx
  set grid := (10 : Rat) ^ (log10 x - n)
  have hone : (1 : Rat) ≤ x / grid := (one_le_div hgrid).mpr hsmall
  have hfloor : (1 : Int) ≤ (x / grid).floor := Rat.le_floor_iff.mpr (by exact_mod_cast hone)
  have hcast : ((x / grid).floor.toNat : Rat) = ((x / grid).floor : Rat) := by
    exact_mod_cast Int.toNat_of_nonneg (by omega)
  have hlow : ((x / grid).floor.toNat : Rat) * grid ≤ x := by
    calc ((x / grid).floor.toNat : Rat) * grid ≤ x / grid * grid := by
          rw [hcast]
          gcongr
          exact Rat.floor_le _
      _ = x := div_mul_cancel₀ x hgrid.ne'
  rcases hsides with rfl | rfl
  · refine ⟨by dsimp only; omega, ?_⟩
    calc Decimal.value ⟨(x / grid).floor.toNat, log10 x - n⟩
        = ((x / grid).floor.toNat : Rat) * grid := rfl
      _ ≤ 2 * x := by linarith
  · refine ⟨Nat.succ_ne_zero _, ?_⟩
    calc Decimal.value ⟨(x / grid).floor.toNat + 1, log10 x - n⟩
        = ((x / grid).floor.toNat : Rat) * grid + grid := by
          rw [Decimal.value]
          push_cast
          ring
      _ ≤ 2 * x := by linarith

/-! ### Trailing zeros -/

/-- Dropping zeros at the end does not change the value, nor whether there are digits. -/
theorem trim_spec (d : Decimal) :
    d.trim.value = d.value ∧ (d.digits ≠ 0 → d.trim.digits ≠ 0) := by
  fun_induction Decimal.trim d with
  | case1 d h ih =>
    obtain ⟨hvalue, hdigits⟩ := ih
    refine ⟨?_, fun _ => hdigits (by dsimp only; omega)⟩
    rw [hvalue, Decimal.value, Decimal.value]
    have hsplit : d.digits = d.digits / 10 * 10 := by omega
    conv_rhs => rw [hsplit]
    rw [zpow_add_one₀ (by norm_num)]
    push_cast
    ring
  | case2 d h => exact ⟨rfl, id⟩

/-! ### Shortest decimals -/

/-- **The shortest decimal** of a magnitude is zero, or has digits and is at most twice the
magnitude. -/
theorem shortest_bounds (tie : Tie) (hx : 0 ≤ x) :
    shortest tie x = ⟨0, 0⟩ ∨ (shortest tie x).digits ≠ 0 ∧ (shortest tie x).value ≤ 2 * x := by
  have hzero : Decimal.trim ⟨0, 0⟩ = ⟨0, 0⟩ := by
    rw [Decimal.trim]
    simp
  unfold shortest
  split
  · exact Or.inl rfl
  · rename_i hne
    have hpos : 0 < x := lt_of_le_of_ne hx (Ne.symm hne)
    dsimp only
    cases hfind : (List.range 17).findSome? fun n => candidate tie x (log10 x) (n + 1) with
    | none => exact Or.inl hzero
    | some d =>
      obtain ⟨n, -, hn⟩ := List.exists_of_findSome?_eq_some hfind
      obtain ⟨hdigits, hvalue⟩ := candidate_bounds hpos hn
      obtain ⟨hkeep, hkeepDigits⟩ := trim_spec d
      right
      rw [Option.getD_some, hkeep]
      exact ⟨hkeepDigits hdigits, hvalue⟩

/-- Where the point stands: the digit before it counts no more than the decimal. -/
theorem zpow_point_le {d : Decimal} (h : d.digits ≠ 0) :
    (10 : Rat) ^ ((decimal d.digits).length + d.exponent - 1) ≤ d.value := by
  have hlow := (pow_length_decimal h).1
  have hpos : 0 < (decimal d.digits).length := Nat.length_toDigits_pos
  have hexp : ((decimal d.digits).length : Int) + d.exponent - 1 =
      (((decimal d.digits).length - 1 : Nat) : Int) + d.exponent := by omega
  rw [hexp, zpow_add₀ (by norm_num), zpow_natCast, Decimal.value]
  gcongr
  exact_mod_cast hlow

/-- The point of a decimal below a power of ten stands no further right than there. -/
theorem point_le {d : Decimal} (h : d.digits ≠ 0) {n : Nat} (hvalue : d.value < (10 : Rat) ^ n) :
    ((decimal d.digits).length : Int) + d.exponent ≤ n := by
  have hlt : (10 : Rat) ^ ((decimal d.digits).length + d.exponent - 1) < (10 : Rat) ^ (n : Int) := by
    rw [zpow_natCast]
    exact lt_of_le_of_lt (zpow_point_le h) hvalue
  have hexp := (zpow_lt_zpow_iff_right₀ (by norm_num : (1 : Rat) < 10)).mp hlt
  omega

end HashReplay.Binary64
