import HashReplay.Proofs.Binary64.Nearness
import HashReplay.Proofs.Binary64.Shortest

/-!
# Seventeen digits are enough

Two decimals with seventeen digits that enclose a magnitude are so near to each other that one of them
stands for it: the magnitude has at least `10 ^ 16` times the step between them, but less than
`2 ^ 53` of its units.  Below a power of two the neighbour is nearer, but there are only `2 ^ 52` units.
So the shortest decimal always stands for its magnitude, and is one rounding away from it.

## Main definitions

* `reachBelow` — how far below a magnitude the decimals that stand for it reach.

## Main results

* `lt_zpow_log10` — the decimal exponent is the greatest that a magnitude reaches.
* `standsFor_or` — one of two decimals that enclose a magnitude stands for it.
* `shortest_standsFor`, `shortest_digits_le` — the shortest decimal.
* `Near.shortest` — the shortest decimal is one rounding away.
-/

namespace HashReplay.Binary64

variable {x y : Rat} {tie : Tie}

/-! ### Decimal exponents -/

/-- The inverse of a magnitude is rounded up by less than one. -/
theorem ceilDiv_sub_one_mul_lt (hx : 0 < x) :
    ((((x.den + x.num.toNat - 1) / x.num.toNat : Nat) : Rat) - 1) * x < 1 := by
  have hnum : 0 < x.num.toNat := by
    have := Rat.num_pos.mpr hx
    omega
  set c := (x.den + x.num.toNat - 1) / x.num.toNat with hc
  have hden := x.den_pos
  have hreach : c * x.num.toNat < x.den + x.num.toNat := by
    have hquotient := Nat.div_mul_le_self (x.den + x.num.toNat - 1) x.num.toNat
    rw [← hc] at hquotient
    omega
  have hreachRat : (c : Rat) * x.num.toNat < x.den + x.num.toNat := by exact_mod_cast hreach
  have hvalue := mul_den_eq_toNat_num hx.le
  have hdenRat : (0 : Rat) < x.den := by exact_mod_cast hden
  have hscaled : ((c : Rat) - 1) * x * x.den < 1 * x.den := by
    calc ((c : Rat) - 1) * x * x.den = (c : Rat) * x.num.toNat - x.num.toNat := by
          rw [← hvalue]
          ring
      _ < 1 * x.den := by linarith
  exact lt_of_mul_lt_mul_right hscaled hdenRat.le

/-- **The decimal exponent** of a magnitude is the greatest one that it reaches. -/
theorem lt_zpow_log10 (hx : 0 < x) : x < (10 : Rat) ^ (log10 x + 1) := by
  dsimp only [log10]
  split
  · rename_i hone
    have hfloor : (1 : Int) ≤ x.floor := Rat.le_floor_iff.mpr (by exact_mod_cast hone)
    have hhigh := (pow_length_decimal (n := x.floor.toNat) (by omega)).2
    rw [sub_add_cancel, zpow_natCast]
    calc x < ((x.floor + 1 : Int) : Rat) := Rat.lt_floor_add_one x
      _ = ((x.floor.toNat + 1 : Nat) : Rat) := by
          rw [← Int.cast_natCast]
          congr 1
          omega
      _ ≤ (10 : Rat) ^ (Nat.toDigits 10 x.floor.toNat).length := by exact_mod_cast hhigh
  · rename_i hone
    have hlt : x < 1 := not_le.mp hone
    have hsub := ceilDiv_sub_one_mul_lt hx
    obtain ⟨hcpos, -⟩ := inv_ceilDiv_le hx
    set c := (x.den + x.num.toNat - 1) / x.num.toNat
    have hlow := (pow_length_decimal hcpos.ne').1
    obtain ⟨n, hn⟩ : ∃ n, (Nat.toDigits 10 c).length = n + 1 :=
      ⟨(Nat.toDigits 10 c).length - 1, (Nat.succ_pred Nat.length_toDigits_pos.ne').symm⟩
    rw [Text.decimal, hn, Nat.add_sub_cancel] at hlow
    have hpow : (0 : Rat) < 10 ^ n := by positivity
    rw [hn]
    -- the exponent is greater by one if the inverse is rounded up to a power of ten
    split
    · rename_i hpower
      have hcast : (c : Rat) = 10 ^ n := by exact_mod_cast hpower
      have hexp : -(((n + 1 : Nat) : Int) - 1) + 1 = 1 - (n : Int) := by push_cast; ring
      rw [hcast] at hsub
      rw [hexp, zpow_sub₀ (by norm_num), zpow_natCast, zpow_one, lt_div_iff₀ hpow]
      linarith
    · rename_i hpower
      have hmore : (10 : Rat) ^ n ≤ c - 1 := by
        have : 10 ^ n + 1 ≤ c := Nat.lt_of_le_of_ne hlow (Ne.symm hpower)
        have hcast : (10 : Rat) ^ n + 1 ≤ c := by exact_mod_cast this
        linarith
      have hexp : -((n + 1 : Nat) : Int) + 1 = -(n : Int) := by push_cast; ring
      rw [hexp, zpow_neg, zpow_natCast, ← one_div, lt_div_iff₀ hpow]
      calc x * 10 ^ n = 10 ^ n * x := mul_comm _ _
        _ ≤ ((c : Rat) - 1) * x := mul_le_mul_of_nonneg_right hmore hx.le
        _ < 1 := hsub

/-! ### Decimals that stand for a magnitude -/

/-- How far below a magnitude the decimals that stand for it reach: half a unit, or only a quarter if the
neighbour below has smaller units. -/
def reachBelow (x : Rat) : Rat :=
  if units x = leastNormal ∧ minExponent < unitExponent x then (2 : Rat) ^ unitExponent x / 4
  else (2 : Rat) ^ unitExponent x / 2

theorem reachBelow_le (x : Rat) : reachBelow x ≤ (2 : Rat) ^ unitExponent x / 2 := by
  have hunit := unit_pos x
  unfold reachBelow
  split
  · linarith
  · exact le_refl _

/-- What stands for a magnitude is at most half a unit away from it. -/
theorem abs_sub_le_of_standsFor (h : standsFor x y = true) :
    |y - x| ≤ (2 : Rat) ^ unitExponent x / 2 := by
  have hreach := reachBelow_le x
  have hbounds : x - reachBelow x ≤ y ∧ y ≤ x + (2 : Rat) ^ unitExponent x / 2 := by
    simp only [standsFor] at h
    split at h
    · simpa only [reachBelow, Bool.and_eq_true, decide_eq_true_eq] using h
    · rw [Bool.and_eq_true, decide_eq_true_eq, decide_eq_true_eq] at h
      exact ⟨h.1.le, h.2.le⟩
  rw [abs_le]
  exact ⟨by linarith [hbounds.1], by linarith [hbounds.2]⟩

/-- What lies strictly within reach stands for a magnitude. -/
theorem standsFor_of_lt (hlow : x - reachBelow x < y)
    (hhigh : y < x + (2 : Rat) ^ unitExponent x / 2) : standsFor x y = true := by
  simp only [standsFor]
  rw [reachBelow] at hlow
  split
  · rw [Bool.and_eq_true, decide_eq_true_eq, decide_eq_true_eq]
    exact ⟨hlow.le, hhigh.le⟩
  · rw [Bool.and_eq_true, decide_eq_true_eq, decide_eq_true_eq]
    exact ⟨hlow, hhigh⟩

/-- The reach on both sides of a magnitude is more than its seventeenth digit counts. -/
theorem lt_reach (hx : 0 < x) :
    x < 10 ^ 16 * (reachBelow x + (2 : Rat) ^ unitExponent x / 2) := by
  have hunit := unit_pos x
  unfold reachBelow
  split
  · -- there are only `2 ^ 52` units, so a smaller reach is enough
    rename_i hleast
    have hcount : x / (2 : Rat) ^ unitExponent x ≤ 4503599627370496 + 1 / 2 := by
      have hround := (abs_le.mp (abs_roundEven_sub_le
        (z := x / (2 : Rat) ^ unitExponent x) (by positivity))).1
      have hunits : (roundEven (x / (2 : Rat) ^ unitExponent x) : Rat) = 4503599627370496 := by
        exact_mod_cast hleast.1
      rw [hunits] at hround
      linarith
    rw [div_le_iff₀ hunit] at hcount
    linarith
  · have hexp : log2 x + 1 ≤ 53 + unitExponent x := by
      rw [unitExponent, if_neg hx.ne']
      omega
    have hlt : x < 2 ^ 53 * (2 : Rat) ^ unitExponent x := by
      calc x < (2 : Rat) ^ (log2 x + 1) := lt_zpow_log2 hx
        _ ≤ (2 : Rat) ^ (53 + unitExponent x) := zpow_le_zpow_right₀ (by norm_num) hexp
        _ = 2 ^ 53 * (2 : Rat) ^ unitExponent x := by
            rw [zpow_add₀ two_ne_zero]
            norm_cast
    linarith

/-- **One of two decimals that enclose a magnitude stands for it** if the step between them is its
seventeenth digit. -/
theorem standsFor_or {low high : Rat} (hx : 0 < x) (hlow : low ≤ x) (hhigh : x ≤ high)
    (hstep : 10 ^ 16 * (high - low) ≤ x) : standsFor x low = true ∨ standsFor x high = true := by
  by_contra hneither
  obtain ⟨hnotLow, hnotHigh⟩ := not_or.mp hneither
  have hunit := unit_pos x
  have hreach := lt_reach hx
  have hbelow : low ≤ x - reachBelow x := by
    by_contra hlt
    exact hnotLow (standsFor_of_lt (not_le.mp hlt) (by linarith))
  have hreachPos : 0 < reachBelow x := by
    unfold reachBelow
    split <;> linarith
  have habove : x + (2 : Rat) ^ unitExponent x / 2 ≤ high := by
    by_contra hlt
    exact hnotHigh (standsFor_of_lt (by linarith) (not_le.mp hlt))
  linarith

/-! ### Candidates -/

/-- A decimal that is found has no more digits than asked for, or is the next power of ten. -/
theorem candidate_digits_le {n : Nat} {d : Decimal} (hx : 0 < x)
    (h : candidate tie x (log10 x) n = some d) : d.digits ≤ 10 ^ n := by
  have hgrid : (0 : Rat) < (10 : Rat) ^ (log10 x - n + 1) := by positivity
  have hcount : x / (10 : Rat) ^ (log10 x - n + 1) < 10 ^ n := by
    have hpow : (10 : Rat) ^ n * (10 : Rat) ^ (log10 x - n + 1) = (10 : Rat) ^ (log10 x + 1) := by
      rw [← zpow_natCast, ← zpow_add₀ (by norm_num)]
      congr 1
      ring
    rw [div_lt_iff₀ hgrid, hpow]
    exact lt_zpow_log10 hx
  have hfloor : (x / (10 : Rat) ^ (log10 x - n + 1)).floor.toNat < 10 ^ n := by
    rw [Int.toNat_lt' (by positivity), Rat.floor_lt_iff]
    exact_mod_cast hcount
  rcases (candidate_spec h).1 with rfl | rfl
  · exact hfloor.le
  · exact hfloor

/-- The try succeeds if one of the enclosing decimals stands for the magnitude. -/
theorem exists_candidate_of_standsFor {k : Int} {n : Nat}
    (h : standsFor x (Decimal.value ⟨(x / (10 : Rat) ^ (k - n + 1)).floor.toNat, k - n + 1⟩) = true ∨
      standsFor x (Decimal.value ⟨(x / (10 : Rat) ^ (k - n + 1)).floor.toNat + 1, k - n + 1⟩) = true) :
    ∃ d, candidate tie x k n = some d := by
  simp only [candidate]
  split
  · rename_i hlow hhigh
    rw [hlow, hhigh] at h
    simp at h
  · exact ⟨_, rfl⟩
  · exact ⟨_, rfl⟩
  · split
    · exact ⟨_, rfl⟩
    split
    · exact ⟨_, rfl⟩
    split <;> exact ⟨_, rfl⟩

/-- **Seventeen digits are enough.** -/
theorem exists_candidate (tie : Tie) (hx : 0 < x) : ∃ d, candidate tie x (log10 x) 17 = some d := by
  have hgrid : (0 : Rat) < (10 : Rat) ^ (log10 x - (17 : Nat) + 1) := by positivity
  have hsteps : 10 ^ 16 * (10 : Rat) ^ (log10 x - (17 : Nat) + 1) ≤ x := by
    have hpow : (10 : Rat) ^ 16 * (10 : Rat) ^ (log10 x - (17 : Nat) + 1) = (10 : Rat) ^ log10 x := by
      rw [← zpow_natCast, ← zpow_add₀ (by norm_num)]
      congr 1
      push_cast
      ring
    exact hpow ▸ zpow_log10_le hx
  set grid := (10 : Rat) ^ (log10 x - (17 : Nat) + 1) with hgridDef
  have hcast : ((x / grid).floor.toNat : Rat) = ((x / grid).floor : Rat) := by
    have hnonneg : (0 : Int) ≤ (x / grid).floor :=
      Rat.le_floor_iff.mpr (by exact_mod_cast (div_pos hx hgrid).le)
    exact_mod_cast Int.toNat_of_nonneg hnonneg
  have hlow : ((x / grid).floor.toNat : Rat) * grid ≤ x := by
    rw [← le_div_iff₀ hgrid, hcast]
    exact Rat.floor_le _
  have hhigh : x ≤ (((x / grid).floor.toNat + 1 : Nat) : Rat) * grid := by
    rw [← div_le_iff₀ hgrid, Nat.cast_add_one, hcast]
    exact_mod_cast (Rat.lt_floor_add_one (x / grid)).le
  apply exists_candidate_of_standsFor
  rw [Decimal.value, Decimal.value, ← hgridDef]
  exact standsFor_or hx hlow hhigh (by push_cast; linarith)

/-! ### Shortest decimals -/

theorem trim_digits_le (d : Decimal) : d.trim.digits ≤ d.digits := by
  fun_induction Decimal.trim d with
  | case1 d h ih => exact le_trans ih (Nat.div_le_self _ _)
  | case2 d h => exact le_refl _

/-- The shortest decimal of a magnitude is one that was found, up to zeros at its end. -/
theorem exists_shortest_eq_trim (tie : Tie) (hx : 0 < x) :
    ∃ d n, n ≤ 17 ∧ candidate tie x (log10 x) n = some d ∧ shortest tie x = d.trim := by
  obtain ⟨d, hd⟩ := exists_candidate tie hx
  rw [shortest, if_neg hx.ne']
  dsimp only
  cases hfind : (List.range 17).findSome? fun n => candidate tie x (log10 x) (n + 1) with
  | none =>
    have hnone := List.findSome?_eq_none_iff.mp hfind 16 (by decide)
    rw [hd] at hnone
    cases hnone
  | some d =>
    obtain ⟨n, hn, hcandidate⟩ := List.exists_of_findSome?_eq_some hfind
    exact ⟨d, n + 1, List.mem_range.mp hn, hcandidate, rfl⟩

/-- **The shortest decimal stands for its magnitude.** -/
theorem shortest_standsFor (tie : Tie) (hx : 0 < x) :
    standsFor x (shortest tie x).value = true := by
  obtain ⟨d, n, -, hcandidate, hshortest⟩ := exists_shortest_eq_trim tie hx
  rw [hshortest, (trim_spec d).1]
  exact (candidate_spec hcandidate).2

/-- The shortest decimal has seventeen digits at most, or is the next power of ten. -/
theorem shortest_digits_le (tie : Tie) (hx : 0 ≤ x) : (shortest tie x).digits ≤ 10 ^ 17 := by
  rcases hx.eq_or_lt with rfl | hpos
  · rw [shortest, if_pos rfl]
    exact Nat.zero_le _
  · obtain ⟨d, n, hn, hcandidate, hshortest⟩ := exists_shortest_eq_trim tie hpos
    rw [hshortest]
    calc d.trim.digits ≤ d.digits := trim_digits_le d
      _ ≤ 10 ^ n := candidate_digits_le hpos hcandidate
      _ ≤ 10 ^ 17 := Nat.pow_le_pow_right (by decide) hn

/-- **The shortest decimal is one rounding away.** -/
theorem Near.shortest {n : Nat} (h : Near n x y) (hn : n ≤ 100) (hx : Sizable x) (tie : Tie) :
    Near (n + 1) x (shortest tie y).value := by
  have hzero : (Binary64.shortest tie 0).value = 0 := by
    rw [Binary64.shortest, if_pos rfl, Decimal.value, Nat.cast_zero, zero_mul]
  rcases (h.nonneg hx.nonneg).eq_or_lt with rfl | hpos
  · obtain rfl := h.symm.eq_zero
    rw [hzero]
    exact refl (n + 1) (le_refl 0)
  · exact h.step hn hx (fun hy => absurd hy hpos.ne')
      (abs_sub_le_of_standsFor (shortest_standsFor tie hpos))

end HashReplay.Binary64
