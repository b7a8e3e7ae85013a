import HashReplay.Proofs.Capture.MemberOrder
import HashReplay.Proofs.Json.Accuracy

/-!
# Elapsed times that come back to the nanosecond

An elapsed time is written in milliseconds, computed in binary floating point, and read back the same
way.  Eight roundings lie between the nanoseconds and what is read for them: three to compute the
milliseconds, one to write them as a shortest decimal, three to read the decimal, and one to come back
to nanoseconds.  Together they move a number below `2 ^ 49` by less than one half, so the last step,
which takes the nearest whole number, undoes them all.  A number that is not smaller stays so.

## Main results

* `millis_near` — the milliseconds are three roundings away from the nanoseconds.
* `exists_reads_elapsed` — so far away is what is read back.
* `nanosOfMillis_eq`, `le_nanosOfMillis` — small numbers of nanoseconds are found again, others stay
  large.
* `Record.elapsed_survives` — records with such elapsed times are read back.
-/

namespace HashReplay.Capture

open HashReplay.Json
open Binary64 (Near Sizable)

/-! ### Milliseconds -/

/-- A part of a whole number is sizable. -/
theorem sizable_natCast_div (n : Nat) {c : Rat} (hc : 0 < c) (hsmall : c ≤ 1000000000) :
    Sizable (n / c) := by
  rcases Nat.eq_zero_or_pos n with rfl | hpos
  · left
    rw [Nat.cast_zero, zero_div]
  · right
    have hone : (1 : Rat) ≤ n := by exact_mod_cast hpos
    rw [le_div_iff₀ hc]
    calc (10 : Rat) ^ (-50 : Int) * c ≤ 10 ^ (-50 : Int) * 1000000000 :=
          mul_le_mul_of_nonneg_left hsmall (by positivity)
      _ ≤ 1 := by norm_num
      _ ≤ n := hone

/-- **The milliseconds** of a duration are computed with three roundings: of its parts, of their sum, and
of the product. -/
theorem millis_near (d : Duration) : Near 3 ((d.toNanos : Rat) / 1000000) (millis d) := by
  have hwhole : Near 1 (d.secs.toNat : Rat) (Binary64.round d.secs.toNat) :=
    (Near.refl 0 (Nat.cast_nonneg _)).round (by decide) (Binary64.sizable_natCast _)
  have hfraction : Sizable ((d.nanos.val : Rat) / 1000000000) :=
    sizable_natCast_div _ (by norm_num) (le_refl _)
  have hpart : Near 1 ((d.nanos.val : Rat) / 1000000000)
      (Binary64.round ((d.nanos.val : Rat) / 1000000000)) :=
    (Near.refl 0 hfraction.nonneg).round (by decide) hfraction
  have hseconds : (d.secs.toNat : Rat) + (d.nanos.val : Rat) / 1000000000 =
      (d.toNanos : Rat) / 1000000000 := by
    rw [Duration.toNanos]
    push_cast
    ring
  have hsum := hwhole.add hpart
  rw [hseconds] at hsum
  have hrounded := hsum.round (by decide) (sizable_natCast_div _ (by norm_num) (le_refl _))
  have hproduct := hrounded.mul_right (by norm_num : (0 : Rat) ≤ 1000)
  rw [show (d.toNanos : Rat) / 1000000000 * 1000 = (d.toNanos : Rat) / 1000000 by ring] at hproduct
  exact hproduct.round (by decide) (sizable_natCast_div _ (by norm_num) (by norm_num))

/-- **What is read back** for an elapsed time comes from milliseconds that are seven roundings away. -/
theorem exists_reads_elapsed (d : Duration) :
    ∃ z, Near 7 ((d.toNanos : Rat) / 1000000) z ∧
      Reads readElapsed (Binary64.magnitudeText (millis d)) (Duration.ofNanos (nanosOfMillis z)) := by
  obtain ⟨hnonneg, hsize⟩ := millis_bounds d
  obtain ⟨z, hz, hnear⟩ := exists_numeral?_near (millis_near d) (by decide)
    (sizable_natCast_div _ (by norm_num) (by norm_num)) hsize
  have hfloat := reads_readFloat (magnitudeLexeme_proper hnonneg) hz
  refine ⟨z, hnear, fun rest hrest => ?_⟩
  rw [magnitudeText_eq_written, readElapsed, hfloat rest hrest]
  simp [Numeral.toNumber]

/-! ### Nanoseconds -/

/-- Coming back to nanoseconds is the eighth rounding. -/
theorem nanos_near {n : Nat} {z : Rat} (h : Near 7 ((n : Rat) / 1000000) z) :
    Near 8 (n : Rat) (Binary64.round (z * 1000000)) := by
  have hproduct := h.mul_right (by norm_num : (0 : Rat) ≤ 1000000)
  rw [div_mul_cancel₀ _ (by norm_num)] at hproduct
  exact hproduct.round (by decide) (Binary64.sizable_natCast n)

/-- **A number of nanoseconds below `2 ^ 49` is found again.** -/
theorem nanosOfMillis_eq {n : Nat} {z : Rat} (h : Near 7 ((n : Rat) / 1000000) z)
    (hn : n < 2 ^ 49) : nanosOfMillis z = n := by
  have hnear := nanos_near h
  have hlimit : Binary64.round (z * 1000000) < Binary64.limit := by
    have hhalf := hnear.symm.half_le (by decide) (hnear.nonneg (Nat.cast_nonneg n))
    have hcast : (n : Rat) < 2 ^ 49 := by exact_mod_cast hn
    calc Binary64.round (z * 1000000) < 2 ^ (50 : Int) := by norm_num; linarith
      _ < Binary64.limit := zpow_lt_zpow_right₀ (by norm_num) (by decide)
  rw [nanosOfMillis, Binary64.round?, if_pos hlimit]
  show min maxWord (Binary64.roundHalfUp (Binary64.round (z * 1000000))) = n
  rw [hnear.roundHalfUp_eq hn]
  exact Nat.min_eq_right (le_trans hn.le (by decide))

/-- A number of nanoseconds from `2 ^ 49` on is not found to be smaller. -/
theorem le_nanosOfMillis {n : Nat} {z : Rat} (h : Near 7 ((n : Rat) / 1000000) z)
    (hn : 2 ^ 49 ≤ n) : 2 ^ 49 ≤ nanosOfMillis z := by
  have hrounded := (nanos_near h).le_roundHalfUp hn
  have hword : 2 ^ 49 ≤ maxWord := by decide
  rw [nanosOfMillis, Binary64.round?]
  by_cases hlimit : Binary64.round (z * 1000000) < Binary64.limit
  · rw [if_pos hlimit]
    exact le_min hword hrounded
  · rw [if_neg hlimit]
    exact hword

/-- What is found is a word in any case. -/
theorem nanosOfMillis_le (z : Rat) : nanosOfMillis z ≤ maxWord := by
  unfold nanosOfMillis
  split
  · exact le_refl _
  · exact min_le_left _ _

/-- **A short elapsed time is read back** as it was. -/
theorem reads_readElapsed_exact {d : Duration} (hd : d.toNanos < 2 ^ 49) :
    Reads readElapsed (Binary64.magnitudeText (millis d)) d := by
  obtain ⟨z, hnear, hreads⟩ := exists_reads_elapsed d
  rw [nanosOfMillis_eq hnear hd, Duration.ofNanos_toNanos] at hreads
  exact hreads

/-- Nanoseconds from `2 ^ 49` on are more than `2 ^ 19` seconds. -/
theorem le_secs_ofNanos {n : Nat} (hn : 2 ^ 49 ≤ n) (hword : n ≤ maxWord) :
    2 ^ 19 ≤ (Duration.ofNanos n).secs.toNat := by
  have hmax : maxWord = 18446744073709551615 := rfl
  have hsecs : (Duration.ofNanos n).secs.toNat = n / 1000000000 := by
    rw [Duration.ofNanos, UInt64.toNat_ofNat_of_lt']
    show n / 1000000000 < 18446744073709551616
    omega
  omega

/-! ### Records -/

namespace Record

/-- **Elapsed times below `2 ^ 19` seconds survive the log to the nanosecond.**  The text that is written
for `d` is read as `d`.  So a record with this elapsed time is read back from its written form as it was;
and whenever the record that is read back has this elapsed time, its written form is the text that was
read. -/
theorem elapsed_survives (d : Duration) (hd : d.secs.toNat < 2 ^ 19) :
    complete readElapsed (Binary64.magnitudeText (millis d)) = .ok d ∧
      ∀ (r : Record) (s : List Char), r.seq ≤ maxWord → r.timestamp.secs ≤ maxSeconds →
        r.json? = some s →
        (r.elapsed = d → ofJson s = .ok r) ∧
          ∀ r', ofJson s = .ok r' → r'.elapsed = d → r'.json? = some s := by
  have hnanos : d.toNanos < 2 ^ 49 := by
    have hpart := d.nanos.isLt
    rw [Duration.toNanos]
    omega
  have hexact := reads_readElapsed_exact hnanos
  constructor
  · have hwhole := hexact [] trivial
    rw [List.append_nil] at hwhole
    rw [complete, hwhole]
    rfl
  · intro r s hseq hlast hs
    constructor
    · rintro rfl
      exact ofJson_written hseq hlast hs hexact
    · intro r' hr' hsame
      obtain ⟨z, hnear, hreads⟩ := exists_reads_elapsed r.elapsed
      have hread := ofJson_written hseq hlast hs hreads
      rw [hr'] at hread
      obtain rfl := Except.ok.inj hread
      -- a longer elapsed time would have been read as one of at least `2 ^ 19` seconds
      have hshort : r.elapsed.toNanos < 2 ^ 49 := by
        by_contra hlong
        have hsecs := le_secs_ofNanos (le_nanosOfMillis hnear (not_lt.mp hlong)) (nanosOfMillis_le z)
        rw [show Duration.ofNanos (nanosOfMillis z) = d from hsame] at hsecs
        omega
      rw [nanosOfMillis_eq hnear hshort, Duration.ofNanos_toNanos]
      exact hs

/-- The longest of these times, less than a nanosecond below `2 ^ 19` seconds. -/
theorem elapsed_survives_sample :
    let d : Duration := ⟨524287, 999999999⟩
    let r : Record := ⟨7, .ofNat 1700000000 5, d, ["tool"], .passed "ab"⟩
    d.secs.toNat < 2 ^ 19 ∧ complete readElapsed (Binary64.magnitudeText (millis d)) = .ok d ∧
      (r.seq ≤ maxWord ∧ r.timestamp.secs ≤ maxSeconds ∧ r.elapsed = d) ∧
      ∃ s, r.json? = some s ∧ ofJson s = .ok r ∧ ∀ r', ofJson s = .ok r' → r'.json? = some s := by
  intro d r
  have hjson : r.json? = some _ := json?_eq_some (by decide)
  obtain ⟨htext, hrecord⟩ := elapsed_survives d (by decide)
  obtain ⟨hwritten, hagain⟩ := hrecord r _ (by decide) (by decide) hjson
  have hread := hwritten rfl
  refine ⟨by decide, htext, by decide, _, hjson, hread, fun r' hr' => hagain r' hr' ?_⟩
  rw [hread] at hr'
  obtain rfl := Except.ok.inj hr'
  rfl

end Record

end HashReplay.Capture
