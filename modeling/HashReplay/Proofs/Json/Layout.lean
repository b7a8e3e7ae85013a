import HashReplay.Proofs.Binary64.Shortest
import HashReplay.Proofs.Json.Number

/-!
# Written magnitudes are JSON

The layout of records writes the shortest decimal of a magnitude as the parts of a JSON number, always
with a point or an exponent.  So a magnitude that is not too large is read back as floating point.

## Main definitions

* `positionalLexeme`, `scientificLexeme` — the parts of a decimal in the two layouts.
* `magnitudeLexeme` — the parts of a magnitude in the layout of records.

## Main results

* `magnitudeText_eq_written`, `magnitudeLexeme_proper` — the layout writes these parts.
* `magnitudeLexeme_numeral?` — they have a value.
-/

namespace HashReplay.Json

open Text (decimal isDigit_decimal decimal_ne_nil)
open Binary64 (Decimal shortest positional scientific magnitudeText)

/-! ### The two layouts -/

/-- The parts of a decimal without an exponent. -/
def positionalLexeme (d : Decimal) : Lexeme :=
  let ds := decimal d.digits
  let point : Int := ds.length + d.exponent
  if 0 ≤ d.exponent then ⟨false, ds ++ List.replicate d.exponent.toNat '0', ['0'], none⟩
  else if 0 < point then ⟨false, ds.take point.toNat, ds.drop point.toNat, none⟩
  else ⟨false, ['0'], List.replicate (-point).toNat '0' ++ ds, none⟩

/-- The parts of a decimal with an exponent. -/
def scientificLexeme (d : Decimal) : Lexeme :=
  let ds := decimal d.digits
  ⟨false, ds.take 1, ds.drop 1, some (ds.length + d.exponent - 1)⟩

theorem positional_eq_written (d : Decimal) :
    positional ['.', '0'] d = (positionalLexeme d).written := by
  dsimp only [positional, positionalLexeme]
  split
  · simp [Lexeme.written, fractionPart, exponentPart]
  split
  · rename_i hneg hpoint
    have hdrop : (decimal d.digits).drop ((decimal d.digits).length + d.exponent).toNat ≠ [] := by
      rw [ne_eq, List.drop_eq_nil_iff]
      omega
    simp [Lexeme.written, fractionPart, exponentPart, hdrop]
  · have hne : List.replicate (-((decimal d.digits).length + d.exponent : Int)).toNat '0' ++
        decimal d.digits ≠ [] := List.append_ne_nil_of_right_ne_nil _ (decimal_ne_nil _)
    rw [Lexeme.written, fractionPart, if_neg hne]
    simp [exponentPart]

theorem scientific_eq_written (d : Decimal) : scientific d = (scientificLexeme d).written := by
  obtain ⟨c, cs, hdigits⟩ := List.exists_cons_of_ne_nil (decimal_ne_nil d.digits)
  dsimp only [scientific, scientificLexeme]
  rw [hdigits]
  cases cs with
  | nil => simp [Lexeme.written, fractionPart, exponentPart]
  | cons c' cs => simp [Lexeme.written, fractionPart, exponentPart]

/-- A decimal with digits, or zero itself, has a layout without needless zeros. -/
theorem positionalLexeme_proper {d : Decimal} (h : d.digits = 0 → d.exponent = 0) :
    (positionalLexeme d).Proper := by
  have hzeros : ∀ n : Nat, ∀ c ∈ List.replicate n '0', c.isDigit = true := by
    intro n c hc
    rw [List.eq_of_mem_replicate hc]
    decide
  have hzero : ∀ c ∈ ['0'], c.isDigit = true := by
    intro c hc
    rw [List.mem_singleton.mp hc]
    decide
  have hnoZero : ∀ ds : List Char, ds <+: decimal d.digits → d.digits ≠ 0 → ds ≠ [] →
      ds.head? ≠ some '0' := by
    rintro ds ⟨t, ht⟩ hne hds
    have hhead := head?_decimal hne
    rwa [← ht, List.head?_append_of_ne_nil _ hds] at hhead
  dsimp only [positionalLexeme]
  split
  · refine ⟨rfl, ?_, ?_, ?_, ?_⟩
    · exact List.append_ne_nil_of_left_ne_nil (decimal_ne_nil _) _
    · exact List.forall_mem_append.mpr ⟨isDigit_decimal, hzeros _⟩
    · intro hhead
      by_cases hd : d.digits = 0
      · rw [hd, h hd]
        rfl
      · rw [List.head?_append_of_ne_nil _ (decimal_ne_nil _)] at hhead
        exact absurd hhead (head?_decimal hd)
    · exact hzero
  split
  · rename_i hneg hpoint
    have hd : d.digits ≠ 0 := fun hd => hneg (le_of_eq (h hd).symm)
    have htake : (decimal d.digits).take ((decimal d.digits).length + d.exponent).toNat ≠ [] := by
      rw [ne_eq, List.take_eq_nil_iff]
      exact not_or.mpr ⟨by omega, decimal_ne_nil _⟩
    refine ⟨rfl, htake, ?_, ?_, ?_⟩
    · exact fun c hc => isDigit_decimal c (List.mem_of_mem_take hc)
    · exact fun hhead => absurd hhead (hnoZero _ (List.take_prefix _ _) hd htake)
    · exact fun c hc => isDigit_decimal c (List.mem_of_mem_drop hc)
  · refine ⟨rfl, List.cons_ne_nil _ _, hzero, fun _ => rfl, ?_⟩
    exact List.forall_mem_append.mpr ⟨hzeros _, isDigit_decimal⟩

theorem scientificLexeme_proper (d : Decimal) : (scientificLexeme d).Proper := by
  obtain ⟨c, cs, hdigits⟩ := List.exists_cons_of_ne_nil (decimal_ne_nil d.digits)
  have hall : ∀ b ∈ c :: cs, b.isDigit = true := hdigits ▸ isDigit_decimal
  dsimp only [scientificLexeme]
  rw [hdigits]
  refine ⟨rfl, List.cons_ne_nil c [], ?_, ?_, ?_⟩
  · exact fun b hb => hall b (List.mem_of_mem_take hb)
  · intro hzero
    obtain rfl : c = '0' := Option.some.inj hzero
    rfl
  · exact fun b hb => hall b (List.mem_of_mem_drop hb)

/-! ### Magnitudes -/

/-- The parts of a magnitude in the layout of records. -/
def magnitudeLexeme (x : Rat) : Lexeme :=
  let d := shortest .toEven x
  let point : Int := (decimal d.digits).length + d.exponent
  if x = 0 ∨ (-5 < point ∧ point ≤ 16) then positionalLexeme d else scientificLexeme d

theorem magnitudeText_eq_written (x : Rat) : magnitudeText x = (magnitudeLexeme x).written := by
  dsimp only [magnitudeText, magnitudeLexeme]
  split
  · exact positional_eq_written _
  · exact scientific_eq_written _

/-- **The layout of records writes a number as JSON wants it.** -/
theorem magnitudeLexeme_proper {x : Rat} (hx : 0 ≤ x) : (magnitudeLexeme x).Proper := by
  dsimp only [magnitudeLexeme]
  split
  · apply positionalLexeme_proper
    intro hzero
    rcases Binary64.shortest_bounds .toEven hx with h | ⟨hdigits, -⟩
    · rw [h]
    · exact absurd hzero hdigits
  · exact scientificLexeme_proper _

theorem flat_magnitudeText {x : Rat} (hx : 0 ≤ x) : Flat (magnitudeText x) := by
  rw [magnitudeText_eq_written]
  exact (magnitudeLexeme_proper hx).flat

/-- The layout of records always shows that a magnitude is floating point. -/
theorem magnitudeLexeme_float (x : Rat) :
    (magnitudeLexeme x).fraction ≠ [] ∨ (magnitudeLexeme x).exponent ≠ none := by
  dsimp only [magnitudeLexeme]
  split
  · left
    dsimp only [positionalLexeme]
    split
    · exact List.cons_ne_nil _ _
    split
    · rw [ne_eq, List.drop_eq_nil_iff]
      omega
    · exact List.append_ne_nil_of_right_ne_nil _ (decimal_ne_nil _)
  · exact Or.inr (Option.some_ne_none _)

/-- **A magnitude that is not too large has a value when it is read back.** -/
theorem magnitudeLexeme_numeral? {x : Rat} (hx : 0 ≤ x) (hsize : 2 * x < (10 : Rat) ^ 24) :
    ∃ y, (magnitudeLexeme x).numeral? = some (.float ⟨false, y⟩) := by
  have hpoint : ((decimal (shortest .toEven x).digits).length : Int) + (shortest .toEven x).exponent ≤
      24 := by
    rcases Binary64.shortest_bounds .toEven hx with h | ⟨hdigits, hvalue⟩
    · rw [h]
      decide
    · exact Binary64.point_le hdigits (lt_of_le_of_lt hvalue hsize)
  have hone : 0 < (decimal (shortest .toEven x).digits).length := Nat.length_toDigits_pos
  have hlength : ((magnitudeLexeme x).whole.length : Int) + (magnitudeLexeme x).exponent.getD 0 ≤
      moderateExponent := by
    have hmoderate : moderateExponent = 40 := rfl
    dsimp only [magnitudeLexeme, positionalLexeme, scientificLexeme]
    split
    · split
      · simp
        omega
      split
      · simp
        omega
      · simp
        omega
    · simp
      omega
  have hproper := magnitudeLexeme_proper hx
  obtain ⟨y, hy⟩ := Lexeme.numeral?_of_exponent_le (magnitudeLexeme_float x) hlength
  exact ⟨y, hproper.unsigned ▸ hy⟩

end HashReplay.Json
