import HashReplay.Text.Blank
import Mathlib.Data.List.Forall2

/-!
# The case of letters

Only the letters of ASCII have an upper case here; every other character stays as it is.  No letter is
blank, so changing the case of letters and trimming do not get in each other's way.

## Main definitions

* `capital`, `small` — the letters of ASCII by their number.
* `SameButCase` — texts that only differ in the case of such letters.

## Main results

* `SameButCase.map_toUpper_eq` — in upper case they are the same text.
* `sameButCase_iff` — the texts that are a given one up to case.
* `trim_map_toUpper` — trimming a text in upper case.
-/

namespace HashReplay.Text

/-- The capital letter with number `k`, counted from `A`. -/
def capital (k : Fin 26) : Char := Char.ofNat (0x41 + k)

/-- The small letter with number `k`, counted from `a`. -/
def small (k : Fin 26) : Char := Char.ofNat (0x61 + k)

/-- The same character, or the two cases of one letter. -/
inductive SameLetter : Char → Char → Prop
  | same (c : Char) : SameLetter c c
  | lowered (k : Fin 26) : SameLetter (capital k) (small k)
  | raised (k : Fin 26) : SameLetter (small k) (capital k)

/-- Texts that are the same but for the case of ASCII letters. -/
def SameButCase (s t : List Char) : Prop := List.Forall₂ SameLetter s t

theorem toUpper_capital : ∀ k, (capital k).toUpper = capital k := by decide

theorem toUpper_small : ∀ k, (small k).toUpper = capital k := by decide

/-- A character stays as it is in upper case, or it is a small letter. -/
theorem toUpper_eq_or (c : Char) : c.toUpper = c ∨ ∃ k, c = small k := by
  by_cases h : 'a'.val ≤ c.val ∧ c.val ≤ 'z'.val
  · right
    have hlow : 0x61 ≤ c.toNat := UInt32.le_iff_toNat_le.mp h.1
    have hhigh : c.toNat ≤ 0x7A := UInt32.le_iff_toNat_le.mp h.2
    refine ⟨⟨c.toNat - 0x61, by omega⟩, ?_⟩
    have hnat : 0x61 + (c.toNat - 0x61) = c.toNat := by omega
    rw [small, hnat, Char.ofNat_toNat]
  · left
    exact dif_neg h

theorem SameLetter.toUpper_eq {c d : Char} (h : SameLetter c d) : c.toUpper = d.toUpper := by
  cases h with
  | same => rfl
  | lowered k => rw [toUpper_capital, toUpper_small]
  | raised k => rw [toUpper_capital, toUpper_small]

theorem toLower_capital : ∀ k, (capital k).toLower = small k := by decide

theorem toLower_small : ∀ k, (small k).toLower = small k := by decide

/-- A character stays as it is in lower case, or it is a capital letter. -/
theorem toLower_eq_or (c : Char) : c.toLower = c ∨ ∃ k, c = capital k := by
  by_cases h : 'A'.val ≤ c.val ∧ c.val ≤ 'Z'.val
  · right
    have hlow : 0x41 ≤ c.toNat := UInt32.le_iff_toNat_le.mp h.1
    have hhigh : c.toNat ≤ 0x5A := UInt32.le_iff_toNat_le.mp h.2
    refine ⟨⟨c.toNat - 0x41, by omega⟩, ?_⟩
    have hnat : 0x41 + (c.toNat - 0x41) = c.toNat := by omega
    rw [capital, hnat, Char.ofNat_toNat]
  · left
    exact dif_neg h

theorem SameLetter.toLower_eq {c d : Char} (h : SameLetter c d) : c.toLower = d.toLower := by
  cases h with
  | same => rfl
  | lowered k => rw [toLower_capital, toLower_small]
  | raised k => rw [toLower_capital, toLower_small]

/-- A character and the same in lower case are one letter. -/
theorem sameLetter_toLower (c : Char) : SameLetter c.toLower c := by
  rcases toLower_eq_or c with h | ⟨k, rfl⟩
  · rw [h]
    exact .same c
  · rw [toLower_capital]
    exact .raised k

/-- **Texts that only differ in case** are the same in upper case. -/
theorem SameButCase.map_toUpper_eq {s t : List Char} (h : SameButCase s t) :
    s.map Char.toUpper = t.map Char.toUpper := by
  induction h with
  | nil => rfl
  | cons hc _ ih => rw [List.map_cons, List.map_cons, hc.toUpper_eq, ih]

theorem SameButCase.map_toLower_eq {s t : List Char} (h : SameButCase s t) :
    s.map Char.toLower = t.map Char.toLower := by
  induction h with
  | nil => rfl
  | cons hc _ ih => rw [List.map_cons, List.map_cons, hc.toLower_eq, ih]

/-- **A text in lower case** is the same as another one exactly if the two only differ in case. -/
theorem sameButCase_iff {s t : List Char} (hs : s.map Char.toLower = s) :
    SameButCase s t ↔ t.map Char.toLower = s := by
  constructor
  · intro h
    rw [← h.map_toLower_eq, hs]
  · rintro rfl
    clear hs
    induction t with
    | nil => exact .nil
    | cons c t ih => exact .cons (sameLetter_toLower c) ih

/-- A letter is blank in neither case. -/
theorem isBlank_toUpper (c : Char) : isBlank c.toUpper = isBlank c := by
  have hletter : ∀ k, isBlank (capital k) = isBlank (small k) := by decide
  rcases toUpper_eq_or c with h | ⟨k, rfl⟩
  · rw [h]
  · rw [toUpper_small, hletter]

theorem dropWhile_map_toUpper (s : List Char) :
    (s.map Char.toUpper).dropWhile isBlank = (s.dropWhile isBlank).map Char.toUpper := by
  have hcomp : isBlank ∘ Char.toUpper = isBlank := funext isBlank_toUpper
  rw [List.dropWhile_map, hcomp]

/-- **Trimming** takes the same blanks away in upper case. -/
theorem trim_map_toUpper (s : List Char) : trim (s.map Char.toUpper) = (trim s).map Char.toUpper := by
  rw [trim, trimStart, dropWhile_map_toUpper, trimEnd, ← List.map_reverse, dropWhile_map_toUpper,
    ← List.map_reverse]
  rfl

end HashReplay.Text
