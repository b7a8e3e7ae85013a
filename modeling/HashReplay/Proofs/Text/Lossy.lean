import HashReplay.Text.Lines
import HashReplay.Text.Utf8
import Mathlib.Data.List.Basic

/-!
# ASCII bytes in lossy decoding

A byte below `0x80` is always a character of its own.  It never continues a longer character, so an
ill-formed run ends in front of it, and no other byte is ever read as an ASCII character: what is read
from a byte of `0x80` or above, with the bytes that continue it, is a character beyond ASCII or the
replacement character.  ASCII text can therefore be looked for in the bytes and in the decoded text
with the same result, whatever stands around it.

The argument rests on one description of a unit: a first byte of `0x80` or above is followed by the
longest run of bytes that pass the tests of that first byte, one by one (`units_cons_of_le`), and no
test accepts an ASCII byte.

## Main definitions

* `ofAscii` — the character of an ASCII byte.
* `tests`, `advance`, `unitOf` — how far a unit goes, and what it is.

## Main results

* `decodeLossy_append_cons` — decoding can be cut at an ASCII byte.
* `mem_decodeLossy` — an ASCII character comes from an ASCII byte.
* `linePieces_decodeLossy` — the pieces between line feeds are those of the bytes.
* `decodeLossy_eq_append_iff` — the text starts with ASCII text exactly when the bytes do.
-/

namespace HashReplay.Text.Utf8

/-- The character of an ASCII byte. -/
def ofAscii (b : UInt8) : Char := Char.ofNat b.toNat

theorem toNat_ofAscii {b : UInt8} (h : b < 0x80) : (ofAscii b).toNat = b.toNat := by
  have hb : b.toNat < 0x80 := UInt8.lt_iff_toNat_lt.mp h
  have hvalid : b.toNat.isValidChar := Or.inl (by omega)
  rw [ofAscii, Char.ofNat, dif_pos hvalid]
  rfl

theorem ofAscii_inj {a b : UInt8} (ha : a < 0x80) (hb : b < 0x80) (h : ofAscii a = ofAscii b) :
    a = b := by
  have hnat := congrArg Char.toNat h
  rw [toNat_ofAscii ha, toNat_ofAscii hb] at hnat
  exact UInt8.toNat_inj.mp hnat

/-! ### How far a unit goes -/

/-- What the bytes after the first byte `a` of a longer character have to satisfy, one by one. -/
def tests (a : UInt8) : List (UInt8 → Bool) :=
  if 0xC2 ≤ a && a ≤ 0xDF then [isTail]
  else if 0xE0 ≤ a && a ≤ 0xEF then [isSecondOfThree a, isTail]
  else if 0xF0 ≤ a && a ≤ 0xF4 then [isSecondOfFour a, isTail, isTail]
  else []

/-- The bytes at the front that satisfy tests one by one, and what is left. -/
def advance : List (UInt8 → Bool) → List UInt8 → List UInt8 × List UInt8
  | [], s => ([], s)
  | _ :: _, [] => ([], [])
  | p :: ps, b :: s => if p b then (b :: (advance ps s).1, (advance ps s).2) else ([], b :: s)

/-- The unit of a first byte `a` and the bytes that satisfied its tests: a character if all tests were
satisfied, of which there must be some. -/
def unitOf (a : UInt8) (taken : List UInt8) : Option Char :=
  if taken.length = (tests a).length ∧ taken ≠ [] then
    some (Char.ofNat (taken.foldl (fun n b => n * 64 + payload b) (a.toNat % Nat.pow 2 (6 - taken.length))))
  else none

theorem units_cons_of_lt {a : UInt8} (ha : a < 0x80) (s : List UInt8) :
    units (a :: s) = some (ofAscii a) :: units s := by
  rw [units.eq_def]
  simp only [if_pos ha, ofAscii]

/-- **The unit of a byte beyond ASCII** goes as far as the tests of that byte are satisfied. -/
theorem units_cons_of_le {a : UInt8} (ha : 0x80 ≤ a) (s : List UInt8) :
    units (a :: s) = unitOf a (advance (tests a) s).1 :: units (advance (tests a) s).2 := by
  have hascii : ¬a < 0x80 := by grind
  rw [units.eq_def]
  simp only [if_neg hascii, unitOf, tests]
  by_cases h₂ : (0xC2 ≤ a && a ≤ 0xDF) = true
  · simp only [if_pos h₂]
    rcases s with _ | ⟨b, t⟩
    · simp [advance, units]
    · cases hb : isTail b <;> simp [advance, hb]
  simp only [if_neg h₂]
  by_cases h₃ : (0xE0 ≤ a && a ≤ 0xEF) = true
  · simp only [if_pos h₃]
    rcases s with _ | ⟨b, _ | ⟨c, u⟩⟩
    · simp [advance, units]
    · cases hb : isSecondOfThree a b <;> simp [advance, hb, units]
    · cases hb : isSecondOfThree a b <;> cases hc : isTail c <;> simp [advance, hb, hc]
      congr 1
      omega
  simp only [if_neg h₃]
  by_cases h₄ : (0xF0 ≤ a && a ≤ 0xF4) = true
  · simp only [if_pos h₄]
    rcases s with _ | ⟨b, _ | ⟨c, _ | ⟨d, v⟩⟩⟩
    · simp [advance, units]
    · cases hb : isSecondOfFour a b <;> simp [advance, hb, units]
    · cases hb : isSecondOfFour a b <;> cases hc : isTail c <;> simp [advance, hb, hc, units]
    · cases hb : isSecondOfFour a b <;> cases hc : isTail c <;> cases hd : isTail d <;>
        simp [advance, hb, hc, hd]
      congr 1
      omega
  simp only [if_neg h₄]
  simp [advance]

/-! ### No test accepts an ASCII byte -/

theorem isTail_of_lt {x : UInt8} (hx : x < 0x80) : isTail x = false := by
  unfold isTail
  grind

theorem isSecondOfThree_of_lt (a : UInt8) {x : UInt8} (hx : x < 0x80) :
    isSecondOfThree a x = false := by
  unfold isSecondOfThree isTail
  grind

theorem isSecondOfFour_of_lt (a : UInt8) {x : UInt8} (hx : x < 0x80) :
    isSecondOfFour a x = false := by
  unfold isSecondOfFour isTail
  grind

theorem eq_false_of_mem_tests {a x : UInt8} (hx : x < 0x80) :
    ∀ p ∈ tests a, p x = false := by
  have htail := isTail_of_lt hx
  have hthree := isSecondOfThree_of_lt a hx
  have hfour := isSecondOfFour_of_lt a hx
  intro p hp
  unfold tests at hp
  split_ifs at hp <;> simp only [List.mem_cons, List.not_mem_nil, or_false] at hp
  · rw [hp, htail]
  · rcases hp with rfl | rfl <;> assumption
  · rcases hp with rfl | rfl | rfl <;> assumption

/-- A byte that no test accepts stops the advance, so what comes before decides. -/
theorem advance_append_cons {x : UInt8} (v : List UInt8) : ∀ (ps : List (UInt8 → Bool))
    (s : List UInt8), (∀ p ∈ ps, p x = false) →
      advance ps (s ++ x :: v) = ((advance ps s).1, (advance ps s).2 ++ x :: v) := by
  intro ps
  induction ps with
  | nil => intro s _; rfl
  | cons p ps ih =>
    intro s hps
    cases s with
    | nil => simp [advance, hps p List.mem_cons_self]
    | cons b s =>
      rw [List.cons_append, advance, advance, ih s fun q hq => hps q (List.mem_cons_of_mem p hq)]
      cases p b <;> rfl

theorem advance_suffix : ∀ (ps : List (UInt8 → Bool)) (s : List UInt8), (advance ps s).2 <:+ s := by
  intro ps
  induction ps with
  | nil => intro s; exact List.suffix_rfl
  | cons p ps ih =>
    intro s
    cases s with
    | nil => exact List.suffix_rfl
    | cons b s =>
      rw [advance]
      split
      · exact (ih s).trans (List.suffix_cons b s)
      · exact List.suffix_rfl

/-! ### No unit of other bytes is an ASCII character -/

theorem le_toNat_ofNat {n : Nat} (h : 0x80 ≤ n ∧ n < 0xD800 ∨ 0xE000 ≤ n ∧ n < 0x110000) :
    0x80 ≤ (Char.ofNat n).toNat := by
  have hvalid : n.isValidChar := by
    unfold Nat.isValidChar
    omega
  rw [Char.ofNat, dif_pos hvalid]
  change 0x80 ≤ n
  omega

/-- The codes of characters of two bytes. -/
theorem le_code_two {a : Nat} (b : UInt8) (ha : 0xC2 ≤ a ∧ a ≤ 0xDF) :
    0x80 ≤ a % 32 * 64 + payload b ∧ a % 32 * 64 + payload b < 0xD800 := by
  unfold payload
  omega

/-- The codes of characters of three bytes, the surrogates left out. -/
theorem le_code_three {a b : UInt8} (c : UInt8) (ha : 0xE0 ≤ a.toNat ∧ a.toNat ≤ 0xEF)
    (hb : isSecondOfThree a b = true) :
    0x80 ≤ (a.toNat % 16 * 64 + payload b) * 64 + payload c ∧
        (a.toNat % 16 * 64 + payload b) * 64 + payload c < 0xD800 ∨
      0xE000 ≤ (a.toNat % 16 * 64 + payload b) * 64 + payload c ∧
        (a.toNat % 16 * 64 + payload b) * 64 + payload c < 0x110000 := by
  simp only [isSecondOfThree, isTail, beq_iff_eq, ← UInt8.toNat_inj, UInt8.reduceToNat] at hb
  unfold payload
  split_ifs at hb <;>
    simp only [UInt8.le_iff_toNat_le, UInt8.reduceToNat, Bool.and_eq_true, decide_eq_true_eq] at hb <;>
    omega

/-- The codes of characters of four bytes. -/
theorem le_code_four {a b : UInt8} (c d : UInt8) (ha : 0xF0 ≤ a.toNat ∧ a.toNat ≤ 0xF4)
    (hb : isSecondOfFour a b = true) :
    0xE000 ≤ ((a.toNat % 8 * 64 + payload b) * 64 + payload c) * 64 + payload d ∧
      ((a.toNat % 8 * 64 + payload b) * 64 + payload c) * 64 + payload d < 0x110000 := by
  simp only [isSecondOfFour, isTail, beq_iff_eq, ← UInt8.toNat_inj, UInt8.reduceToNat] at hb
  unfold payload
  split_ifs at hb <;>
    simp only [UInt8.le_iff_toNat_le, UInt8.reduceToNat, Bool.and_eq_true, decide_eq_true_eq] at hb <;>
    omega

/-- **A longer character is beyond ASCII.** -/
theorem le_of_unitOf {a : UInt8} {s : List UInt8} {c : Char}
    (h : unitOf a (advance (tests a) s).1 = some c) : 0x80 ≤ c.toNat := by
  unfold unitOf at h
  rw [Option.ite_none_right_eq_some, Option.some.injEq] at h
  obtain ⟨htaken, rfl⟩ := h
  refine le_toNat_ofNat ?_
  revert htaken
  unfold tests
  by_cases h₂ : (0xC2 ≤ a && a ≤ 0xDF) = true
  · rw [if_pos h₂]
    simp only [UInt8.le_iff_toNat_le, UInt8.reduceToNat, Bool.and_eq_true, decide_eq_true_eq] at h₂
    rcases s with _ | ⟨b, t⟩
    · simp [advance]
    · cases hb : isTail b <;> simp [advance, hb]
      exact Or.inl (le_code_two b h₂)
  rw [if_neg h₂]
  by_cases h₃ : (0xE0 ≤ a && a ≤ 0xEF) = true
  · rw [if_pos h₃]
    simp only [UInt8.le_iff_toNat_le, UInt8.reduceToNat, Bool.and_eq_true, decide_eq_true_eq] at h₃
    rcases s with _ | ⟨b, _ | ⟨c, u⟩⟩
    · simp [advance]
    · cases hb : isSecondOfThree a b <;> simp [advance, hb]
    · cases hb : isSecondOfThree a b <;> cases hc : isTail c <;> simp [advance, hb, hc]
      exact le_code_three c h₃ hb
  rw [if_neg h₃]
  by_cases h₄ : (0xF0 ≤ a && a ≤ 0xF4) = true
  · rw [if_pos h₄]
    simp only [UInt8.le_iff_toNat_le, UInt8.reduceToNat, Bool.and_eq_true, decide_eq_true_eq] at h₄
    rcases s with _ | ⟨b, _ | ⟨c, _ | ⟨d, v⟩⟩⟩
    · simp [advance]
    · cases hb : isSecondOfFour a b <;> simp [advance, hb]
    · cases hb : isSecondOfFour a b <;> cases hc : isTail c <;> simp [advance, hb, hc]
    · cases hb : isSecondOfFour a b <;> cases hc : isTail c <;> cases hd : isTail d <;>
        simp [advance, hb, hc, hd]
      exact Or.inr (le_code_four c d h₄ hb)
  rw [if_neg h₄]
  simp [advance]

/-! ### Decoding around ASCII bytes -/

theorem decodeLossy_cons_of_lt {a : UInt8} (ha : a < 0x80) (s : List UInt8) :
    decodeLossy (a :: s) = ofAscii a :: decodeLossy s := by
  rw [decodeLossy, units_cons_of_lt ha]
  rfl

/-- A byte beyond ASCII is read, with the bytes that continue it, as a character beyond ASCII. -/
theorem decodeLossy_cons_of_le {a : UInt8} (ha : 0x80 ≤ a) (s : List UInt8) :
    ∃ c, 0x80 ≤ c.toNat ∧ decodeLossy (a :: s) = c :: decodeLossy (advance (tests a) s).2 := by
  refine ⟨(unitOf a (advance (tests a) s).1).getD replacement, ?_, ?_⟩
  · cases h : unitOf a (advance (tests a) s).1 with
    | none => decide
    | some c => exact le_of_unitOf h
  · rw [decodeLossy, units_cons_of_le ha]
    rfl

theorem length_advance_le (ps : List (UInt8 → Bool)) (s : List UInt8) :
    (advance ps s).2.length ≤ s.length :=
  (advance_suffix ps s).length_le

/-- **Decoding can be cut at an ASCII byte.**  Whatever comes before it, be it cut short or ill formed,
ends there. -/
theorem units_append_cons {x : UInt8} (hx : x < 0x80) (v : List UInt8) :
    ∀ s : List UInt8, units (s ++ x :: v) = units s ++ units (x :: v)
  | [] => rfl
  | a :: s => by
    rw [List.cons_append]
    by_cases ha : a < 0x80
    · rw [units_cons_of_lt ha, units_cons_of_lt ha, units_append_cons hx v s, List.cons_append]
    · have ha : 0x80 ≤ a := by grind
      have hle := length_advance_le (tests a) s
      rw [units_cons_of_le ha, units_cons_of_le ha,
        advance_append_cons v (tests a) s (eq_false_of_mem_tests hx),
        units_append_cons hx v (advance (tests a) s).2, List.cons_append]
  termination_by s => s.length

theorem decodeLossy_append_cons {x : UInt8} (hx : x < 0x80) (s v : List UInt8) :
    decodeLossy (s ++ x :: v) = decodeLossy s ++ ofAscii x :: decodeLossy v := by
  rw [← decodeLossy_cons_of_lt hx, decodeLossy, units_append_cons hx, List.map_append]
  rfl

/-- **An ASCII character comes from an ASCII byte.** -/
theorem mem_decodeLossy {c : Char} (hc : c.toNat < 0x80) :
    ∀ {s : List UInt8}, c ∈ decodeLossy s → ∃ x ∈ s, x < 0x80 ∧ c = ofAscii x
  | [], h => by cases h
  | a :: s, h => by
    by_cases ha : a < 0x80
    · rw [decodeLossy_cons_of_lt ha, List.mem_cons] at h
      rcases h with rfl | h
      · exact ⟨a, List.mem_cons_self, ha, rfl⟩
      · obtain ⟨x, hx, hlt, rfl⟩ := mem_decodeLossy hc h
        exact ⟨x, List.mem_cons_of_mem a hx, hlt, rfl⟩
    · obtain ⟨d, hd, hs⟩ := decodeLossy_cons_of_le (a := a) (by grind) s
      have hle := length_advance_le (tests a) s
      rw [hs, List.mem_cons] at h
      rcases h with rfl | h
      · omega
      · obtain ⟨x, hx, hlt, rfl⟩ := mem_decodeLossy hc h
        exact ⟨x, List.mem_cons_of_mem a ((advance_suffix (tests a) s).subset hx), hlt, rfl⟩
  termination_by s => s.length

theorem lineFeed_not_mem_decodeLossy {s : List UInt8} (h : 0x0A ∉ s) : '\n' ∉ decodeLossy s := by
  intro hmem
  obtain ⟨x, hx, hlt, heq⟩ := mem_decodeLossy (by decide) hmem
  have hfeed : 0x0A = x := ofAscii_inj (by decide) hlt heq
  exact h (hfeed ▸ hx)

/-- **The pieces between line feeds** are those of the bytes, decoded one by one. -/
theorem linePieces_decodeLossy (s : List UInt8) :
    linePieces (decodeLossy s) = (s.splitOn 0x0A).map decodeLossy := by
  by_cases h : 0x0A ∈ s
  · obtain ⟨p, r, rfl, hp⟩ := List.eq_append_cons_of_mem h
    have hfeed : ofAscii 0x0A = '\n' := rfl
    calc linePieces (decodeLossy (p ++ 0x0A :: r))
        = linePieces (decodeLossy p) ++ linePieces (decodeLossy r) := by
          rw [decodeLossy_append_cons (by decide), hfeed, linePieces, pieces_append_cons rfl]
          rfl
      _ = decodeLossy p :: (r.splitOn 0x0A).map decodeLossy := by
          rw [linePieces_eq_singleton (lineFeed_not_mem_decodeLossy hp), linePieces_decodeLossy r,
            List.singleton_append]
      _ = ((p ++ 0x0A :: r).splitOn 0x0A).map decodeLossy := by
          rw [List.splitOn_append_cons_self_of_not_mem hp, List.map_cons]
  · rw [linePieces_eq_singleton (lineFeed_not_mem_decodeLossy h), List.splitOn_eq_singleton h,
      List.map_singleton]
  termination_by s.length
  decreasing_by simp_all; omega

/-! ### ASCII text at the front -/

/-- The text starts with an ASCII character exactly when the bytes do. -/
theorem decodeLossy_eq_cons_iff {x : UInt8} (hx : x < 0x80) (s : List UInt8) (r : List Char) :
    decodeLossy s = ofAscii x :: r ↔ ∃ t, s = x :: t ∧ r = decodeLossy t := by
  constructor
  · intro h
    rcases s with _ | ⟨a, s⟩
    · cases h
    by_cases ha : a < 0x80
    · rw [decodeLossy_cons_of_lt ha, List.cons.injEq] at h
      exact ⟨s, by rw [ofAscii_inj ha hx h.1], h.2.symm⟩
    · obtain ⟨c, hc, hs⟩ := decodeLossy_cons_of_le (a := a) (by grind) s
      rw [hs, List.cons.injEq] at h
      have hnat := toNat_ofAscii hx
      rw [← h.1] at hnat
      have : x.toNat < 0x80 := UInt8.lt_iff_toNat_lt.mp hx
      omega
  · rintro ⟨t, rfl, rfl⟩
    exact decodeLossy_cons_of_lt hx t

/-- **The text starts with ASCII text** exactly when the bytes do. -/
theorem decodeLossy_eq_append_iff : ∀ {xs : List UInt8}, (∀ x ∈ xs, x < 0x80) →
    ∀ (s : List UInt8) (r : List Char),
      decodeLossy s = xs.map ofAscii ++ r ↔ ∃ t, s = xs ++ t ∧ r = decodeLossy t := by
  intro xs
  induction xs with
  | nil => intro _ s r; simp [eq_comm]
  | cons x xs ih =>
    intro hxs s r
    have hx := hxs x List.mem_cons_self
    have ih := ih fun y hy => hxs y (List.mem_cons_of_mem x hy)
    rw [List.map_cons, List.cons_append, decodeLossy_eq_cons_iff hx]
    constructor
    · rintro ⟨t, rfl, ht⟩
      obtain ⟨u, rfl, hu⟩ := (ih t r).mp ht.symm
      exact ⟨u, rfl, hu⟩
    · rintro ⟨u, rfl, hu⟩
      exact ⟨xs ++ u, rfl, ((ih (xs ++ u) r).mpr ⟨u, rfl, hu⟩).symm⟩

end HashReplay.Text.Utf8
