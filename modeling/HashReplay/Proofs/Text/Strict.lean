import HashReplay.Proofs.Text.Lossy

/-!
# Strict decoding

A byte sequence can be decoded strictly exactly when it is what some text is encoded as, and then it is
decoded to that text.  So the byte sequences that are refused are those that encode no text at all.

## Main definitions

* `Forms` — the bytes that form a character, by their number.

## Main results

* `Forms.encodeChar_eq`, `Forms.units_append`, `exists_forms`, `forms_of_units` — these bytes are what the
  character is encoded as, and what one unit that is a character is read from.
* `decode?_eq_some_iff` — strict decoding undoes encoding, and nothing else is decoded.
* `decodeLossy_encode` — lenient decoding undoes encoding, too.
-/

namespace HashReplay.Text.Utf8

/-! ### Byte classes by number -/

theorem isTail_iff {b : UInt8} : isTail b = true ↔ 0x80 ≤ b.toNat ∧ b.toNat ≤ 0xBF := by
  rw [isTail, Bool.and_eq_true, decide_eq_true_eq, decide_eq_true_eq, UInt8.le_iff_toNat_le,
    UInt8.le_iff_toNat_le]
  rfl

theorem isSecondOfThree_iff {a b : UInt8} : isSecondOfThree a b = true ↔
    (a.toNat = 0xE0 → 0xA0 ≤ b.toNat) ∧ (a.toNat = 0xED → b.toNat ≤ 0x9F) ∧
      0x80 ≤ b.toNat ∧ b.toNat ≤ 0xBF := by
  simp only [isSecondOfThree, isTail, beq_iff_eq, ← UInt8.toNat_inj, UInt8.reduceToNat]
  split_ifs <;>
    simp only [UInt8.le_iff_toNat_le, UInt8.reduceToNat, Bool.and_eq_true, decide_eq_true_eq] <;>
    omega

theorem isSecondOfFour_iff {a b : UInt8} : isSecondOfFour a b = true ↔
    (a.toNat = 0xF0 → 0x90 ≤ b.toNat) ∧ (a.toNat = 0xF4 → b.toNat ≤ 0x8F) ∧
      0x80 ≤ b.toNat ∧ b.toNat ≤ 0xBF := by
  simp only [isSecondOfFour, isTail, beq_iff_eq, ← UInt8.toNat_inj, UInt8.reduceToNat]
  split_ifs <;>
    simp only [UInt8.le_iff_toNat_le, UInt8.reduceToNat, Bool.and_eq_true, decide_eq_true_eq] <;>
    omega

/-! ### The bytes that form a character -/

/-- The bytes that form a character. -/
inductive Forms : List UInt8 → Char → Prop where
  | one {a : UInt8} (ha : a < 0x80) : Forms [a] (ofAscii a)
  | two {a b : UInt8} (ha : 0xC2 ≤ a.toNat ∧ a.toNat ≤ 0xDF) (hb : isTail b = true) :
      Forms [a, b] (Char.ofNat (a.toNat % 32 * 64 + payload b))
  | three {a b c : UInt8} (ha : 0xE0 ≤ a.toNat ∧ a.toNat ≤ 0xEF) (hb : isSecondOfThree a b = true)
      (hc : isTail c = true) :
      Forms [a, b, c] (Char.ofNat ((a.toNat % 16 * 64 + payload b) * 64 + payload c))
  | four {a b c d : UInt8} (ha : 0xF0 ≤ a.toNat ∧ a.toNat ≤ 0xF4) (hb : isSecondOfFour a b = true)
      (hc : isTail c = true) (hd : isTail d = true) :
      Forms [a, b, c, d]
        (Char.ofNat (((a.toNat % 8 * 64 + payload b) * 64 + payload c) * 64 + payload d))

theorem toNat_val_ofNat {n : Nat} (h : n < 0xD800 ∨ 0xE000 ≤ n ∧ n < 0x110000) :
    (Char.ofNat n).val.toNat = n := by
  have hvalid : n.isValidChar := by
    unfold Nat.isValidChar
    omega
  rw [Char.ofNat, dif_pos hvalid]
  rfl

theorem ofNat_eq_of_mod {x : UInt8} {n : Nat} (h : n % 256 = x.toNat) : UInt8.ofNat n = x := by
  rw [← UInt8.toNat_inj, UInt8.toNat_ofNat', h]

/-- **The bytes that form a character** are what it is encoded as. -/
theorem Forms.encodeChar_eq {bs : List UInt8} {c : Char} (h : Forms bs c) :
    String.utf8EncodeChar c = bs := by
  cases h with
  | @one a ha =>
    have hcode := toNat_ofAscii ha
    have hlt : a.toNat < 0x80 := UInt8.lt_iff_toNat_lt.mp ha
    change (ofAscii a).val.toNat = a.toNat at hcode
    rw [String.utf8EncodeChar, hcode, if_pos (by omega), ofNat_eq_of_mod (x := a) (by omega)]
  | @two a b ha hb =>
    have hcode := le_code_two b ha
    rw [isTail_iff] at hb
    simp only [payload] at hcode ⊢
    rw [String.utf8EncodeChar, toNat_val_ofNat (by omega), if_neg (by omega), if_pos (by omega),
      ofNat_eq_of_mod (x := a) (by omega), ofNat_eq_of_mod (x := b) (by omega)]
  | @three a b c ha hb hc =>
    have hcode := le_code_three c ha hb
    rw [isSecondOfThree_iff] at hb
    rw [isTail_iff] at hc
    simp only [payload] at hcode ⊢
    rw [String.utf8EncodeChar, toNat_val_ofNat (by omega), if_neg (by omega), if_neg (by omega),
      if_pos (by omega), ofNat_eq_of_mod (x := a) (by omega), ofNat_eq_of_mod (x := b) (by omega),
      ofNat_eq_of_mod (x := c) (by omega)]
  | @four a b c d ha hb hc hd =>
    have hcode := le_code_four c d ha hb
    rw [isSecondOfFour_iff] at hb
    rw [isTail_iff] at hc hd
    simp only [payload] at hcode ⊢
    rw [String.utf8EncodeChar, toNat_val_ofNat (by omega), if_neg (by omega), if_neg (by omega),
      if_neg (by omega), ofNat_eq_of_mod (x := a) (by omega), ofNat_eq_of_mod (x := b) (by omega),
      ofNat_eq_of_mod (x := c) (by omega), ofNat_eq_of_mod (x := d) (by omega)]

/-- The first byte of a longer character says what may follow. -/
theorem tests_two {a : UInt8} (ha : 0xC2 ≤ a.toNat ∧ a.toNat ≤ 0xDF) : tests a = [isTail] := by
  rw [tests, if_pos]
  simpa [UInt8.le_iff_toNat_le] using ha

theorem tests_three {a : UInt8} (ha : 0xE0 ≤ a.toNat ∧ a.toNat ≤ 0xEF) :
    tests a = [isSecondOfThree a, isTail] := by
  rw [tests, if_neg, if_pos]
  · simpa [UInt8.le_iff_toNat_le] using ha
  · simp only [Bool.and_eq_true, decide_eq_true_eq, UInt8.le_iff_toNat_le, UInt8.reduceToNat]
    omega

theorem tests_four {a : UInt8} (ha : 0xF0 ≤ a.toNat ∧ a.toNat ≤ 0xF4) :
    tests a = [isSecondOfFour a, isTail, isTail] := by
  rw [tests, if_neg, if_neg, if_pos]
  · simpa [UInt8.le_iff_toNat_le] using ha
  · simp only [Bool.and_eq_true, decide_eq_true_eq, UInt8.le_iff_toNat_le, UInt8.reduceToNat]
    omega
  · simp only [Bool.and_eq_true, decide_eq_true_eq, UInt8.le_iff_toNat_le, UInt8.reduceToNat]
    omega

/-- **They are read as one unit.** -/
theorem Forms.units_append {bs : List UInt8} {c : Char} (h : Forms bs c) (s : List UInt8) :
    units (bs ++ s) = some c :: units s := by
  have hbeyond {a : UInt8} (ha : 0x80 ≤ a.toNat) : 0x80 ≤ a := UInt8.le_iff_toNat_le.mpr ha
  cases h with
  | one ha => exact units_cons_of_lt ha s
  | two ha hb =>
    rw [List.cons_append, units_cons_of_le (hbeyond (by omega)), unitOf, tests_two ha]
    simp [advance, hb]
  | three ha hb hc =>
    rw [List.cons_append, units_cons_of_le (hbeyond (by omega)), unitOf, tests_three ha]
    simp [advance, hb, hc]
  | four ha hb hc hd =>
    rw [List.cons_append, units_cons_of_le (hbeyond (by omega)), unitOf, tests_four ha]
    simp [advance, hb, hc, hd]

/-- **Every character is formed by some bytes.** -/
theorem exists_forms (c : Char) : ∃ bs, Forms bs c := by
  have hvalid : c.val.toNat < 0xD800 ∨ 0xDFFF < c.val.toNat ∧ c.val.toNat < 0x110000 := c.valid
  have hc : Char.ofNat c.val.toNat = c := Char.ofNat_toNat c
  generalize c.val.toNat = v at hvalid hc
  subst hc
  have hbyte {n : Nat} (hn : n < 256) : (UInt8.ofNat n).toNat = n := by
    rw [UInt8.toNat_ofNat', Nat.mod_eq_of_lt hn]
  -- the last six bits, and the six bits before the last six or twelve
  have htail (n : Nat) : isTail (UInt8.ofNat (0x80 + n % 64)) = true ∧
      payload (UInt8.ofNat (0x80 + n % 64)) = n % 64 := by
    rw [isTail_iff, payload, hbyte (by omega)]
    omega
  by_cases h₁ : v < 0x80
  · refine ⟨[UInt8.ofNat v], ?_⟩
    have hone := Forms.one (a := UInt8.ofNat v) (UInt8.lt_iff_toNat_lt.mpr ?_)
    · rwa [ofAscii, hbyte (by omega)] at hone
    · rw [hbyte (by omega)]
      exact h₁
  by_cases h₂ : v < 0x800
  · have htwo := Forms.two (a := UInt8.ofNat (0xC0 + v / 64)) (b := UInt8.ofNat (0x80 + v % 64))
      (by rw [hbyte (by omega)]; omega) (htail v).1
    have hcode : (0xC0 + v / 64) % 32 * 64 + v % 64 = v := by omega
    rw [hbyte (by omega), (htail v).2, hcode] at htwo
    exact ⟨_, htwo⟩
  by_cases h₃ : v < 0x10000
  · have hthree := Forms.three (a := UInt8.ofNat (0xE0 + v / 4096))
      (b := UInt8.ofNat (0x80 + v / 64 % 64)) (c := UInt8.ofNat (0x80 + v % 64))
      (by rw [hbyte (by omega)]; omega)
      (by rw [isSecondOfThree_iff, hbyte (by omega), hbyte (by omega)]; omega) (htail v).1
    have hcode : ((0xE0 + v / 4096) % 16 * 64 + v / 64 % 64) * 64 + v % 64 = v := by omega
    rw [hbyte (by omega), (htail (v / 64)).2, (htail v).2, hcode] at hthree
    exact ⟨_, hthree⟩
  · have hfour := Forms.four (a := UInt8.ofNat (0xF0 + v / 262144))
      (b := UInt8.ofNat (0x80 + v / 4096 % 64)) (c := UInt8.ofNat (0x80 + v / 64 % 64))
      (d := UInt8.ofNat (0x80 + v % 64)) (by rw [hbyte (by omega)]; omega)
      (by rw [isSecondOfFour_iff, hbyte (by omega), hbyte (by omega)]; omega) (htail (v / 64)).1
      (htail v).1
    have hcode : (((0xF0 + v / 262144) % 8 * 64 + v / 4096 % 64) * 64 + v / 64 % 64) * 64 + v % 64 =
        v := by omega
    rw [hbyte (by omega), (htail (v / 4096)).2, (htail (v / 64)).2, (htail v).2, hcode] at hfour
    exact ⟨_, hfour⟩

/-- **A unit that is a character** is read from the bytes that form it. -/
theorem forms_of_units : ∀ {bytes : List UInt8} {c : Char} {us : List (Option Char)},
    units bytes = some c :: us → ∃ bs s, bytes = bs ++ s ∧ Forms bs c ∧ us = units s := by
  intro bytes c us h
  rcases bytes with _ | ⟨a, s⟩
  · simp [units] at h
  by_cases ha : a < 0x80
  · rw [units_cons_of_lt ha] at h
    cases h
    exact ⟨[a], s, rfl, .one ha, rfl⟩
  rw [units_cons_of_le (by grind)] at h
  obtain ⟨hunit, rfl⟩ := List.cons_eq_cons.mp h
  rw [unitOf, Option.ite_none_right_eq_some, Option.some.injEq] at hunit
  obtain ⟨htaken, rfl⟩ := hunit
  -- the first byte says how many are to follow, and none of them failed its test
  by_cases h₂ : 0xC2 ≤ a.toNat ∧ a.toNat ≤ 0xDF
  · rw [tests_two h₂] at htaken ⊢
    rcases s with _ | ⟨b, t⟩
    · simp [advance] at htaken
    · cases hb : isTail b <;> simp [advance, hb] at htaken ⊢
      exact ⟨[a, b], t, rfl, .two h₂ hb, rfl⟩
  by_cases h₃ : 0xE0 ≤ a.toNat ∧ a.toNat ≤ 0xEF
  · rw [tests_three h₃] at htaken ⊢
    rcases s with _ | ⟨b, _ | ⟨c, u⟩⟩
    · simp [advance] at htaken
    · cases hb : isSecondOfThree a b <;> simp [advance, hb] at htaken
    · cases hb : isSecondOfThree a b <;> cases hc : isTail c <;> simp [advance, hb, hc] at htaken ⊢
      exact ⟨[a, b, c], u, rfl, .three h₃ hb hc, rfl⟩
  by_cases h₄ : 0xF0 ≤ a.toNat ∧ a.toNat ≤ 0xF4
  · rw [tests_four h₄] at htaken ⊢
    rcases s with _ | ⟨b, _ | ⟨c, _ | ⟨d, v⟩⟩⟩
    · simp [advance] at htaken
    · cases hb : isSecondOfFour a b <;> simp [advance, hb] at htaken
    · cases hb : isSecondOfFour a b <;> cases hc : isTail c <;> simp [advance, hb, hc] at htaken
    · cases hb : isSecondOfFour a b <;> cases hc : isTail c <;> cases hd : isTail d <;>
        simp [advance, hb, hc, hd] at htaken ⊢
      exact ⟨[a, b, c, d], v, rfl, .four h₄ hb hc hd, rfl⟩
  · have htests : tests a = [] := by
      simp only [tests, Bool.and_eq_true, decide_eq_true_eq, UInt8.le_iff_toNat_le, UInt8.reduceToNat,
        if_neg h₂, if_neg h₃, if_neg h₄]
    rw [htests] at htaken
    exact absurd rfl htaken.2

/-! ### Texts -/

/-- A unit is decoded if it is a character. -/
theorem mapM_id_cons_eq_some {u : Option Char} {us : List (Option Char)} {s : List Char} :
    (u :: us).mapM id = some s ↔ ∃ c t, u = some c ∧ us.mapM id = some t ∧ s = c :: t := by
  rw [List.mapM_cons]
  cases u with
  | none => simp
  | some c => cases us.mapM id <;> simp [eq_comm]

theorem units_eq_nil_iff {bytes : List UInt8} : units bytes = [] ↔ bytes = [] := by
  rcases bytes with _ | ⟨a, s⟩
  · exact iff_of_true rfl rfl
  · refine iff_of_false ?_ (List.cons_ne_nil a s)
    by_cases ha : a < 0x80
    · rw [units_cons_of_lt ha]
      exact List.cons_ne_nil _ _
    · rw [units_cons_of_le (by grind)]
      exact List.cons_ne_nil _ _

/-- A text is decoded from what it is encoded as. -/
theorem decode?_encode : ∀ s : List Char, decode? (encode s) = some s := by
  intro s
  induction s with
  | nil => rfl
  | cons c s ih =>
    obtain ⟨bs, hbs⟩ := exists_forms c
    have hencode : encode (c :: s) = bs ++ encode s := by
      rw [encode, List.flatMap_cons, hbs.encodeChar_eq, encode]
    rw [hencode, decode?, hbs.units_append, mapM_id_cons_eq_some]
    exact ⟨c, s, rfl, ih, rfl⟩

/-- What a text is decoded from is what it is encoded as. -/
theorem encode_of_decode? : ∀ {s : List Char} {bytes : List UInt8}, decode? bytes = some s →
    encode s = bytes := by
  intro s
  induction s with
  | nil =>
    intro bytes h
    rcases hunits : units bytes with _ | ⟨u, us⟩
    · exact (units_eq_nil_iff.mp hunits).symm
    · rw [decode?, hunits, mapM_id_cons_eq_some] at h
      obtain ⟨c, t, -, -, hnil⟩ := h
      cases hnil
  | cons c s ih =>
    intro bytes h
    rcases hunits : units bytes with _ | ⟨u, us⟩
    · rw [decode?, hunits] at h
      cases h
    · rw [decode?, hunits, mapM_id_cons_eq_some] at h
      obtain ⟨c', t, rfl, ht, hcons⟩ := h
      cases hcons
      obtain ⟨bs, rest, rfl, hbs, rfl⟩ := forms_of_units hunits
      rw [encode, List.flatMap_cons, hbs.encodeChar_eq, ← encode, ih ht]

/-- **Strict decoding undoes encoding**, and nothing else is decoded. -/
theorem decode?_eq_some_iff {bytes : List UInt8} {s : List Char} :
    decode? bytes = some s ↔ encode s = bytes := by
  refine ⟨encode_of_decode?, ?_⟩
  rintro rfl
  exact decode?_encode s

/-- Nothing has to be replaced in what a text is encoded as. -/
@[simp] theorem decodeLossy_encode (s : List Char) : decodeLossy (encode s) = s := by
  have hread : ∀ {us : List (Option Char)} {t : List Char}, us.mapM id = some t →
      us.map (·.getD replacement) = t := by
    intro us
    induction us with
    | nil => intro t h; exact Option.some.inj h
    | cons u us ih =>
      intro t h
      obtain ⟨c, r, rfl, hr, rfl⟩ := mapM_id_cons_eq_some.mp h
      rw [List.map_cons, ih hr]
      rfl
  exact hread (decode?_encode s)

end HashReplay.Text.Utf8
