import HashReplay.Host
import HashReplay.Proofs.HashLine.Grammar
import HashReplay.Proofs.Text.Lossy
import HashReplay.Verdict

/-!
# Hash lines in the bytes of an output

A tool writes bytes, which are decoded lossily before a hash is looked for.  The hash can as well be
looked for in the bytes themselves: they are cut at every line feed, and the first piece that starts
with the label and 32 hexadecimal digits, and does not go on with such a digit, has it.  Both searches
find the same, so no ill-formed byte can hide a hash, make one up or change one.

## Main definitions

* `isHashPiece`, `digitsOf` — a piece of bytes that is a hash line, and its digits.
* `scan` — the first hash in the bytes of an output.
* `Verdict.ofBytes` — the verdict on an output that is not decoded.

## Main results

* `isHashLine_decodeLossy_iff` — the hash lines of the decoded text are those of the bytes.
* `extract_decodeLossy` — decoding does not change the hash.
* `verdict_of_bytes` — the verdict on an output is decided by its bytes.
-/

namespace HashReplay

namespace HashLine

open Text.Utf8 (decodeLossy decodeLossy_eq_append_iff decodeLossy_eq_cons_iff linePieces_decodeLossy
  ofAscii toNat_ofAscii)

/-! ### The search in bytes -/

/-- The label in ASCII. -/
def labelBytes : List UInt8 :=
  [0x68, 0x61, 0x73, 0x68, 0x20, 0x6F, 0x66, 0x20, 0x72, 0x65, 0x73, 0x75, 0x6C, 0x74, 0x3A, 0x20]

/-- An ASCII hexadecimal digit, in either case. -/
def isHexByte (b : UInt8) : Bool :=
  (0x30 ≤ b && b ≤ 0x39) || (0x61 ≤ b && b ≤ 0x66) || (0x41 ≤ b && b ≤ 0x46)

/-- The bytes of a piece where the digits of a hash line are. -/
def digitsOf (piece : List UInt8) : List UInt8 := (piece.drop labelBytes.length).take tokenLength

/-- The bytes of a piece behind the digits of a hash line. -/
def behindDigits (piece : List UInt8) : List UInt8 := piece.drop (labelBytes.length + tokenLength)

/-- Whether a piece is the label and 32 hexadecimal digits, and then at its end or at another byte. -/
def isHashPiece (piece : List UInt8) : Bool :=
  labelBytes.isPrefixOf piece && (digitsOf piece).length == tokenLength &&
    (digitsOf piece).all isHexByte && (behindDigits piece).head?.all fun b => !isHexByte b

/-- The digits of the first hash line among the pieces between line feeds. -/
def scan (bytes : List UInt8) : Option (List UInt8) :=
  ((bytes.splitOn 0x0A).find? isHashPiece).map digitsOf

/-! ### Characters and bytes -/

theorem map_ofAscii_labelBytes : labelBytes.map ofAscii = label := by decide

theorem lt_of_mem_labelBytes {b : UInt8} (h : b ∈ labelBytes) : b < 0x80 := by
  have hall : labelBytes.all (· < 0x80) = true := by decide
  exact of_decide_eq_true (List.all_eq_true.mp hall b h)

theorem lt_of_isHexByte {b : UInt8} (h : isHexByte b = true) : b < 0x80 := by
  unfold isHexByte at h
  grind

theorem isHexDigit_ofAscii {b : UInt8} (h : b < 0x80) : isHexDigit (ofAscii b) = isHexByte b := by
  have hval : (ofAscii b).val.toNat = b.toNat := toNat_ofAscii h
  simp only [isHexDigit, isHexByte, Char.le_def, UInt32.le_iff_toNat_le, UInt8.le_iff_toNat_le, hval]
  rfl

/-- Digits come from bytes. -/
theorem exists_map_ofAscii : ∀ {t : List Char}, (∀ c ∈ t, isHexDigit c = true) →
    ∃ ds : List UInt8, (∀ d ∈ ds, isHexByte d = true) ∧ ds.map ofAscii = t := by
  intro t
  induction t with
  | nil => intro _; exact ⟨[], fun d hd => absurd hd List.not_mem_nil, rfl⟩
  | cons c t ih =>
    intro h
    obtain ⟨ds, hds, rfl⟩ := ih fun d hd => h d (List.mem_cons_of_mem c hd)
    have hc := h c List.mem_cons_self
    have hlt := lt_of_isHexDigit hc
    have hnat : (UInt8.ofNat c.toNat).toNat = c.toNat :=
      UInt8.toNat_ofNat_of_lt (Nat.lt_trans hlt (by decide))
    have hbyte : UInt8.ofNat c.toNat < 0x80 := by
      rw [UInt8.lt_iff_toNat_lt, hnat]
      exact hlt
    have hchar : ofAscii (UInt8.ofNat c.toNat) = c := by
      rw [ofAscii, hnat, Char.ofNat_toNat]
    refine ⟨UInt8.ofNat c.toNat :: ds, ?_, ?_⟩
    · intro d hd
      rcases List.mem_cons.mp hd with rfl | hd
      · rw [← isHexDigit_ofAscii hbyte, hchar]
        exact hc
      · exact hds d hd
    · rw [List.map_cons, hchar]

/-- The decoded text goes on with a digit exactly when the bytes do. -/
theorem head?_decodeLossy (s : List UInt8) :
    (∀ c, (decodeLossy s).head? = some c → isHexDigit c = false) ↔
      ∀ b, s.head? = some b → isHexByte b = false := by
  constructor
  · intro h b hb
    obtain ⟨t, rfl⟩ := List.head?_eq_some_iff.mp hb
    cases hhex : isHexByte b with
    | false => rfl
    | true =>
      have hlt := lt_of_isHexByte hhex
      have hfirst := (decodeLossy_eq_cons_iff hlt (b :: t) _).mpr ⟨t, rfl, rfl⟩
      have hdigit := h (ofAscii b) (by rw [hfirst, List.head?_cons])
      rw [isHexDigit_ofAscii hlt, hhex] at hdigit
      exact hdigit
  · intro h c hc
    obtain ⟨r, hr⟩ := List.head?_eq_some_iff.mp hc
    cases hhex : isHexDigit c with
    | false => rfl
    | true =>
      obtain ⟨ds, hds, hmap⟩ := exists_map_ofAscii (t := [c]) (by simpa using hhex)
      obtain ⟨b, rfl⟩ : ∃ b, ds = [b] :=
        List.length_eq_one_iff.mp (by rw [← List.length_map ofAscii, hmap, List.length_singleton])
      have hb := hds b List.mem_cons_self
      have hc : ofAscii b = c := List.cons.inj hmap |>.1
      rw [← hc] at hr
      obtain ⟨t, rfl, -⟩ := (decodeLossy_eq_cons_iff (lt_of_isHexByte hb) s r).mp hr
      rw [h b List.head?_cons] at hb
      exact absurd hb Bool.false_ne_true

/-! ### Hash lines -/

/-- A piece is a hash line exactly when it can be cut into the label, the digits and a rest. -/
theorem isHashPiece_iff (piece ds : List UInt8) :
    (isHashPiece piece = true ∧ digitsOf piece = ds) ↔
      ∃ rest, piece = labelBytes ++ ds ++ rest ∧ ds.length = tokenLength ∧
        (∀ d ∈ ds, isHexByte d = true) ∧ ∀ b, rest.head? = some b → isHexByte b = false := by
  constructor
  · rintro ⟨h, rfl⟩
    simp only [isHashPiece, Bool.and_eq_true, List.isPrefixOf_iff_prefix, beq_iff_eq,
      List.all_eq_true, Option.all_eq_true, Bool.not_eq_true'] at h
    obtain ⟨⟨⟨⟨rest, rfl⟩, hlength⟩, hdigits⟩, hbehind⟩ := h
    refine ⟨behindDigits (labelBytes ++ rest), ?_, hlength, hdigits, hbehind⟩
    rw [digitsOf, behindDigits, List.drop_left, List.drop_length_add_append, List.append_assoc,
      List.take_append_drop]
  · rintro ⟨rest, rfl, hlength, hdigits, hbehind⟩
    have hds : digitsOf (labelBytes ++ ds ++ rest) = ds := by
      rw [digitsOf, List.append_assoc, List.drop_left, List.take_left' hlength]
    have hrest : behindDigits (labelBytes ++ ds ++ rest) = rest := by
      rw [behindDigits, List.drop_left' (by rw [List.length_append, hlength])]
    refine ⟨?_, hds⟩
    simp only [isHashPiece, hds, hrest, Bool.and_eq_true, List.isPrefixOf_iff_prefix, beq_iff_eq,
      List.all_eq_true, Option.all_eq_true, Bool.not_eq_true']
    exact ⟨⟨⟨⟨ds ++ rest, (List.append_assoc ..).symm⟩, hlength⟩, hdigits⟩, hbehind⟩

/-- **The hash lines of the decoded text** are those of the bytes. -/
theorem isHashLine_decodeLossy_iff (piece : List UInt8) (t : List Char) :
    IsHashLine (decodeLossy piece) t ↔
      isHashPiece piece = true ∧ (digitsOf piece).map ofAscii = t := by
  have hascii (ds : List UInt8) (hds : ∀ d ∈ ds, isHexByte d = true) :
      ∀ x ∈ labelBytes ++ ds, x < 0x80 := by
    intro x hx
    rcases List.mem_append.mp hx with hx | hx
    · exact lt_of_mem_labelBytes hx
    · exact lt_of_isHexByte (hds x hx)
  constructor
  · rintro ⟨rest, hs, hlength, hdigits, hrest⟩
    obtain ⟨ds, hds, rfl⟩ := exists_map_ofAscii hdigits
    rw [← map_ofAscii_labelBytes, ← List.map_append, decodeLossy_eq_append_iff (hascii ds hds)] at hs
    obtain ⟨behind, hpiece, rfl⟩ := hs
    rw [List.length_map] at hlength
    obtain ⟨h, hd⟩ := (isHashPiece_iff piece ds).mpr
      ⟨behind, hpiece, hlength, hds, (head?_decodeLossy behind).mp hrest⟩
    exact ⟨h, congrArg (List.map ofAscii) hd⟩
  · rintro ⟨h, rfl⟩
    obtain ⟨rest, hpiece, hlength, hds, hrest⟩ := (isHashPiece_iff piece _).mp ⟨h, rfl⟩
    refine ⟨decodeLossy rest, ?_, ?_, ?_, (head?_decodeLossy rest).mpr hrest⟩
    · rw [← map_ofAscii_labelBytes, ← List.map_append, decodeLossy_eq_append_iff (hascii _ hds)]
      exact ⟨rest, hpiece, rfl⟩
    · rw [List.length_map]
      exact hlength
    · intro c hc
      obtain ⟨d, hd, rfl⟩ := List.mem_map.mp hc
      rw [isHexDigit_ofAscii (lt_of_isHexByte (hds d hd))]
      exact hds d hd

theorem tokenAt_decodeLossy (piece : List UInt8) :
    tokenAt (decodeLossy piece) =
      if isHashPiece piece then some ((digitsOf piece).map ofAscii) else none := by
  refine Option.ext fun t => ?_
  rw [tokenAt_eq_some_iff, isHashLine_decodeLossy_iff, Option.ite_none_right_eq_some,
    Option.some.injEq]

/-- **Decoding does not change the hash**, whatever the bytes are. -/
theorem extract_decodeLossy (bytes : List UInt8) :
    extract (decodeLossy bytes) = (scan bytes).map (·.map ofAscii) := by
  have hfind (ps : List (List UInt8)) : ps.findSome? (fun p => tokenAt (decodeLossy p)) =
      ((ps.find? isHashPiece).map digitsOf).map (·.map ofAscii) := by
    induction ps with
    | nil => rfl
    | cons p ps ih =>
      rw [List.findSome?_cons, tokenAt_decodeLossy, List.find?_cons]
      cases isHashPiece p with
      | true => rfl
      | false => exact ih
  rw [extract_eq_findSome?, linePieces_decodeLossy, List.findSome?_map]
  exact hfind _

/-- A character that is cut short before the line feed, and an ill-formed byte right after the digits. -/
example : scan ([0xE2, 0x82, 0x0A] ++ labelBytes ++ List.replicate 32 0x41 ++ [0xFF]) =
    some (List.replicate 32 0x41) := by
  decide

end HashLine

namespace Verdict

/-- The verdict on an output that is not decoded, but searched byte by byte. -/
def ofBytes (bytes : List UInt8) (expected : String) : Verdict :=
  let wanted := String.ofList (upper (Text.trim expected.toList))
  match HashLine.scan bytes with
  | none => .malformedOutput wanted
  | some digits =>
    let found := String.ofList (upper (digits.map Text.Utf8.ofAscii))
    if found = wanted then .pass found else .mismatch found wanted

theorem check_decodeLossy (bytes : List UInt8) (expected : String) :
    check (String.ofList (Text.Utf8.decodeLossy bytes)) expected = ofBytes bytes expected := by
  rw [check, ofBytes, String.toList_ofList, HashLine.extract_decodeLossy]
  cases HashLine.scan bytes <;> rfl

end Verdict

/-- **The verdict is decided by the bytes of an output.**  Looking for a hash in the decoded text finds
the digits that the search in the bytes finds, or nothing if that finds nothing; and so the verdict on
what a finished program wrote is the one on its bytes. -/
theorem HashLine.verdict_of_bytes (bytes : List UInt8) :
    extract (Text.Utf8.decodeLossy bytes) = (scan bytes).map (·.map Text.Utf8.ofAscii) ∧
      (∀ expected, Verdict.check (String.ofList (Text.Utf8.decodeLossy bytes)) expected =
        Verdict.ofBytes bytes expected) ∧
      ∀ (done : Programs.Finished) (expected : String),
        Verdict.check (Host.outputOf done).stdout expected = Verdict.ofBytes done.stdout expected :=
  ⟨extract_decodeLossy bytes, Verdict.check_decodeLossy bytes,
    fun done => Verdict.check_decodeLossy done.stdout⟩

end HashReplay
