import HashReplay.Proofs.HashLine.Search
import HashReplay.Proofs.Text.LetterCase
import HashReplay.Verdict

/-!
# What a verdict says

A verdict compares two normal forms: that of the hash which an output reports, and that of the expected
text.  The normal form of a text has no blanks at its ends and all ASCII letters in upper case.  What is
expected may be any text, but only 32 hexadecimal digits can ever be met.

Blanks around the expected text and the case of letters do not show in a normal form, so they have no
influence on the verdict.  On the side of the output only the letters of the token may be changed:
changing them neither makes a hash line of another line, nor does the line stop being one.

## Main definitions

* `normal` — the normal form of a text.
* `IsHash`, `IsUpperHash` — 32 hexadecimal digits, in any case and in upper case.

## Main results

* `check_eq_malformedOutput_iff`, `check_eq_pass_iff`, `check_eq_mismatch_iff` — when each verdict is given.
* `HashLine.FirstFrom.recased` — the first hash line stays the first one when its token changes case.
* `check_exact` — all that a verdict says, and all that it does not depend on.
-/

namespace HashReplay

namespace HashLine

open Text (SameLetter SameButCase capital small)

/-! ### Tokens in another case -/

/-- A digit of a hash is one in both cases, and no other letter becomes one. -/
theorem isHexDigit_congr {c d : Char} (h : SameLetter c d) : isHexDigit c = isHexDigit d := by
  have hletter : ∀ k, isHexDigit (capital k) = isHexDigit (small k) := by decide
  cases h with
  | same => rfl
  | lowered k => exact hletter k
  | raised k => exact (hletter k).symm

theorem forall_isHexDigit_of_sameButCase {token token' : List Char} (h : SameButCase token token')
    (hdigits : ∀ c ∈ token, isHexDigit c = true) : ∀ c ∈ token', isHexDigit c = true := by
  induction h with
  | nil => exact hdigits
  | cons hc _ ih =>
    obtain ⟨hdigit, hdigits⟩ := List.forall_mem_cons.mp hdigits
    exact List.forall_mem_cons.mpr ⟨isHexDigit_congr hc ▸ hdigit, ih hdigits⟩

/-- A hash line with its token in another case is a hash line. -/
theorem IsHashLine.recased {token token' rest : List Char}
    (h : IsHashLine (label ++ token ++ rest) token) (hcase : SameButCase token token') :
    IsHashLine (label ++ token' ++ rest) token' := by
  obtain ⟨behind, hline, hlength, hdigits, hbehind⟩ := h
  rw [List.append_cancel_left_eq] at hline
  subst hline
  exact ⟨rest, rfl, hcase.length_eq ▸ hlength, forall_isHexDigit_of_sameButCase hcase hdigits,
    hbehind⟩

/-- **The first hash line** stays the first one when the letters of its token change their case. -/
theorem FirstFrom.recased {s before token token' rest : List Char}
    (h : FirstFrom [] s before (label ++ token ++ rest) token) (hcase : SameButCase token token') :
    FirstFrom [] (before ++ (label ++ token' ++ rest)) before (label ++ token' ++ rest) token' :=
  h.replace (h.isHashLine.recased hcase)

/-- Whoever finds a hash can point at it. -/
theorem exists_firstFrom_of_extract {s token : List Char} (h : extract s = some token) :
    ∃ before rest, FirstFrom [] s before (label ++ token ++ rest) token := by
  obtain ⟨before, r, hfirst⟩ := (extract_eq_some_iff_firstFrom s token).mp h
  obtain ⟨rest, rfl, -⟩ := hfirst.isHashLine
  exact ⟨before, rest, hfirst⟩

end HashLine

namespace Verdict

open HashLine (extract isHexDigit tokenLength label FirstFrom)
open Text (SameButCase)

/-! ### Normal forms -/

/-- A text without the blanks at its ends and with the ASCII letters in upper case. -/
def normal (s : String) : String := String.ofList (upper (Text.trim s.toList))

/-- As many hexadecimal digits as a hash has, in either case. -/
def IsHash (s : List Char) : Prop := s.length = tokenLength ∧ ∀ c ∈ s, isHexDigit c = true

/-- As many hexadecimal digits as a hash has, in upper case. -/
def IsUpperHash (s : String) : Prop :=
  s.length = 32 ∧ ∀ c ∈ s.toList, '0' ≤ c ∧ c ≤ '9' ∨ 'A' ≤ c ∧ c ≤ 'F'

/-- Normal forms do not show the case of letters. -/
theorem normal_congr {s t : String} (h : SameButCase s.toList t.toList) : normal s = normal t := by
  have htrim : upper (Text.trim s.toList) = upper (Text.trim t.toList) := by
    rw [upper, upper, ← Text.trim_map_toUpper, ← Text.trim_map_toUpper, h.map_toUpper_eq]
  rw [normal, normal, htrim]

/-- Normal forms do not show blanks at the ends. -/
theorem normal_padded {before after : String} (hbefore : ∀ c ∈ before.toList, Text.isBlank c = true)
    (hafter : ∀ c ∈ after.toList, Text.isBlank c = true) (s : String) :
    normal (before ++ s ++ after) = normal s := by
  rw [normal, normal, String.toList_append, String.toList_append, Text.trim_padded hbefore hafter]

/-- Whether something holds of all digits can be tried. -/
theorem forall_isHexDigit {P : Char → Prop}
    (h : ∀ n < 0x80, isHexDigit (Char.ofNat n) = true → P (Char.ofNat n)) {c : Char}
    (hc : isHexDigit c = true) : P c := by
  have hn := h c.toNat (HashLine.lt_of_isHexDigit hc)
  rw [Char.ofNat_toNat] at hn
  exact hn hc

theorem isBlank_of_isHexDigit {c : Char} (h : isHexDigit c = true) : Text.isBlank c = false := by
  refine forall_isHexDigit (P := fun c => Text.isBlank c = false) ?_ h
  decide

theorem toUpper_of_isHexDigit {c : Char} (h : isHexDigit c = true) :
    '0' ≤ c.toUpper ∧ c.toUpper ≤ '9' ∨ 'A' ≤ c.toUpper ∧ c.toUpper ≤ 'F' := by
  refine forall_isHexDigit (P := fun c =>
    '0' ≤ c.toUpper ∧ c.toUpper ≤ '9' ∨ 'A' ≤ c.toUpper ∧ c.toUpper ≤ 'F') ?_ h
  decide

/-- A character that is a digit in upper case is one. -/
theorem isHexDigit_of_toUpper {c : Char} (h : isHexDigit c.toUpper = true) : isHexDigit c = true := by
  have hletter : ∀ k, isHexDigit (Text.capital k) = true → isHexDigit (Text.small k) = true := by
    decide
  rcases Text.toUpper_eq_or c with hc | ⟨k, rfl⟩
  · rwa [hc] at h
  · rw [Text.toUpper_small] at h
    exact hletter k h

theorem isHash_of_extract {s token : List Char} (h : extract s = some token) : IsHash token :=
  HashLine.digits_of_extract h

/-- A hash has no blanks that could be taken away. -/
theorem IsHash.normal_eq {token : List Char} (h : IsHash token) :
    normal (String.ofList token) = String.ofList (upper token) := by
  rw [normal, String.toList_ofList, Text.trim_eq_self fun c hc => isBlank_of_isHexDigit (h.2 c hc)]

/-- The normal form of a hash is a hash in upper case. -/
theorem IsHash.isUpperHash {token : List Char} (h : IsHash token) :
    IsUpperHash (normal (String.ofList token)) := by
  rw [h.normal_eq]
  constructor
  · rw [String.length_ofList, upper, List.length_map, h.1]
    rfl
  · intro c hc
    rw [String.toList_ofList] at hc
    obtain ⟨d, hd, rfl⟩ := List.mem_map.mp hc
    exact toUpper_of_isHexDigit (h.2 d hd)

/-- What is no hash does not have the normal form of one. -/
theorem isHash_of_normal_eq {token : List Char} {expected : String} (h : IsHash token)
    (hsame : normal (String.ofList token) = normal expected) : IsHash (Text.trim expected.toList) := by
  rw [h.normal_eq, normal, String.ofList_inj] at hsame
  constructor
  · have hlength := congrArg List.length hsame
    rw [upper, upper, List.length_map, List.length_map] at hlength
    rw [← hlength, h.1]
  · intro c hc
    have hupper : c.toUpper ∈ upper token := hsame ▸ List.mem_map_of_mem hc
    obtain ⟨d, hd, hdc⟩ := List.mem_map.mp hupper
    have hdigit : isHexDigit d.toUpper = true := by
      refine forall_isHexDigit (P := fun d => isHexDigit d.toUpper = true) ?_ (h.2 d hd)
      decide
    rw [hdc] at hdigit
    exact isHexDigit_of_toUpper hdigit

/-! ### The three verdicts -/

/-- A verdict in terms of normal forms. -/
theorem check_eq (stdout expected : String) : check stdout expected =
    match extract stdout.toList with
    | none => .malformedOutput (normal expected)
    | some token =>
      if normal (String.ofList token) = normal expected then .pass (normal (String.ofList token))
      else .mismatch (normal (String.ofList token)) (normal expected) := by
  rw [check, ← normal]
  cases htoken : extract stdout.toList with
  | none => rfl
  | some token => simp only [(isHash_of_extract htoken).normal_eq]

section

variable {stdout expected observed wanted : String}

/-- No hash line, no hash. -/
theorem check_eq_malformedOutput_iff : check stdout expected = .malformedOutput wanted ↔
    extract stdout.toList = none ∧ wanted = normal expected := by
  rw [check_eq]
  cases extract stdout.toList with
  | none => simp [eq_comm]
  | some token => by_cases h : normal (String.ofList token) = normal expected <;> simp [h]

/-- The hash that was found is the expected one. -/
theorem check_eq_pass_iff : check stdout expected = .pass observed ↔
    ∃ token, extract stdout.toList = some token ∧
      normal (String.ofList token) = normal expected ∧ observed = normal expected := by
  rw [check_eq]
  cases extract stdout.toList with
  | none => simp
  | some token =>
    by_cases h : normal (String.ofList token) = normal expected
    · simp [h, eq_comm]
    · simp [h]

/-- The hash that was found is another one. -/
theorem check_eq_mismatch_iff : check stdout expected = .mismatch observed wanted ↔
    ∃ token, extract stdout.toList = some token ∧
      normal (String.ofList token) ≠ normal expected ∧
      observed = normal (String.ofList token) ∧ wanted = normal expected := by
  rw [check_eq]
  cases extract stdout.toList with
  | none => simp
  | some token =>
    by_cases h : normal (String.ofList token) = normal expected
    · simp [h]
    · simp only [if_neg h, mismatch.injEq, Option.some.injEq]
      constructor
      · rintro ⟨rfl, rfl⟩
        exact ⟨token, rfl, h, rfl, rfl⟩
      · rintro ⟨_, rfl, -, rfl, rfl⟩
        exact ⟨rfl, rfl⟩

end

/-- What is stored as observed is a hash in upper case. -/
theorem isUpperHash_of_observed? {stdout expected observed : String}
    (h : (check stdout expected).observed? = some observed) : IsUpperHash observed := by
  cases hcheck : check stdout expected with
  | pass o =>
    obtain ⟨token, htoken, hsame, ho⟩ := check_eq_pass_iff.mp hcheck
    rw [hcheck] at h
    cases h
    rw [ho, ← hsame]
    exact (isHash_of_extract htoken).isUpperHash
  | mismatch o w =>
    obtain ⟨token, htoken, -, ho, -⟩ := check_eq_mismatch_iff.mp hcheck
    rw [hcheck] at h
    cases h
    rw [ho]
    exact (isHash_of_extract htoken).isUpperHash
  | malformedOutput w =>
    rw [hcheck] at h
    cases h

/-- Nothing passes for an expected text that is no hash. -/
theorem isPass_check_of_not_isHash {expected : String} (h : ¬IsHash (Text.trim expected.toList))
    (stdout : String) : (check stdout expected).isPass = false := by
  cases hcheck : check stdout expected with
  | pass o =>
    obtain ⟨token, htoken, hsame, -⟩ := check_eq_pass_iff.mp hcheck
    exact absurd (isHash_of_normal_eq (isHash_of_extract htoken) hsame) h
  | mismatch o w => rfl
  | malformedOutput w => rfl

/-- Only the normal form of what is expected counts. -/
theorem check_congr {expected other : String} (h : normal expected = normal other) (stdout : String) :
    check stdout expected = check stdout other := by
  rw [check_eq, check_eq, h]

/-- Only the normal form of what is found counts. -/
theorem check_recased {stdout : String} {before token token' rest : List Char}
    (h : FirstFrom [] stdout.toList before (label ++ token ++ rest) token)
    (hcase : SameButCase token token') (expected : String) :
    check (String.ofList (before ++ (label ++ token' ++ rest))) expected = check stdout expected := by
  have htoken := (HashLine.extract_eq_some_iff_firstFrom _ _).mpr ⟨_, _, h⟩
  have htoken' := (HashLine.extract_eq_some_iff_firstFrom _ _).mpr ⟨_, _, h.recased hcase⟩
  have hnormal : normal (String.ofList token) = normal (String.ofList token') := by
    refine normal_congr ?_
    rw [String.toList_ofList, String.toList_ofList]
    exact hcase
  rw [check_eq, check_eq, String.toList_ofList, htoken, htoken']
  simp only [hnormal]

/-- **A verdict is exact.**  An output with no hash is malformed; otherwise the normal form of the first
hash in it is that of what is expected, and the case passes, or it is not, and both are kept as they
differ.  What is kept as observed is always 32 digits in upper case, so nothing passes for an expected text
that is not 32 digits between blanks.

**A verdict does not see the case of letters.**  It stays the same, with all that is kept in it, when
letters of the expected text change their case, when blanks are put around it, and when letters of the
token change their case on the first hash line, which can be pointed at whenever there is a hash. -/
theorem check_exact (stdout expected : String) :
    ((∀ wanted, check stdout expected = .malformedOutput wanted ↔
        extract stdout.toList = none ∧ wanted = normal expected) ∧
      (∀ observed, check stdout expected = .pass observed ↔
        ∃ token, extract stdout.toList = some token ∧
          normal (String.ofList token) = normal expected ∧ observed = normal expected) ∧
      (∀ observed wanted, check stdout expected = .mismatch observed wanted ↔
        ∃ token, extract stdout.toList = some token ∧
          normal (String.ofList token) ≠ normal expected ∧
          observed = normal (String.ofList token) ∧ wanted = normal expected) ∧
      (∀ observed, (check stdout expected).observed? = some observed → IsUpperHash observed) ∧
      (¬IsHash (Text.trim expected.toList) → (check stdout expected).isPass = false)) ∧
    (∀ other, SameButCase expected.toList other.toList →
      check stdout other = check stdout expected) ∧
    (∀ before after : String, (∀ c ∈ before.toList, Text.isBlank c = true) →
      (∀ c ∈ after.toList, Text.isBlank c = true) →
      check stdout (before ++ expected ++ after) = check stdout expected) ∧
    (∀ token, extract stdout.toList = some token →
      ∃ before rest, FirstFrom [] stdout.toList before (label ++ token ++ rest) token) ∧
    ∀ before token rest token',
      FirstFrom [] stdout.toList before (label ++ token ++ rest) token → SameButCase token token' →
      check (String.ofList (before ++ (label ++ token' ++ rest))) expected = check stdout expected := by
  refine ⟨⟨?_, ?_, ?_, ?_, ?_⟩, ?_, ?_, ?_, ?_⟩
  · intro wanted
    exact check_eq_malformedOutput_iff
  · intro observed
    exact check_eq_pass_iff
  · intro observed wanted
    exact check_eq_mismatch_iff
  · intro observed h
    exact isUpperHash_of_observed? h
  · intro h
    exact isPass_check_of_not_isHash h stdout
  · intro other h
    exact check_congr (normal_congr h).symm stdout
  · intro before after hbefore hafter
    exact check_congr (normal_padded hbefore hafter expected) stdout
  · intro token h
    exact HashLine.exists_firstFrom_of_extract h
  · intro before token rest token' h hcase
    exact check_recased h hcase expected

/-- A hash line behind another line. -/
def sampleLine (digit : Char) : List Char := label ++ List.replicate 32 digit ++ ['\n']

theorem firstFrom_sample : FirstFrom [] (['x', '\n'] ++ sampleLine 'a') ['x', '\n'] (sampleLine 'a')
    (List.replicate 32 'a') := by
  have hhash : HashLine.IsHashLine (sampleLine 'a') (List.replicate 32 'a') := by
    rw [← HashLine.tokenAt_eq_some_iff]
    decide +kernel
  refine ⟨rfl, Or.inr rfl, hhash, ?_⟩
  intro y q hy hstarts hlt token hline
  -- the text starts with no hash line, and behind its first character no line starts
  match y, hlt with
  | [], _ =>
    have hnone : HashLine.tokenAt (['x', '\n'] ++ sampleLine 'a') = none := by
      decide +kernel
    rw [List.nil_append] at hy
    rw [← hy, ← HashLine.tokenAt_eq_some_iff, hnone] at hline
    cases hline
  | [c], _ =>
    obtain ⟨rfl, -⟩ := List.cons.inj hy
    rw [Text.startsLine_concat] at hstarts
    exact absurd hstarts (by decide)

theorem sameButCase_sample : SameButCase (List.replicate 32 'a') (List.replicate 32 'A') := by
  have hreplicate : ∀ n, SameButCase (List.replicate n 'a') (List.replicate n 'A') := by
    intro n
    induction n with
    | zero => exact .nil
    | succ n ih => exact .cons (.raised 0) ih
  exact hreplicate 32

/-- The hash line may change to capital letters, and what is expected may have blanks around it. -/
theorem check_exact_sample :
    FirstFrom [] (['x', '\n'] ++ sampleLine 'a') ['x', '\n'] (sampleLine 'a')
        (List.replicate 32 'a') ∧
      SameButCase (List.replicate 32 'a') (List.replicate 32 'A') ∧
      check (String.ofList (['x', '\n'] ++ sampleLine 'a')) (String.ofList (List.replicate 32 'a')) =
        .pass (String.ofList (List.replicate 32 'A')) ∧
      check (String.ofList (['x', '\n'] ++ sampleLine 'A'))
          ("\t" ++ String.ofList (List.replicate 32 'a') ++ "\u00A0") =
        .pass (String.ofList (List.replicate 32 'A')) := by
  obtain ⟨⟨-, hpass, -⟩, -, -, -, hrecased⟩ := check_exact
    (String.ofList (['x', '\n'] ++ sampleLine 'a')) (String.ofList (List.replicate 32 'a'))
  obtain ⟨-, -, hpadded, -⟩ := check_exact
    (String.ofList (['x', '\n'] ++ sampleLine 'A')) (String.ofList (List.replicate 32 'a'))
  have hfirst := firstFrom_sample
  rw [← String.toList_ofList (l := ['x', '\n'] ++ sampleLine 'a')] at hfirst
  have hplain := (hpass (String.ofList (List.replicate 32 'A'))).mpr
    ⟨List.replicate 32 'a', by decide +kernel, by decide +kernel, by decide +kernel⟩
  refine ⟨firstFrom_sample, sameButCase_sample, hplain, ?_⟩
  have htab : "\t".toList.all Text.isBlank = true := by decide +kernel
  have hspace : "\u00A0".toList.all Text.isBlank = true := by decide +kernel
  rw [hpadded "\t" "\u00A0" (List.all_eq_true.mp htab) (List.all_eq_true.mp hspace), ← hplain]
  exact hrecased _ _ _ _ hfirst sameButCase_sample

end Verdict

end HashReplay
