import HashReplay.Proofs.Text.LetterCase
import HashReplay.Proofs.Text.Numeral
import HashReplay.Verbosity

/-!
# The grammar of verbosities

A verbosity is asked for by its number or by its label.  A text is tried as a number first, and as a label
only if it is no number below 256; so one and the same text may be out of range as a number, but is never
out of range and a label, as no label starts like a number.

What is accepted, and which of the two complaints is made otherwise, is a grammar of the text without the
blanks around it.

## Main definitions

* `Names` — the texts that stand for a level.
* `OutOfRange` — the texts that write a number which is no level.

## Main results

* `parse_eq_ok_iff`, `parse_eq_levelOutOfRange_iff`, `parse_eq_unknown_iff` — what comes of a text.
* `parse_grammar` — the grammar, with the complaints as they are worded.
-/

namespace HashReplay.Verbosity

open Text (trim readNat IsNumeral SameButCase)

/-! ### Levels and labels -/

theorem level_lt_four (v : Verbosity) : v.level < 4 := by cases v <;> decide

theorem ofLevel?_eq_some_iff {n : Nat} {v : Verbosity} : ofLevel? n = some v ↔ v.level = n := by
  constructor
  · intro h
    match n, h with
    | 0, h => cases h; rfl
    | 1, h => cases h; rfl
    | 2, h => cases h; rfl
    | 3, h => cases h; rfl
    | _ + 4, h => cases h
  · rintro rfl
    exact ofLevel?_level v

theorem ofLevel?_eq_none_iff {n : Nat} : ofLevel? n = Option.none ↔ 4 ≤ n := by
  rw [Option.eq_none_iff_forall_ne_some]
  constructor
  · intro h
    by_contra hlt
    have hsome : ∀ n < 4, (ofLevel? n).isSome := by decide
    obtain ⟨v, hv⟩ := Option.isSome_iff_exists.mp (hsome n (by omega))
    exact h v hv
  · intro h v hv
    have hlt := level_lt_four v
    rw [ofLevel?_eq_some_iff] at hv
    omega

theorem ofLabel?_eq_some_iff {s : String} {v : Verbosity} : ofLabel? s = some v ↔ v.label = s := by
  constructor
  · intro h
    unfold ofLabel? at h
    split at h
    · next hs => cases h; exact hs.symm
    split at h
    · next hs => cases h; exact hs.symm
    split at h
    · next hs => cases h; exact hs.symm
    split at h
    · next hs => cases h; exact hs.symm
    · cases h
  · rintro rfl
    exact ofLabel?_label v

/-- A text in lower case is a label if the text is one up to the case of letters. -/
theorem ofLabel?_toLower_eq_some_iff {t : List Char} {v : Verbosity} :
    ofLabel? (String.ofList (t.map Char.toLower)) = some v ↔ SameButCase v.label.toList t := by
  have hlower : v.label.toList.map Char.toLower = v.label.toList := by
    cases v <;> decide
  rw [ofLabel?_eq_some_iff, Text.sameButCase_iff hlower, ← String.toList_inj, String.toList_ofList]
  exact eq_comm

/-- How labels start, in upper case. -/
theorem exists_head?_of_label {t : List Char} {v : Verbosity} (h : SameButCase v.label.toList t) :
    ∃ c ∈ t.head?, c.toUpper ∈ ['N', 'C', 'D'] := by
  have hfirst : ∃ c ∈ (v.label.toList.map Char.toUpper).head?, c ∈ ['N', 'C', 'D'] := by
    cases v with
    | none => exact ⟨'N', by decide⟩
    | normal => exact ⟨'N', by decide⟩
    | chatty => exact ⟨'C', by decide⟩
    | debug => exact ⟨'D', by decide⟩
  obtain ⟨d, hd, hletter⟩ := hfirst
  rw [h.map_toUpper_eq, List.head?_map] at hd
  obtain ⟨c, hc, rfl⟩ := Option.mem_map.mp hd
  exact ⟨c, hc, hletter⟩

/-- No label is a number: neither a plus sign nor a digit becomes a letter in upper case. -/
theorem not_isNumeral_of_label {t : List Char} {v : Verbosity} (h : SameButCase v.label.toList t)
    (n : Nat) : ¬IsNumeral t n := by
  intro hnumeral
  obtain ⟨c, hc, hletter⟩ := exists_head?_of_label h
  obtain ⟨d, hd, hstart⟩ := hnumeral.head?
  obtain rfl : c = d := Option.mem_unique hc hd
  rcases hstart with rfl | hdigit
  · exact absurd hletter (by decide)
  · have hall : ∀ k < 10, (Nat.digitChar k).toUpper ∉ ['N', 'C', 'D'] := by decide
    obtain ⟨hchar, hsmall⟩ := Text.digitChar_of_isDigit hdigit
    have hnone := hall _ hsmall
    rw [hchar] at hnone
    exact hnone hletter

/-! ### What comes of a text -/

/-- The texts that stand for a level: its digit, with any number of zeros and perhaps a plus sign in
front, and its label in any case of letters. -/
inductive Names : List Char → Verbosity → Prop
  | level {v : Verbosity} {sign : List Char} (hsign : sign = [] ∨ sign = ['+']) (zeros : Nat) :
    Names (sign ++ List.replicate zeros '0' ++ [Nat.digitChar v.level]) v
  | label {v : Verbosity} {t : List Char} (h : SameButCase v.label.toList t) : Names t v

/-- A number that is no level, but below 256. -/
def OutOfRange (t : List Char) (n : Nat) : Prop := IsNumeral t n ∧ 4 ≤ n ∧ n ≤ 255

/-- A level is named by a number or by a label. -/
theorem names_iff {t : List Char} {v : Verbosity} :
    Names t v ↔ IsNumeral t v.level ∨ SameButCase v.label.toList t := by
  have hsmall : v.level < 10 := Nat.lt_of_lt_of_le (level_lt_four v) (by decide)
  have hdigits : ∀ ds : List Char, (ds ≠ [] ∧ (∀ c ∈ ds, c.isDigit = true) ∧
      Text.valueOf ds = v.level) ↔
        ∃ zeros, ds = List.replicate zeros '0' ++ [Nat.digitChar v.level] :=
    fun _ => Text.valueOf_eq_iff_of_lt_ten hsmall
  constructor
  · intro h
    cases h with
    | level hsign zeros =>
      left
      obtain ⟨hne, hds, hvalue⟩ := (hdigits _).mpr ⟨zeros, rfl⟩
      rw [List.append_assoc]
      -- only what the digits come to matters from here on
      generalize List.replicate zeros '0' ++ [Nat.digitChar v.level] = ds at hne hds hvalue
      rw [← hvalue]
      rcases hsign with rfl | rfl
      · exact .plain hne hds
      · exact .signed hne hds
    | label h => exact Or.inr h
  · rintro (h | h)
    · generalize hn : v.level = n at h
      cases h with
      | plain hne hds =>
        obtain ⟨zeros, rfl⟩ := (hdigits _).mp ⟨hne, hds, hn.symm⟩
        exact .level (Or.inl rfl) zeros
      | signed hne hds =>
        obtain ⟨zeros, rfl⟩ := (hdigits _).mp ⟨hne, hds, hn.symm⟩
        exact .level (Or.inr rfl) zeros
    · exact .label h

section

variable (s : String)

/-- A text is tried as a number, and then as a label. -/
theorem parse_cases :
    (∃ n, IsNumeral (trim s.toList) n ∧ n ≤ 255 ∧
      parse s = match ofLevel? n with
        | some v => .ok v
        | Option.none => .error (.levelOutOfRange n)) ∨
    ((∀ n, IsNumeral (trim s.toList) n → 255 < n) ∧
      parse s = match ofLabel? (String.ofList ((trim s.toList).map Char.toLower)) with
        | some v => .ok v
        | Option.none => .error (.unknown (String.ofList (trim s.toList)))) := by
  dsimp only [parse]
  -- it is no number below 256 exactly if reading one fails
  cases hread : readNat 255 (trim s.toList) with
  | ok n =>
    obtain ⟨hnumeral, hle⟩ := Text.readNat_eq_ok_iff.mp hread
    exact Or.inl ⟨n, hnumeral, hle, rfl⟩
  | error e =>
    refine Or.inr ⟨fun n hnumeral => ?_, ?_⟩
    · by_contra hle
      rw [Text.readNat_eq_ok_iff.mpr ⟨hnumeral, Nat.le_of_not_lt hle⟩] at hread
      cases hread
    · cases ofLabel? (String.ofList ((trim s.toList).map Char.toLower)) with
      | some v => rfl
      | none => rfl

variable {s}

/-- **What is accepted**, and as which level. -/
theorem parse_eq_ok_iff {v : Verbosity} : parse s = .ok v ↔ Names (trim s.toList) v := by
  have hv := level_lt_four v
  rw [names_iff]
  rcases parse_cases s with ⟨n, hnumeral, hle, hparse⟩ | ⟨hnone, hparse⟩
  · rw [hparse]
    constructor
    · intro h
      split at h
      · next w hw =>
        cases h
        rw [ofLevel?_eq_some_iff.mp hw]
        exact Or.inl hnumeral
      · cases h
    · rintro (h | h)
      · rw [ofLevel?_eq_some_iff.mpr (h.unique hnumeral)]
      · exact absurd hnumeral (not_isNumeral_of_label h n)
  · rw [hparse]
    constructor
    · intro h
      split at h
      · next w hw =>
        cases h
        exact Or.inr (ofLabel?_toLower_eq_some_iff.mp hw)
      · cases h
    · rintro (h | h)
      · have hbig := hnone _ h
        omega
      · rw [ofLabel?_toLower_eq_some_iff.mpr h]

/-- **What is out of range.** -/
theorem parse_eq_levelOutOfRange_iff {n : Nat} :
    parse s = .error (.levelOutOfRange n) ↔ OutOfRange (trim s.toList) n := by
  rcases parse_cases s with ⟨m, hnumeral, hle, hparse⟩ | ⟨hnone, hparse⟩
  · rw [hparse]
    constructor
    · intro h
      split at h
      · cases h
      · next hlevel =>
        cases h
        exact ⟨hnumeral, ofLevel?_eq_none_iff.mp hlevel, hle⟩
    · rintro ⟨hn, hfour, -⟩
      rw [hnumeral.unique hn, ofLevel?_eq_none_iff.mpr hfour]
  · rw [hparse]
    constructor
    · intro h
      split at h <;> cases h
    · rintro ⟨hn, -, hle⟩
      have hbig := hnone n hn
      omega

/-- A text that is neither a number below 256 nor a label is not known. -/
theorem parse_eq_unknown_of (hnumeral : ∀ n, IsNumeral (trim s.toList) n → 255 < n)
    (hlabel : ∀ v : Verbosity, ¬SameButCase v.label.toList (trim s.toList)) :
    parse s = .error (.unknown (String.ofList (trim s.toList))) := by
  rcases parse_cases s with ⟨n, hn, hle, -⟩ | ⟨-, hparse⟩
  · have hbig := hnumeral n hn
    omega
  · have hnone : ofLabel? (String.ofList ((trim s.toList).map Char.toLower)) = Option.none := by
      rw [Option.eq_none_iff_forall_ne_some]
      intro v hv
      exact hlabel v (ofLabel?_toLower_eq_some_iff.mp hv)
    rw [hparse, hnone]

/-- **What is not known** is everything else, and is repeated without the blanks around it. -/
theorem parse_eq_unknown_iff {t : String} : parse s = .error (.unknown t) ↔
    t = String.ofList (trim s.toList) ∧ (∀ v, ¬Names (trim s.toList) v) ∧
      ∀ n, ¬OutOfRange (trim s.toList) n := by
  constructor
  · intro h
    refine ⟨?_, fun v hv => ?_, fun n hn => ?_⟩
    · rcases parse_cases s with ⟨n, -, -, hparse⟩ | ⟨-, hparse⟩
      · rw [hparse] at h
        split at h <;> cases h
      · rw [hparse] at h
        split at h <;> cases h
        rfl
    · rw [parse_eq_ok_iff.mpr hv] at h
      cases h
    · rw [parse_eq_levelOutOfRange_iff.mpr hn] at h
      cases h
  · rintro ⟨rfl, hnames, hrange⟩
    refine parse_eq_unknown_of (fun n hn => ?_) fun v hv => hnames v (.label hv)
    -- a number below 256 is the level of its own number, or out of range
    by_contra hle
    cases hlevel : ofLevel? n with
    | some v =>
      rw [← ofLevel?_eq_some_iff.mp hlevel] at hn
      exact hnames v (names_iff.mpr (Or.inl hn))
    | none => exact hrange n ⟨hn, ofLevel?_eq_none_iff.mp hlevel, by omega⟩

/-- A minus sign in front, a plus sign alone and no text at all are neither numbers nor labels. -/
theorem parse_eq_unknown_of_head?
    (h : (trim s.toList).head? = some '-' ∨ trim s.toList = ['+'] ∨ trim s.toList = []) :
    parse s = .error (.unknown (String.ofList (trim s.toList))) := by
  refine parse_eq_unknown_of (fun n hn => ?_) fun v hv => ?_
  · obtain ⟨c, hc, hstart⟩ := hn.head?
    rcases h with hminus | hplus | hempty
    · rw [hminus] at hc
      cases hc
      exact absurd hstart (by decide)
    · rw [hplus] at hn
      exact absurd rfl (Text.isNumeral_plus_iff.mp hn).1
    · rw [hempty] at hc
      cases hc
  · obtain ⟨c, hc, hletter⟩ := exists_head?_of_label hv
    rcases h with hminus | hplus | hempty
    · rw [hminus] at hc
      cases hc
      exact absurd hletter (by decide)
    · rw [hplus] at hc
      cases hc
      exact absurd hletter (by decide)
    · rw [hempty] at hc
      cases hc

end

/-! ### Complaints -/

theorem ParseError.message_levelOutOfRange (n : Nat) :
    (ParseError.levelOutOfRange n).message = "verbosity level must be 0-3, got " ++ toString n := rfl

theorem ParseError.message_unknown (t : String) : (ParseError.unknown t).message =
    "invalid verbosity '" ++ t ++ "': expected 0-3 or one of none, normal, chatty, debug" := rfl

/-- Complaints are told apart by their wording. -/
theorem ParseError.message_inj {e e' : ParseError} : e.message = e'.message ↔ e = e' := by
  have hdiffer : ∀ n t, (ParseError.levelOutOfRange n).message ≠ (ParseError.unknown t).message := by
    intro n t h
    rw [message_levelOutOfRange, message_unknown] at h
    have hlist := congrArg String.toList h
    simp at hlist
  constructor
  · intro h
    cases e with
    | levelOutOfRange n =>
      cases e' with
      | levelOutOfRange m =>
        rw [message_levelOutOfRange, message_levelOutOfRange, String.append_right_inj] at h
        have hdigits : Text.decimal n = Text.decimal m := by
          rw [Text.decimal, Text.decimal, ← Nat.toList_repr, ← Nat.toList_repr]
          exact congrArg String.toList h
        rw [← Text.valueOf_decimal n, hdigits, Text.valueOf_decimal]
      | unknown t => exact absurd h (hdiffer n t)
    | unknown t =>
      cases e' with
      | levelOutOfRange n => exact absurd h.symm (hdiffer n t)
      | unknown u =>
        rw [message_unknown, message_unknown, String.append_left_inj, String.append_right_inj] at h
        rw [h]
  · rintro rfl
    rfl

theorem mapError_message_eq_iff {s : String} {e : ParseError} :
    (parse s).mapError ParseError.message = .error e.message ↔ parse s = .error e := by
  cases parse s with
  | ok v => simp [Except.mapError]
  | error e' => simp [Except.mapError, ParseError.message_inj]

/-- **The grammar of verbosities.**  Of a text without the blanks around it: a level comes out exactly if
it is an optional plus sign, any number of zeros and the digit of the level, or the label of the level in
any case of letters.  The complaint about the range, with a number, is made exactly if the text is an
optional plus sign and digits that write the number, which is between 4 and 255.  The other complaint, with
the text, is made for every other text: such are greater numbers, everything with a minus sign in front,
the plus sign alone and the empty text. -/
theorem parse_grammar (s : String) :
    (∀ v, parse s = .ok v ↔ Names (trim s.toList) v) ∧
    (∀ n, (parse s).mapError ParseError.message =
        .error ("verbosity level must be 0-3, got " ++ toString n) ↔ OutOfRange (trim s.toList) n) ∧
    ((parse s).mapError ParseError.message =
        .error ("invalid verbosity '" ++ String.ofList (trim s.toList) ++
          "': expected 0-3 or one of none, normal, chatty, debug") ↔
      (∀ v, ¬Names (trim s.toList) v) ∧ ∀ n, ¬OutOfRange (trim s.toList) n) ∧
    ((∃ n, IsNumeral (trim s.toList) n ∧ 256 ≤ n) ∨ (trim s.toList).head? = some '-' ∨
        trim s.toList = ['+'] ∨ trim s.toList = [] →
      parse s = .error (.unknown (String.ofList (trim s.toList)))) := by
  refine ⟨?_, ?_, ?_, ?_⟩
  · intro v
    exact parse_eq_ok_iff
  · intro n
    rw [← ParseError.message_levelOutOfRange, mapError_message_eq_iff, parse_eq_levelOutOfRange_iff]
  · rw [← ParseError.message_unknown, mapError_message_eq_iff, parse_eq_unknown_iff, eq_self, true_and]
  · rintro (⟨n, hn, hbig⟩ | hother)
    · refine parse_eq_unknown_of (fun m hm => ?_) fun v hv => not_isNumeral_of_label hv n hn
      rw [hm.unique hn]
      omega
    · exact parse_eq_unknown_of_head? hother

/-- Zeros and a sign in front, a capital letter, and numbers that are no levels. -/
example : parse " +0003\t" = .ok .debug ∧ parse "Chatty" = .ok .chatty ∧
    parse "0255" = .error (.levelOutOfRange 255) ∧ parse "256" = .error (.unknown "256") := by
  decide +kernel

end HashReplay.Verbosity
