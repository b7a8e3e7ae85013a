import HashReplay.Json.Reader
import HashReplay.Json.Writer

/-!
# Written texts are read back

Reading takes a written text from the front of any text, whatever follows it: each character is found
again by the form in which it is written, and the first quote that is not part of such a form is the
closing one.

A value that is written is also *flat*: it holds no control below U+0020, so it stays on one line.

## Main definitions

* `EndsValue` — what may follow a value inside other values, and at the end of a text.
* `Reads` — a reader takes a written value from the front of every text that may follow it.
* `Flat` — a text without controls below U+0020.

## Main results

* `readText_escaped` — a written text is read back.
* `flat_text`, `flat_array`, `flat_object` — written values are flat if their parts are.
-/

namespace HashReplay.Json

/-- What may follow a value: nothing, or a comma or a closing bracket. -/
def EndsValue : List Char → Prop
  | [] => True
  | c :: _ => c = ',' ∨ c = ']' ∨ c = '\x7d'

theorem endsValue_comma (s : List Char) : EndsValue (',' :: s) := Or.inl rfl

theorem endsValue_bracket (s : List Char) : EndsValue (']' :: s) := Or.inr (Or.inl rfl)

theorem endsValue_brace (s : List Char) : EndsValue ('\x7d' :: s) := Or.inr (Or.inr rfl)

/-- Reading takes `written` from the front of a text, makes `a` of it and leaves the rest. -/
def Reads (read : List Char → Result α) (written : List Char) (a : α) : Prop :=
  ∀ rest, EndsValue rest → read (written ++ rest) = .ok (a, rest)

/-! ### Characters -/

/-- **The three written forms** of a character: an escape of two characters, the code of a control, and
the character itself. -/
theorem escape_cases (c : Char) :
    (∃ e, escape c = ['\\', e] ∧ e ≠ 'u' ∧ 0x20 ≤ e.toNat ∧ shortEscape? e = some c) ∨
      (c.toNat < 0x20 ∧
        escape c = ['\\', 'u', '0', '0', hexDigit (c.toNat / 16), hexDigit (c.toNat % 16)]) ∨
      (c ≠ '"' ∧ c ≠ '\\' ∧ 0x20 ≤ c.toNat ∧ escape c = [c]) := by
  unfold escape
  split
  · subst c; exact Or.inl ⟨'"', by decide⟩
  split
  · subst c; exact Or.inl ⟨'\\', by decide⟩
  split
  · subst c; exact Or.inl ⟨'b', by decide⟩
  split
  · subst c; exact Or.inl ⟨'f', by decide⟩
  split
  · subst c; exact Or.inl ⟨'n', by decide⟩
  split
  · subst c; exact Or.inl ⟨'r', by decide⟩
  split
  · subst c; exact Or.inl ⟨'t', by decide⟩
  rename_i hquote hback _ _ _ _ _
  split
  · rename_i hcontrol
    exact Or.inr (Or.inl ⟨hcontrol, rfl⟩)
  · rename_i hplain
    exact Or.inr (Or.inr ⟨hquote, hback, Nat.le_of_not_lt hplain, rfl⟩)

/-- The code of a control, as four digits, is the control again. -/
theorem hexValue4?_hexDigit : ∀ n < 32,
    hexValue4? '0' '0' (hexDigit (n / 16)) (hexDigit (n % 16)) = some n := by
  decide

/-- The code of a control is no half of a pair. -/
theorem not_surrogate_of_lt {n : Nat} (h : n < 0x20) :
    isLowSurrogate n = false ∧ isHighSurrogate n = false := by
  have hlow : ¬0xDC00 ≤ n := by omega
  have hhigh : ¬0xD800 ≤ n := by omega
  simp [isLowSurrogate, isHighSurrogate, hlow, hhigh]

/-- **A written character is read back**, and reading goes on behind it. -/
theorem readText_escape (c : Char) (s : List Char) :
    readText (escape c ++ s) = push c (readText s) := by
  rcases escape_cases c with ⟨e, hform, hu, -, he⟩ | ⟨hcontrol, hform⟩ | ⟨hquote, hback, hplain, hform⟩
  · rw [hform, List.cons_append, List.cons_append, List.nil_append, readText.eq_def]
    simp [he]
  · obtain ⟨hlow, hhigh⟩ := not_surrogate_of_lt hcontrol
    have hcode := hexValue4?_hexDigit c.toNat hcontrol
    rw [hform, readText.eq_def]
    simp [hcode, hlow, hhigh, Char.ofNat_toNat]
  · rw [hform, List.cons_append, List.nil_append, readText.eq_def]
    simp [hquote, hback, Nat.not_lt.mpr hplain]

/-- A quote that stands for itself closes the text. -/
theorem readText_quote (s : List Char) : readText ('"' :: s) = .ok ([], s) := by
  rw [readText.eq_def]
  simp

/-- **A written text is read back** after its opening quote, whatever follows its closing quote. -/
theorem readText_escaped (s rest : List Char) :
    readText (s.flatMap escape ++ '"' :: rest) = .ok (s, rest) := by
  induction s with
  | nil => exact readText_quote rest
  | cons c s ih => rw [List.flatMap_cons, List.append_assoc, readText_escape, ih, push]

/-! ### Values -/

/-- A text that starts with no blank is left as it is. -/
theorem skipSpace_cons {c : Char} (h : isSpace c = false) (s : List Char) :
    skipSpace (c :: s) = c :: s := by
  rw [skipSpace, List.dropWhile_cons_of_neg (by rw [h]; exact Bool.false_ne_true)]

/-- The head of a written text is that text. -/
theorem readHead_text (s rest : List Char) : readHead (text s ++ rest) = .ok (.text s, rest) := by
  have hspace : isSpace '"' = false := by decide
  have hbody : s.flatMap escape ++ ['"'] ++ rest = s.flatMap escape ++ '"' :: rest := by simp
  rw [text, List.cons_append, hbody, readHead, skipSpace_cons hspace]
  simp [readText_escaped, ofFault, Except.map]

/-- The head of an array is its kind; its elements follow. -/
theorem readHead_bracket (s : List Char) : readHead ('[' :: s) = .ok (.array, s) := by
  have hspace : isSpace '[' = false := by decide
  rw [readHead, skipSpace_cons hspace]
  simp

/-- The head of an object is its kind; its members follow. -/
theorem readHead_brace (s : List Char) : readHead ('\x7b' :: s) = .ok (.object, s) := by
  have hspace : isSpace '\x7b' = false := by decide
  rw [readHead, skipSpace_cons hspace]
  simp

/-- A text is read back as a text. -/
theorem reads_readString (s : String) : Reads readString (text s.toList) s := by
  intro rest _
  rw [readString, readHead_text]
  simp

/-! ### Flat texts -/

/-- A text without controls below U+0020. -/
def Flat (s : List Char) : Prop := ∀ c ∈ s, 0x20 ≤ c.toNat

theorem flat_nil : Flat [] := fun _ hc => absurd hc List.not_mem_nil

theorem flat_cons {c : Char} {s : List Char} : Flat (c :: s) ↔ 0x20 ≤ c.toNat ∧ Flat s :=
  List.forall_mem_cons

theorem flat_append {s t : List Char} : Flat (s ++ t) ↔ Flat s ∧ Flat t := List.forall_mem_append

/-- A flat text has no line feed. -/
theorem Flat.lineFeed_not_mem {s : List Char} (h : Flat s) : '\n' ∉ s := by
  intro hfeed
  exact absurd (h _ hfeed) (by decide)

/-- Digits are flat. -/
theorem flat_of_isDigit {s : List Char} (h : ∀ c ∈ s, c.isDigit = true) : Flat s := by
  intro c hc
  have hdigit := h c hc
  simp only [Char.isDigit, Bool.and_eq_true, decide_eq_true_eq] at hdigit
  have hlow : 48 ≤ c.val.toNat := UInt32.le_iff_toNat_le.mp hdigit.1
  change 32 ≤ c.val.toNat
  omega

/-- A hexadecimal digit is no control. -/
theorem le_toNat_hexDigit : ∀ n < 16, 0x20 ≤ (hexDigit n).toNat := by
  decide

/-- No control is left in the written form of a character. -/
theorem flat_escape (c : Char) : Flat (escape c) := by
  rcases escape_cases c with ⟨e, hform, -, he, -⟩ | ⟨hcontrol, hform⟩ | ⟨-, -, hplain, hform⟩
  · rw [hform, flat_cons, flat_cons]
    exact ⟨by decide, he, flat_nil⟩
  · have hfirst := le_toNat_hexDigit (c.toNat / 16) (by omega)
    have hsecond := le_toNat_hexDigit (c.toNat % 16) (by omega)
    rw [hform]
    simp only [flat_cons]
    exact ⟨by decide, by decide, by decide, by decide, hfirst, hsecond, flat_nil⟩
  · rw [hform, flat_cons]
    exact ⟨hplain, flat_nil⟩

/-- **A written text is flat**, whatever the text. -/
theorem flat_text (s : List Char) : Flat (text s) := by
  have hbody : Flat (s.flatMap escape) := by
    intro d hd
    obtain ⟨c, -, hc⟩ := List.mem_flatMap.mp hd
    exact flat_escape c d hc
  rw [text, flat_cons, flat_append, flat_cons]
  exact ⟨by decide, hbody, by decide, flat_nil⟩

/-- Written values one after another, each after a comma but the first of all. -/
def separated (first : Bool) : List (List Char) → List Char
  | [] => []
  | v :: vs => (if first then v else ',' :: v) ++ separated false vs

theorem commaSeparated_eq_separated (vs : List (List Char)) :
    commaSeparated vs = separated true vs := by
  cases vs with
  | nil => rfl
  | cons v vs =>
    induction vs generalizing v with
    | nil => simp [commaSeparated, separated]
    | cons w ws ih =>
      have hcut : commaSeparated (v :: w :: ws) = v ++ ',' :: commaSeparated (w :: ws) := by
        simp [commaSeparated, List.intercalate, List.intersperse]
      rw [hcut, ih]
      simp [separated]

theorem flat_separated {vs : List (List Char)} (h : ∀ v ∈ vs, Flat v) (first : Bool) :
    Flat (separated first vs) := by
  induction vs generalizing first with
  | nil => exact flat_nil
  | cons v vs ih =>
    have hv : Flat v := h v List.mem_cons_self
    have hvs : Flat (separated false vs) := ih (fun w hw => h w (List.mem_cons_of_mem v hw)) false
    rw [separated, flat_append]
    cases first with
    | true => exact ⟨hv, hvs⟩
    | false => exact ⟨flat_cons.mpr ⟨by decide, hv⟩, hvs⟩

theorem flat_commaSeparated {vs : List (List Char)} (h : ∀ v ∈ vs, Flat v) :
    Flat (commaSeparated vs) := by
  rw [commaSeparated_eq_separated]
  exact flat_separated h true

/-- **A written array is flat** if its elements are. -/
theorem flat_array {vs : List (List Char)} (h : ∀ v ∈ vs, Flat v) : Flat (array vs) := by
  rw [array, flat_cons, flat_append, flat_cons]
  exact ⟨by decide, flat_commaSeparated h, by decide, flat_nil⟩

/-- **A written object is flat** if the values of its members are, whatever their names. -/
theorem flat_object {ms : List (String × List Char)} (h : ∀ m ∈ ms, Flat m.2) : Flat (object ms) := by
  have hmembers : ∀ v ∈ ms.map member, Flat v := by
    intro v hv
    obtain ⟨m, hm, rfl⟩ := List.mem_map.mp hv
    rw [member, flat_append, flat_cons]
    exact ⟨flat_text _, by decide, h m hm⟩
  rw [object, flat_cons, flat_append, flat_cons]
  exact ⟨by decide, flat_commaSeparated hmembers, by decide, flat_nil⟩

end HashReplay.Json
