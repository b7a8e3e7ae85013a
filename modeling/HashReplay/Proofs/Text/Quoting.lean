import HashReplay.Json.Text
import HashReplay.Text.Quoted

/-!
# Quoted texts can be told apart

A written character shows by itself where it ends: an escape of two characters has two, a code ends at
its closing brace, and any other character stands for itself.  So the characters of a quoted text can be
read back one by one, whatever follows, and the first quote that is not part of an escape ends it.  A
comma, a bracket or a quote within a text is never taken for one between texts.

All characters of a quoted text are printable, so none of them is a control.

## Main definitions

* `isControl` — the controls among the characters.
* `readChar` — take one written character from the front of a text.

## Main results

* `isPrintable_of_mem_quoteList` — quoted texts consist of printable characters.
* `readChar_escape` — a written character is read back.
* `quote_append_inj`, `quoteList_inj` — different texts, or lists of them, are quoted differently.
-/

namespace HashReplay.Text

/-- The controls: the general category `Cc`. -/
def isControl (c : Char) : Bool := c.toNat < 0x20 || (0x7F ≤ c.toNat && c.toNat < 0xA0)

/-- No printable character is a control. -/
theorem isControl_of_isPrintable {c : Char} (h : isPrintable c = true) : isControl c = false := by
  rw [← Bool.not_eq_true]
  intro hcontrol
  have hrange : c.toNat < 0x20 ∨ 0x7F ≤ c.toNat ∧ c.toNat < 0xA0 := by
    simpa [isControl] using hcontrol
  rw [not_isPrintable_of_control hrange] at h
  cases h

/-- The digits of a number are digits of its base. -/
theorem exists_of_mem_toDigits {b : Nat} (hb : 1 < b) {n : Nat} {c : Char}
    (h : c ∈ Nat.toDigits b n) : ∃ d < b, c = Nat.digitChar d := by
  induction n using Nat.strongRecOn with
  | ind n ih =>
    rw [Nat.toDigits_eq_if hb] at h
    split at h
    · next hlt => exact ⟨n, hlt, List.mem_singleton.mp h⟩
    · next hge =>
      rcases List.mem_append.mp h with hfront | hlast
      · exact ih (n / b) (Nat.div_lt_self (by omega) hb) hfront
      · exact ⟨n % b, Nat.mod_lt n (by omega), List.mem_singleton.mp hlast⟩

namespace Quoted

/-! ### Written characters -/

/-- The character of an escape of two characters, by its second one. -/
def shortEscape? (e : Char) : Option Char :=
  if e = '0' then some '\x00'
  else if e = 't' then some '\t'
  else if e = 'r' then some '\r'
  else if e = 'n' then some '\n'
  else if e = '"' then some '"'
  else if e = '\\' then some '\\'
  else none

/-- **The three written forms** of a character: an escape of two characters, its code, and the character
itself. -/
theorem escape_cases (c : Char) :
    (∃ e, escape c = ['\\', e] ∧ shortEscape? e = some c ∧ e ≠ 'u' ∧ isPrintable e = true) ∨
      escape c = escapeByCode c ∨
      (c ≠ '"' ∧ c ≠ '\\' ∧ isPrintable c = true ∧ escape c = [c]) := by
  unfold escape
  -- the escapes of two characters, in the order in which they are tried
  split
  · subst c; exact Or.inl ⟨'0', by decide⟩
  split
  · subst c; exact Or.inl ⟨'t', by decide⟩
  split
  · subst c; exact Or.inl ⟨'r', by decide⟩
  split
  · subst c; exact Or.inl ⟨'n', by decide⟩
  split
  · subst c; exact Or.inl ⟨'"', by decide⟩
  split
  · subst c; exact Or.inl ⟨'\\', by decide⟩
  split
  · exact Or.inr (Or.inl rfl)
  · next hquote hback hplain =>
    simp only [Bool.or_eq_true, Bool.not_eq_true', not_or, Bool.not_eq_false] at hplain
    exact Or.inr (Or.inr ⟨hquote, hback, hplain.2, rfl⟩)

/-! ### Printable characters -/

theorem isPrintable_of_mem_escapeByCode {c d : Char} (h : d ∈ escapeByCode c) :
    isPrintable d = true := by
  have hdigit : ∀ k < 16, isPrintable (Nat.digitChar k) = true := by decide
  have hfront : ∀ d ∈ ['\\', 'u', '\x7b'], isPrintable d = true :=
    List.all_eq_true.mp (by decide)
  have hback : ∀ d ∈ ['\x7d'], isPrintable d = true :=
    List.all_eq_true.mp (by decide)
  rw [escapeByCode, List.mem_append, List.mem_append] at h
  rcases h with (h | h) | h
  · exact hfront d h
  · obtain ⟨k, hk, rfl⟩ := exists_of_mem_toDigits (by decide) h
    exact hdigit k hk
  · exact hback d h

/-- A written character consists of printable ones. -/
theorem isPrintable_of_mem_escape {c d : Char} (h : d ∈ escape c) : isPrintable d = true := by
  have hslash : isPrintable '\\' = true := by decide
  rcases escape_cases c with ⟨e, hform, -, -, he⟩ | hform | ⟨-, -, hc, hform⟩
  · rw [hform, List.mem_cons, List.mem_singleton] at h
    rcases h with rfl | rfl
    · exact hslash
    · exact he
  · exact isPrintable_of_mem_escapeByCode (hform ▸ h)
  · rw [hform, List.mem_singleton] at h
    rwa [h]

theorem isPrintable_of_mem_quote {s : List Char} {d : Char} (h : d ∈ quote s) :
    isPrintable d = true := by
  have hquote : isPrintable '"' = true := by decide
  rw [quote, List.mem_cons, List.mem_append, List.mem_flatMap, List.mem_singleton] at h
  rcases h with rfl | ⟨c, -, hc⟩ | rfl
  · exact hquote
  · exact isPrintable_of_mem_escape hc
  · exact hquote

/-! ### Reading back -/

/-- The number that hexadecimal digits write. -/
def codeOf (ds : List Char) : Nat := ds.foldl (fun n d => n * 16 + (Json.hexValue? d).getD 0) 0

/-- Take one written character from the front of a text.  A quote that stands for itself is none. -/
def readChar : List Char → Option (Char × List Char)
  | [] => none
  | '"' :: _ => none
  | '\\' :: 'u' :: '\x7b' :: s =>
    some (Char.ofNat (codeOf (s.takeWhile (· != '\x7d'))), (s.dropWhile (· != '\x7d')).drop 1)
  | '\\' :: e :: s => (shortEscape? e).map fun c => (c, s)
  | c :: s => some (c, s)

theorem codeOf_toDigits (n : Nat) : codeOf (Nat.toDigits 16 n) = n := by
  have hdigit : ∀ d < 16, Json.hexValue? (Nat.digitChar d) = some d := by decide
  induction n using Nat.strongRecOn with
  | ind n ih =>
    rw [Nat.toDigits_eq_if (by decide)]
    split
    · next hlt => simp [codeOf, hdigit n hlt]
    · next hge =>
      have hfront : codeOf (Nat.toDigits 16 (n / 16)) = n / 16 := ih (n / 16) (by omega)
      unfold codeOf at hfront ⊢
      rw [List.foldl_append, hfront]
      simp [hdigit (n % 16) (by omega)]
      omega

/-- A code ends at its closing brace. -/
theorem readChar_escapeByCode (c : Char) (rest : List Char) :
    readChar (escapeByCode c ++ rest) = some (c, rest) := by
  have hdigits : ∀ d ∈ Nat.toDigits 16 c.toNat, (d != '\x7d') = true := by
    have hall : ∀ k < 16, (Nat.digitChar k != '\x7d') = true := by decide
    intro d hd
    obtain ⟨k, hk, rfl⟩ := exists_of_mem_toDigits (by decide) hd
    exact hall k hk
  have htake : (Nat.toDigits 16 c.toNat ++ '\x7d' :: rest).takeWhile (· != '\x7d') =
      Nat.toDigits 16 c.toNat := by
    rw [List.takeWhile_append_of_pos hdigits]
    simp
  have hdrop : (Nat.toDigits 16 c.toNat ++ '\x7d' :: rest).dropWhile (· != '\x7d') =
      '\x7d' :: rest := by
    rw [List.dropWhile_append_of_pos hdigits]
    simp
  simp only [escapeByCode, List.append_assoc, List.cons_append, List.nil_append, readChar]
  rw [htake, hdrop, codeOf_toDigits, Char.ofNat_toNat, List.drop_one, List.tail_cons]

/-- **A written character is read back**, and what follows it is left. -/
theorem readChar_escape (c : Char) (rest : List Char) :
    readChar (escape c ++ rest) = some (c, rest) := by
  rcases escape_cases c with ⟨e, hform, he, hu, -⟩ | hform | ⟨hquote, hback, -, hform⟩
  · rw [hform, List.cons_append, List.cons_append, List.nil_append, readChar.eq_def]
    simp [he, hu]
  · rw [hform]
    exact readChar_escapeByCode c rest
  · rw [hform, List.cons_append, List.nil_append, readChar.eq_def]
    simp [hback]

/-- A quote that stands for itself is no written character. -/
theorem readChar_quote (rest : List Char) : readChar ('"' :: rest) = none := rfl

/-! ### Telling apart -/

theorem readChar_flatMap_cons (c : Char) (s rest : List Char) :
    readChar ((c :: s).flatMap escape ++ rest) = some (c, s.flatMap escape ++ rest) := by
  rw [List.flatMap_cons, List.append_assoc, readChar_escape]

/-- No written character starts with a quote that stands for itself. -/
theorem flatMap_cons_ne_quote (c : Char) (s rest rest' : List Char) :
    (c :: s).flatMap escape ++ rest ≠ '"' :: rest' := by
  intro h
  have hread := congrArg readChar h
  rw [readChar_flatMap_cons, readChar_quote] at hread
  cases hread

/-- The characters of a text end at the first quote that stands for itself. -/
theorem flatMap_escape_inj {s t rest rest' : List Char}
    (h : s.flatMap escape ++ '"' :: rest = t.flatMap escape ++ '"' :: rest') :
    s = t ∧ rest = rest' := by
  -- in step along both texts: each side is read by one character
  induction s generalizing t with
  | nil =>
    cases t with
    | nil => simpa using h
    | cons d t => exact absurd h.symm (flatMap_cons_ne_quote d t _ rest)
  | cons c s ih =>
    cases t with
    | nil => exact absurd h (flatMap_cons_ne_quote c s _ rest')
    | cons d t =>
      have hread := congrArg readChar h
      rw [readChar_flatMap_cons, readChar_flatMap_cons, Option.some.injEq, Prod.mk.injEq] at hread
      obtain ⟨rfl, hrest⟩ := hread
      obtain ⟨rfl, rfl⟩ := ih hrest
      exact ⟨rfl, rfl⟩

/-- **No quoted text is the start of another one.** -/
theorem quote_append_inj {s t rest rest' : List Char} (h : quote s ++ rest = quote t ++ rest') :
    s = t ∧ rest = rest' := by
  simp only [quote, List.cons_append, List.append_assoc, List.nil_append, List.cons.injEq,
    true_and] at h
  exact flatMap_escape_inj h

/-- What follows a quoted text in a list: the other texts, and the closing bracket. -/
def following : List (List Char) → List Char
  | [] => [']']
  | s :: ss => ',' :: ' ' :: (quote s ++ following ss)

@[simp] theorem quoteList_nil : quoteList [] = ['[', ']'] := rfl

@[simp] theorem quoteList_cons (s : List Char) (ss : List (List Char)) :
    quoteList (s :: ss) = '[' :: (quote s ++ following ss) := by
  have hitems : ∀ s, [',', ' '].intercalate ((s :: ss).map quote) ++ [']'] =
      quote s ++ following ss := by
    induction ss with
    | nil => simp [following]
    | cons t ss ih =>
      intro s
      have htail := ih t
      rw [List.map_cons] at htail
      rw [List.map_cons, List.map_cons, List.intercalate_cons_cons, List.append_assoc,
        List.append_assoc, htail]
      rfl
  rw [quoteList, hitems]

theorem isPrintable_of_mem_following {ss : List (List Char)} {d : Char} (h : d ∈ following ss) :
    isPrintable d = true := by
  have hframe : ∀ d ∈ [',', ' ', ']'], isPrintable d = true :=
    List.all_eq_true.mp (by decide)
  induction ss with
  | nil => exact hframe d (by simp_all [following])
  | cons s ss ih =>
    simp only [following, List.mem_cons, List.mem_append] at h
    rcases h with rfl | rfl | hquote | hrest
    · exact hframe ',' (by simp)
    · exact hframe ' ' (by simp)
    · exact isPrintable_of_mem_quote hquote
    · exact ih hrest

/-- **Quoted texts are printable**, whatever the texts hold. -/
theorem isPrintable_of_mem_quoteList {ss : List (List Char)} {d : Char} (h : d ∈ quoteList ss) :
    isPrintable d = true := by
  have hframe : ∀ d ∈ ['[', ']'], isPrintable d = true :=
    List.all_eq_true.mp (by decide)
  cases ss with
  | nil => exact hframe d h
  | cons s ss =>
    simp only [quoteList_cons, List.mem_cons, List.mem_append] at h
    rcases h with rfl | hquote | hrest
    · exact hframe '[' (by simp)
    · exact isPrintable_of_mem_quote hquote
    · exact isPrintable_of_mem_following hrest

theorem following_inj {ss ts : List (List Char)} (h : following ss = following ts) : ss = ts := by
  induction ss generalizing ts with
  | nil =>
    cases ts with
    | nil => rfl
    | cons t ts => simp [following] at h
  | cons s ss ih =>
    cases ts with
    | nil => simp [following] at h
    | cons t ts =>
      simp only [following, List.cons.injEq, true_and] at h
      obtain ⟨rfl, hrest⟩ := quote_append_inj h
      rw [ih hrest]

/-- **Different lists of texts are quoted differently.** -/
theorem quoteList_inj {ss ts : List (List Char)} : quoteList ss = quoteList ts ↔ ss = ts := by
  constructor
  · intro h
    cases ss with
    | nil =>
      cases ts with
      | nil => rfl
      | cons t ts => simp [quote] at h
    | cons s ss =>
      cases ts with
      | nil => simp [quote] at h
      | cons t ts =>
        simp only [quoteList_cons, List.cons.injEq, true_and] at h
        obtain ⟨rfl, hrest⟩ := quote_append_inj h
        rw [following_inj hrest]
  · rintro rfl
    rfl

end Quoted

end HashReplay.Text
