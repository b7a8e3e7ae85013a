/-!
# Blank characters, trimming and words

A character is blank when it has the Unicode property `White_Space`.  Trimming drops the blank
characters at both ends of a text, and the words of a text are its longest runs of characters that
are not blank.

## Main definitions

* `isBlank` — the property, as a table of ranges.
* `trim` — a text without the blanks at its ends.
* `pieces` — a text cut at every character that a test accepts.
* `words` — the non-empty pieces between blanks.

## Main results

* `trim_padded`, `exists_padding` — trimming takes away the blanks around a text, and nothing else.
* `length_pieces` — how many pieces there are.
-/

namespace HashReplay.Text

/-! ### The property -/

/-- The characters with the property `White_Space`: the five controls from tab to carriage return,
next line, the ordinary and the no-break space, and the spaces and separators of the general
punctuation block and its neighbours. -/
def isBlank (c : Char) : Bool :=
  let n := c.toNat
  (0x9 ≤ n && n ≤ 0xD) || n == 0x20 || n == 0x85 || n == 0xA0 || n == 0x1680 ||
    (0x2000 ≤ n && n ≤ 0x200A) || n == 0x2028 || n == 0x2029 || n == 0x202F || n == 0x205F ||
    n == 0x3000

/-- The characters that the core library calls white space are blank. -/
theorem isBlank_of_isWhitespace {c : Char} (h : c.isWhitespace = true) : isBlank c = true := by
  simp only [Char.isWhitespace, Bool.or_eq_true, decide_eq_true_eq] at h
  rcases h with ((rfl | rfl) | rfl) | rfl <;> decide

/-! ### Trimming -/

/-- Without the blanks at the start. -/
def trimStart (s : List Char) : List Char := s.dropWhile isBlank

/-- Without the blanks at the end. -/
def trimEnd (s : List Char) : List Char := (s.reverse.dropWhile isBlank).reverse

/-- Without the blanks at both ends. -/
def trim (s : List Char) : List Char := trimEnd (trimStart s)

@[simp] theorem trim_nil : trim [] = [] := rfl

/-- Trimming only drops characters. -/
theorem trim_sublist (s : List Char) : (trim s).Sublist s := by
  have hend (t : List Char) : (trimEnd t).Sublist t := by
    have h := (List.dropWhile_sublist isBlank (l := t.reverse)).reverse
    rwa [List.reverse_reverse] at h
  exact (hend _).trans (List.dropWhile_sublist _)

/-- Blanks at the start do not matter. -/
theorem trimStart_append {blanks : List Char} (h : ∀ c ∈ blanks, isBlank c = true) (s : List Char) :
    trimStart (blanks ++ s) = trimStart s :=
  List.dropWhile_append_of_pos h

theorem trimEnd_append {blanks : List Char} (h : ∀ c ∈ blanks, isBlank c = true) (s : List Char) :
    trimEnd (s ++ blanks) = trimEnd s := by
  rw [trimEnd, List.reverse_append, List.dropWhile_append_of_pos (by simpa using h), trimEnd]

/-- Nothing is left of blanks. -/
theorem trim_eq_nil {blanks : List Char} (h : ∀ c ∈ blanks, isBlank c = true) : trim blanks = [] := by
  have hstart := trimStart_append h []
  rw [List.append_nil] at hstart
  rw [trim, hstart]
  rfl

/-- Blanks after a text do not matter. -/
theorem trim_append {blanks : List Char} (h : ∀ c ∈ blanks, isBlank c = true) (s : List Char) :
    trim (s ++ blanks) = trim s := by
  rw [trim, trimStart, List.dropWhile_append]
  split
  · next hs =>
    rw [List.isEmpty_iff] at hs
    rw [trim, trimStart, hs]
    exact trim_eq_nil h
  · exact trimEnd_append h _

/-- A character at the start that is not blank stays there. -/
theorem trim_cons {c : Char} (h : isBlank c = false) (s : List Char) : trim (c :: s) = c :: trimEnd s := by
  have hc : ¬isBlank c = true := by rw [h]; exact Bool.false_ne_true
  rw [trim, trimStart, List.dropWhile_cons_of_neg hc, trimEnd, trimEnd, List.reverse_cons,
    List.dropWhile_append, List.dropWhile_cons_of_neg hc]
  split
  · next hs => rw [List.isEmpty_iff.mp hs]; rfl
  · rw [List.reverse_append]; rfl

/-- **Blanks around a text** do not matter. -/
theorem trim_padded {before after : List Char} (hbefore : ∀ c ∈ before, isBlank c = true)
    (hafter : ∀ c ∈ after, isBlank c = true) (s : List Char) : trim (before ++ s ++ after) = trim s := by
  rw [trim_append hafter, trim, trimStart_append hbefore, trim]

/-- Trimming takes blanks away from both ends. -/
theorem exists_padding (s : List Char) : ∃ before after, s = before ++ trim s ++ after ∧
    (∀ c ∈ before, isBlank c = true) ∧ ∀ c ∈ after, isBlank c = true := by
  refine ⟨s.takeWhile isBlank, ((trimStart s).reverse.takeWhile isBlank).reverse, ?_, ?_, ?_⟩
  · have hend : trim s ++ ((trimStart s).reverse.takeWhile isBlank).reverse = trimStart s := by
      rw [trim, trimEnd, ← List.reverse_append, List.takeWhile_append_dropWhile, List.reverse_reverse]
    rw [List.append_assoc, hend, trimStart, List.takeWhile_append_dropWhile]
  · intro c hc
    exact List.all_eq_true.mp List.all_takeWhile c hc
  · intro c hc
    exact List.all_eq_true.mp List.all_takeWhile c (List.mem_reverse.mp hc)

/-- A text without blanks has none at its ends. -/
theorem trim_eq_self {s : List Char} (h : ∀ c ∈ s, isBlank c = false) : trim s = s := by
  obtain ⟨before, after, hs, hbefore, hafter⟩ := exists_padding s
  have hnone {blanks : List Char} (hsub : blanks ⊆ s) (hblank : ∀ c ∈ blanks, isBlank c = true) :
      blanks = [] := by
    refine List.eq_nil_iff_forall_not_mem.mpr fun c hc => ?_
    have hc' := h c (hsub hc)
    rw [hblank c hc] at hc'
    exact Bool.noConfusion hc'
  have hb : before = [] := hnone (by rw [hs]; simp) hbefore
  have ha : after = [] := hnone (by rw [hs]; simp) hafter
  rw [hb, ha, List.nil_append, List.append_nil] at hs
  exact hs.symm

/-- What has been trimmed has no blanks at its ends. -/
@[simp] theorem trim_trim (s : List Char) : trim (trim s) = trim s := by
  obtain ⟨before, after, hs, hbefore, hafter⟩ := exists_padding s
  calc trim (trim s) = trim (before ++ trim s ++ after) := (trim_padded hbefore hafter _).symm
    _ = trim s := by rw [← hs]

/-! ### Pieces and words -/

/-- Put `c` in front of the first piece. -/
def consFirst (c : Char) : List (List Char) → List (List Char)
  | [] => [[c]]
  | p :: ps => (c :: p) :: ps

/-- The pieces of a text between the characters that `p` accepts.  There is always one more piece
than there are such characters, so the empty text has one empty piece. -/
def pieces (p : Char → Bool) : List Char → List (List Char)
  | [] => [[]]
  | c :: s => if p c then [] :: pieces p s else consFirst c (pieces p s)

theorem pieces_ne_nil (p : Char → Bool) (s : List Char) : pieces p s ≠ [] := by
  cases s with
  | nil => simp [pieces]
  | cons c s =>
    rw [pieces]
    split
    · simp
    · cases pieces p s <;> simp [consFirst]

/-- The first piece goes up to the first character that is cut at. -/
theorem pieces_eq_cons (p : Char → Bool) (s : List Char) :
    pieces p s = s.takeWhile (fun c => !p c) :: (pieces p s).tail := by
  induction s with
  | nil => rfl
  | cons c s ih =>
    rw [pieces]
    cases hc : p c with
    | true => simp [hc]
    | false =>
      rw [if_neg Bool.false_ne_true, ih]
      simp [consFirst, hc]

/-- There is one more piece than there are characters that are cut at. -/
theorem length_pieces (p : Char → Bool) (s : List Char) : (pieces p s).length = s.countP p + 1 := by
  induction s with
  | nil => rfl
  | cons c s ih =>
    rw [pieces, List.countP_cons]
    split
    · rw [List.length_cons, ih]
    · rw [pieces_eq_cons] at ih ⊢
      exact ih

/-- A text that is cut between two parts has the pieces of both. -/
theorem pieces_append_cons {p : Char → Bool} {c : Char} (hc : p c = true) (s t : List Char) :
    pieces p (s ++ c :: t) = pieces p s ++ pieces p t := by
  induction s with
  | nil => simp [pieces, hc]
  | cons d s ih =>
    rw [List.cons_append, pieces, pieces, ih]
    split
    · rfl
    · -- the first piece of both sides is the one that `d` is put in front of
      rw [pieces_eq_cons p s]
      rfl

/-- A text that is cut nowhere is one piece. -/
theorem pieces_eq_singleton {p : Char → Bool} {s : List Char} (h : ∀ c ∈ s, p c = false) :
    pieces p s = [s] := by
  induction s with
  | nil => rfl
  | cons c s ih =>
    rw [pieces, h c List.mem_cons_self, ih fun d hd => h d (List.mem_cons_of_mem _ hd)]
    rfl

/-- No piece holds a character that is cut at. -/
theorem eq_false_of_mem_pieces {p : Char → Bool} {s w : List Char} (hw : w ∈ pieces p s) :
    ∀ c ∈ w, p c = false := by
  induction s generalizing w with
  | nil =>
    rw [pieces, List.mem_singleton] at hw
    rw [hw]
    intro c hc
    cases hc
  | cons d s ih =>
    rw [pieces] at hw
    cases hd : p d with
    | true =>
      rw [hd, if_pos rfl, List.mem_cons] at hw
      rcases hw with rfl | hw
      · intro c hc
        cases hc
      · exact ih hw
    | false =>
      rw [hd, if_neg Bool.false_ne_true, pieces_eq_cons, consFirst, List.mem_cons] at hw
      rcases hw with rfl | hw
      · intro c hc
        rcases List.mem_cons.mp hc with rfl | hc
        · exact hd
        · simpa using List.all_eq_true.mp List.all_takeWhile c hc
      · exact ih (List.mem_of_mem_tail hw)

/-- The words of a text: what stands between blanks, the empty pieces left out. -/
def words (s : List Char) : List (List Char) :=
  (pieces isBlank s).filter fun w => !w.isEmpty

end HashReplay.Text
