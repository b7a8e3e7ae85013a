import HashReplay.Text.Blank

/-!
# The words of a text

Which words a text holds can be said without cutting it into pieces: there are blanks, then a word, which
goes on to the next blank or to the end of the text, then blanks again, and so on.  A text holds only one
list of words in this sense, and it is the one that is found by cutting.

## Main definitions

* `IsWord` — characters in a row that are not blank.
* `HoldsWords` — a text holds these words, in this order.

## Main results

* `holdsWords_iff` — the words that a text holds are its words.
* `HoldsWords.flatten_eq` — nothing but blanks is lost between the words.
* `words_intercalate` — words with a space between them are found again.
-/

namespace HashReplay.Text

/-- Some characters, none of which is blank. -/
structure IsWord (w : List Char) : Prop where
  ne_nil : w ≠ []
  noBlank : ∀ c ∈ w, isBlank c = false

/-- A text holds these words, in this order. -/
inductive HoldsWords : List Char → List (List Char) → Prop
  /-- Only blanks are left. -/
  | blanks {s : List Char} (h : ∀ c ∈ s, isBlank c = true) : HoldsWords s []
  /-- Blanks, and then a word that goes on to a blank or to the end. -/
  | word (before : List Char) {w rest : List Char} {ws : List (List Char)}
      (hbefore : ∀ c ∈ before, isBlank c = true) (hw : IsWord w)
      (hends : ∀ c, rest.head? = some c → isBlank c = true) (hrest : HoldsWords rest ws) :
      HoldsWords (before ++ w ++ rest) (w :: ws)

/-! ### Words by cutting -/

/-- Blanks in front of a text add no word. -/
theorem words_append_of_isBlank {before : List Char} (h : ∀ c ∈ before, isBlank c = true)
    (s : List Char) : words (before ++ s) = words s := by
  induction before with
  | nil => rfl
  | cons c before ih =>
    obtain ⟨hc, hbefore⟩ := List.forall_mem_cons.mp h
    rw [List.cons_append, words, pieces, if_pos hc, List.filter_cons_of_neg (by simp), ← words]
    exact ih hbefore

/-- A word that goes on to a blank or to the end is the first one. -/
theorem words_append_of_isWord {w rest : List Char} (hw : IsWord w)
    (hends : ∀ c, rest.head? = some c → isBlank c = true) : words (w ++ rest) = w :: words rest := by
  have hpiece : pieces isBlank w = [w] := pieces_eq_singleton hw.noBlank
  have hkept (ps : List (List Char)) : (w :: ps).filter (fun p => !p.isEmpty) =
      w :: ps.filter fun p => !p.isEmpty :=
    List.filter_cons_of_pos (by simpa using hw.ne_nil)
  cases rest with
  | nil =>
    rw [List.append_nil, words, hpiece, hkept]
    rfl
  | cons c rest =>
    have hc := hends c rfl
    have hall : ∀ d ∈ [c], isBlank d = true := by simpa using hc
    have hblank : words (c :: rest) = words rest := words_append_of_isBlank hall rest
    rw [hblank, words, pieces_append_cons hc, hpiece, List.singleton_append, hkept, ← words]

/-- The words that a text holds are found. -/
theorem HoldsWords.words_eq {s : List Char} {ws : List (List Char)} (h : HoldsWords s ws) :
    words s = ws := by
  induction h with
  | blanks h =>
    have hwords := words_append_of_isBlank h []
    rw [List.append_nil] at hwords
    rw [hwords]
    rfl
  | word _ hbefore hw hends _ ih =>
    rw [List.append_assoc, words_append_of_isBlank hbefore, words_append_of_isWord hw hends, ih]

/-! ### Every text holds words -/

theorem HoldsWords.cons_of_isBlank {c : Char} {s : List Char} {ws : List (List Char)}
    (hc : isBlank c = true) (h : HoldsWords s ws) : HoldsWords (c :: s) ws := by
  cases h with
  | blanks h => exact .blanks (List.forall_mem_cons.mpr ⟨hc, h⟩)
  | word before hbefore hw hends hrest =>
    exact .word (c :: before) (List.forall_mem_cons.mpr ⟨hc, hbefore⟩) hw hends hrest

/-- A text may start with a word at once. -/
theorem HoldsWords.of_isWord {w rest : List Char} {ws : List (List Char)} (hw : IsWord w)
    (hends : ∀ c, rest.head? = some c → isBlank c = true) (hrest : HoldsWords rest ws) :
    HoldsWords (w ++ rest) (w :: ws) :=
  .word [] (by simp) hw hends hrest

theorem isWord_singleton {c : Char} (hc : isBlank c = false) : IsWord [c] :=
  ⟨List.cons_ne_nil _ _, by simpa using hc⟩

/-- **Every text holds some words.** -/
theorem exists_holdsWords (s : List Char) : ∃ ws, HoldsWords s ws := by
  induction s with
  | nil => exact ⟨[], .blanks (by simp)⟩
  | cons c s ih =>
    obtain ⟨ws, h⟩ := ih
    cases hc : isBlank c with
    | true => exact ⟨ws, h.cons_of_isBlank hc⟩
    | false =>
      -- the character starts a word of its own, unless the text goes on with a word
      cases h with
      | blanks h =>
        refine ⟨[[c]], .of_isWord (isWord_singleton hc) ?_ (.blanks h)⟩
        intro d hd
        exact h d (List.mem_of_mem_head? hd)
      | @word before w rest ws hbefore hw hends hrest =>
        cases before with
        | nil =>
          have hlonger : IsWord (c :: w) :=
            ⟨List.cons_ne_nil _ _, List.forall_mem_cons.mpr ⟨hc, hw.noBlank⟩⟩
          exact ⟨(c :: w) :: ws, .of_isWord hlonger hends hrest⟩
        | cons d before =>
          refine ⟨[c] :: w :: ws, .of_isWord (isWord_singleton hc) ?_
            (.word (d :: before) hbefore hw hends hrest)⟩
          intro e he
          cases he
          exact hbefore d List.mem_cons_self

/-- **The words that a text holds** are its words, so it holds only one list of words. -/
theorem holdsWords_iff {s : List Char} {ws : List (List Char)} : HoldsWords s ws ↔ words s = ws := by
  constructor
  · intro h
    exact h.words_eq
  · rintro rfl
    obtain ⟨ws, h⟩ := exists_holdsWords s
    rwa [h.words_eq]

/-! ### What the words are -/

theorem HoldsWords.isWord {s : List Char} {ws : List (List Char)} (h : HoldsWords s ws) :
    ∀ w ∈ ws, IsWord w := by
  induction h with
  | blanks => simp
  | word _ _ hw _ _ ih => exact List.forall_mem_cons.mpr ⟨hw, ih⟩

/-- The words one after the other are the text without its blanks. -/
theorem HoldsWords.flatten_eq {s : List Char} {ws : List (List Char)} (h : HoldsWords s ws) :
    ws.flatten = s.filter fun c => !isBlank c := by
  have hnone {blanks : List Char} (hblanks : ∀ c ∈ blanks, isBlank c = true) :
      blanks.filter (fun c => !isBlank c) = [] := by
    rw [List.filter_eq_nil_iff]
    intro c hc
    rw [hblanks c hc]
    decide
  induction h with
  | blanks h => exact (hnone h).symm
  | word _ hbefore hw _ _ ih =>
    have hall : ∀ c ∈ _, (!isBlank c) = true := fun c hc => by rw [hw.noBlank c hc]; rfl
    rw [List.filter_append, List.filter_append, hnone hbefore, List.filter_eq_self.mpr hall, ← ih]
    rfl

/-- Words with a space between them are held by the text that they make. -/
theorem holdsWords_intercalate {ws : List (List Char)} (h : ∀ w ∈ ws, IsWord w) :
    HoldsWords ([' '].intercalate ws) ws := by
  have hspace : isBlank ' ' = true := by decide
  induction ws with
  | nil => exact .blanks (by simp)
  | cons w ws ih =>
    obtain ⟨hw, hws⟩ := List.forall_mem_cons.mp h
    cases ws with
    | nil =>
      have hlast : HoldsWords (w ++ []) [w] := .of_isWord hw (by simp) (.blanks (by simp))
      simpa using hlast
    | cons v ws =>
      have hrest : HoldsWords (' ' :: [' '].intercalate (v :: ws)) (v :: ws) :=
        (ih hws).cons_of_isBlank hspace
      have hfirst : HoldsWords (w ++ ' ' :: [' '].intercalate (v :: ws)) (w :: v :: ws) := by
        refine .of_isWord hw ?_ hrest
        intro c hc
        cases hc
        exact hspace
      rw [List.intercalate_cons_cons, List.append_assoc]
      exact hfirst

/-- **Words with a space between them** are found again. -/
theorem words_intercalate (s : List Char) : words ([' '].intercalate (words s)) = words s :=
  (holdsWords_intercalate (holdsWords_iff.mpr rfl).isWord).words_eq

end HashReplay.Text
