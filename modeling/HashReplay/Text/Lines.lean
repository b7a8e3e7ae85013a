import HashReplay.Text.Blank

/-!
# Lines

Only the line feed ends a line.  A carriage return directly before that line feed belongs to the
line ending; anywhere else it is an ordinary character of the line.  A text that ends in a line feed
has no further, empty line after it.

## Main definitions

* `linePieces` — a text cut at every line feed.
* `lines` — the lines of a text, without their endings.
* `ofLines` — lines written out, each ended by a line feed.

## Main results

* `lines_ofLines` — the lines of lines written out are found in each of them.
* `linePieces_ofLines` — lines written out are cut into these lines again.
* `lines_append` — text after a line feed adds lines and changes none.
* `lineFeed_not_mem_of_mem_lines` — no line holds a line feed.
-/

namespace HashReplay.Text

/-- A text cut at every line feed. -/
def linePieces (s : List Char) : List (List Char) := pieces (· == '\n') s

/-- A terminated line without the carriage return of its ending. -/
def chopReturn : List Char → List Char
  | [] => []
  | [c] => if c = '\r' then [] else [c]
  | c :: d :: s => c :: chopReturn (d :: s)

/-- The lines among the pieces of a text.  Every piece but the last is a terminated line; the last
piece is a line only if it holds something. -/
def linesOfPieces : List (List Char) → List (List Char)
  | [] => []
  | [p] => if p.isEmpty then [] else [p]
  | p :: q :: ps => chopReturn p :: linesOfPieces (q :: ps)

/-- The lines of a text, without their endings. -/
def lines (s : List Char) : List (List Char) := linesOfPieces (linePieces s)

/-- Lines as text: each followed by a line feed. -/
def ofLines (ls : List (List Char)) : List Char := ls.flatMap fun l => l ++ ['\n']

@[simp] theorem ofLines_nil : ofLines [] = [] := rfl

@[simp] theorem ofLines_cons (l : List Char) (ls : List (List Char)) :
    ofLines (l :: ls) = l ++ '\n' :: ofLines ls := by
  simp [ofLines]

@[simp] theorem ofLines_append (ls ms : List (List Char)) :
    ofLines (ls ++ ms) = ofLines ls ++ ofLines ms := by
  simp [ofLines]

/-! ### Lines of texts and pieces -/

/-- A text without line feeds is one piece. -/
theorem linePieces_eq_singleton {s : List Char} (h : '\n' ∉ s) : linePieces s = [s] :=
  pieces_eq_singleton fun _ hc => beq_eq_false_iff_ne.mpr fun hfeed => h (hfeed ▸ hc)

theorem chopReturn_concat (s : List Char) (c : Char) :
    chopReturn (s ++ [c]) = if c = '\r' then s else s ++ [c] := by
  induction s with
  | nil => rfl
  | cons d s ih =>
    obtain ⟨e, r, hr⟩ : ∃ e r, s ++ [c] = e :: r := List.exists_cons_of_ne_nil (by simp)
    rw [List.cons_append, hr, chopReturn, ← hr, ih]
    split
    · rfl
    · rfl

/-- A line is left as it is, or loses a carriage return at its end. -/
theorem eq_chopReturn_or (s : List Char) : s = chopReturn s ∨ s = chopReturn s ++ ['\r'] := by
  rcases List.eq_nil_or_concat s with rfl | ⟨r, c, rfl⟩
  · exact Or.inl rfl
  · rw [List.concat_eq_append, chopReturn_concat]
    by_cases h : c = '\r'
    · rw [if_pos h, h]
      exact Or.inr rfl
    · rw [if_neg h]
      exact Or.inl rfl

theorem chopReturn_prefix (s : List Char) : chopReturn s <+: s := by
  rcases eq_chopReturn_or s with h | h
  · exact h ▸ List.prefix_refl s
  · exact ⟨_, h.symm⟩

theorem chopReturn_eq_self {s : List Char} (h : s.getLast? ≠ some '\r') : chopReturn s = s := by
  rcases eq_chopReturn_or s with hs | hs
  · exact hs.symm
  · rw [hs, List.getLast?_concat] at h
    exact absurd rfl h

/-- A carriage return at the end is a blank, so trimming does not tell whether it was taken off. -/
theorem trim_chopReturn (s : List Char) : trim (chopReturn s) = trim s := by
  have hreturn : ∀ c ∈ ['\r'], isBlank c = true := List.all_eq_true.mp rfl
  rcases eq_chopReturn_or s with h | h
  · rw [← h]
  · calc trim (chopReturn s) = trim (chopReturn s ++ ['\r']) := (trim_append hreturn _).symm
      _ = trim s := by rw [← h]

/-- A piece that another one follows is a terminated line. -/
theorem linesOfPieces_cons (p : List Char) {ps : List (List Char)} (h : ps ≠ []) :
    linesOfPieces (p :: ps) = chopReturn p :: linesOfPieces ps := by
  obtain ⟨q, qs, rfl⟩ := List.exists_cons_of_ne_nil h
  rfl

/-- Every piece that another one follows is a terminated line. -/
theorem linesOfPieces_append (ps : List (List Char)) (q : List Char) (qs : List (List Char)) :
    linesOfPieces (ps ++ q :: qs) = ps.map chopReturn ++ linesOfPieces (q :: qs) := by
  induction ps with
  | nil => rfl
  | cons p ps ih =>
    have hne : ps ++ q :: qs ≠ [] := by simp
    rw [List.cons_append, linesOfPieces_cons p hne, ih]
    rfl

/-- The lines up to a line feed do not depend on what follows it. -/
theorem lines_append_lineFeed (s t : List Char) :
    lines (s ++ '\n' :: t) = (linePieces s).map chopReturn ++ lines t := by
  obtain ⟨q, qs, hq⟩ := List.exists_cons_of_ne_nil (pieces_ne_nil (· == '\n') t)
  rw [lines, lines, linePieces, pieces_append_cons rfl, linePieces, linePieces, hq,
    linesOfPieces_append]

/-- There is one more piece than there are line feeds. -/
theorem length_linePieces (s : List Char) : (linePieces s).length = s.count '\n' + 1 :=
  length_pieces _ s

/-- Lines written out are cut into these lines and the nothing behind the last line feed. -/
theorem linePieces_ofLines {ls : List (List Char)} (h : ∀ l ∈ ls, '\n' ∉ l) :
    linePieces (ofLines ls) = ls ++ [[]] := by
  induction ls with
  | nil => rfl
  | cons l ls ih =>
    obtain ⟨hl, hls⟩ := List.forall_mem_cons.mp h
    rw [ofLines_cons, linePieces, pieces_append_cons rfl, ← linePieces, ← linePieces,
      linePieces_eq_singleton hl, ih hls]
    rfl

/-- **A text that ends in a line feed** has as many lines as line feeds, and whatever follows it adds
lines of its own. -/
theorem lines_append {s : List Char} (h : s.getLast? = some '\n') :
    (lines s).length = s.count '\n' ∧ ∀ t, lines (s ++ t) = lines s ++ lines t := by
  obtain ⟨r, rfl⟩ := List.getLast?_eq_some_iff.mp h
  have hlines : lines (r ++ ['\n']) = (linePieces r).map chopReturn := by
    rw [lines_append_lineFeed]
    exact List.append_nil _
  refine ⟨?_, fun t => ?_⟩
  · rw [hlines, List.length_map, length_linePieces, List.count_append]
    rfl
  · rw [hlines, List.append_assoc]
    exact lines_append_lineFeed r t

/-- **The lines of lines written out** are those of each of them. -/
theorem lines_ofLines (ls : List (List Char)) :
    lines (ofLines ls) = ls.flatMap fun l => (linePieces l).map chopReturn := by
  induction ls with
  | nil => rfl
  | cons l ls ih => rw [ofLines_cons, lines_append_lineFeed, ih, List.flatMap_cons]

/-- No line holds a line feed. -/
theorem lineFeed_not_mem_of_mem_lines {s l : List Char} (h : l ∈ lines s) : '\n' ∉ l := by
  have hpieces : ∀ ps : List (List Char), l ∈ linesOfPieces ps → ∃ p ∈ ps, l <+: p := by
    intro ps hl
    fun_induction linesOfPieces ps with
    | case1 => cases hl
    | case2 p => cases hl
    | case3 p => exact ⟨p, List.mem_singleton_self p, List.mem_singleton.mp hl ▸ List.prefix_refl p⟩
    | case4 p q qs ih =>
      rcases List.mem_cons.mp hl with rfl | hl
      · exact ⟨p, List.mem_cons_self, chopReturn_prefix p⟩
      · obtain ⟨p', hp', hstart⟩ := ih hl
        exact ⟨p', List.mem_cons_of_mem _ hp', hstart⟩
  obtain ⟨p, hp, hstart⟩ := hpieces _ h
  intro hfeed
  have := eq_false_of_mem_pieces hp '\n' (hstart.subset hfeed)
  simp at this

end HashReplay.Text
