import HashReplay.Text.Lines

/-!
# Patterns

A pattern says what a part of a text has to look like.  Besides characters it can ask for a boundary:
the place where a line starts, or the place where one ends.  Whether a pattern matches thus depends on
the text on both sides, so a match is a cut of the text into what is before it, the part that is
matched, and what is after it.  Parts of a match can be caught.

## Main definitions

* `StartsLine`, `EndsLine` — the boundaries of lines.
* `Pattern`, `Pattern.Matches` — patterns, and what they match.
* `Pattern.FirstMatch` — a match of which there is none further to the left.

## Main results

* `Pattern.matches_literal_iff`, `Pattern.matches_times_one_iff` — what is matched by a given text and by
  so many characters of a kind.
-/

namespace HashReplay.Text

/-- A line starts behind this text: at the start of everything, or behind a line feed. -/
def StartsLine (before : List Char) : Prop := before = [] ∨ before.getLast? = some '\n'

/-- A line ends in front of this text: at the end of everything, or in front of a line feed. -/
def EndsLine (after : List Char) : Prop := after = [] ∨ after.head? = some '\n'

/-- Behind another character a line starts exactly if that is a line feed. -/
theorem startsLine_concat {before : List Char} {c : Char} : StartsLine (before ++ [c]) ↔ c = '\n' := by
  simp [StartsLine]

/-- Patterns of texts. -/
inductive Pattern where
  /-- Nothing at all. -/
  | nothing
  /-- One character that a test accepts. -/
  | one (test : Char → Bool)
  /-- The place where a line starts. -/
  | lineStart
  /-- The place where a line ends. -/
  | lineEnd
  /-- One pattern after the other. -/
  | andThen (p q : Pattern)
  /-- One of two patterns. -/
  | orElse (p q : Pattern)
  /-- A pattern whose match is caught. -/
  | group (p : Pattern)

namespace Pattern

/-- A given text. -/
def literal : List Char → Pattern
  | [] => .nothing
  | c :: s => .andThen (.one (· == c)) (literal s)

/-- A pattern so many times in a row. -/
def times (p : Pattern) : Nat → Pattern
  | 0 => .nothing
  | n + 1 => .andThen p (times p n)

/-- A pattern matches the part between what is before and what is after it, and catches texts. -/
inductive Matches : Pattern → List Char → List Char → List Char → List (List Char) → Prop
  | nothing (before after : List Char) : Matches .nothing before [] after []
  | one {test : Char → Bool} {c : Char} (h : test c = true) (before after : List Char) :
      Matches (.one test) before [c] after []
  | lineStart {before : List Char} (h : StartsLine before) (after : List Char) :
      Matches .lineStart before [] after []
  | lineEnd (before : List Char) {after : List Char} (h : EndsLine after) :
      Matches .lineEnd before [] after []
  | andThen {p q : Pattern} {before m n after : List Char} {caught others : List (List Char)}
      (hp : Matches p before m (n ++ after) caught) (hq : Matches q (before ++ m) n after others) :
      Matches (.andThen p q) before (m ++ n) after (caught ++ others)
  | left {p : Pattern} {before m after : List Char} {caught : List (List Char)}
      (h : Matches p before m after caught) (q : Pattern) : Matches (.orElse p q) before m after caught
  | right (p : Pattern) {q : Pattern} {before m after : List Char} {caught : List (List Char)}
      (h : Matches q before m after caught) : Matches (.orElse p q) before m after caught
  | group {p : Pattern} {before m after : List Char} {caught : List (List Char)}
      (h : Matches p before m after caught) : Matches (.group p) before m after (m :: caught)

/-- A match in `s` that starts further to the left than, or at the same place as, every other one. -/
structure FirstMatch (p : Pattern) (s before m after : List Char) (caught : List (List Char)) :
    Prop where
  text : s = before ++ m ++ after
  matched : p.Matches before m after caught
  first : ∀ before' m' after' caught', s = before' ++ m' ++ after' →
    p.Matches before' m' after' caught' → before.length ≤ before'.length

variable {p q : Pattern} {before m after : List Char} {caught : List (List Char)}

/-! ### What each kind of pattern matches -/

theorem matches_nothing_iff : nothing.Matches before m after caught ↔ m = [] ∧ caught = [] := by
  constructor
  · rintro ⟨⟩
    exact ⟨rfl, rfl⟩
  · rintro ⟨rfl, rfl⟩
    exact .nothing before after

theorem matches_one_iff {test : Char → Bool} :
    (one test).Matches before m after caught ↔ ∃ c, test c = true ∧ m = [c] ∧ caught = [] := by
  constructor
  · intro h
    cases h with
    | one h => exact ⟨_, h, rfl, rfl⟩
  · rintro ⟨c, h, rfl, rfl⟩
    exact .one h before after

theorem matches_lineStart_iff :
    lineStart.Matches before m after caught ↔ StartsLine before ∧ m = [] ∧ caught = [] := by
  constructor
  · intro h
    cases h with
    | lineStart h => exact ⟨h, rfl, rfl⟩
  · rintro ⟨h, rfl, rfl⟩
    exact .lineStart h after

theorem matches_lineEnd_iff :
    lineEnd.Matches before m after caught ↔ EndsLine after ∧ m = [] ∧ caught = [] := by
  constructor
  · intro h
    cases h with
    | lineEnd _ h => exact ⟨h, rfl, rfl⟩
  · rintro ⟨h, rfl, rfl⟩
    exact .lineEnd before h

theorem matches_andThen_iff : (p.andThen q).Matches before m after caught ↔
    ∃ m₁ m₂ caught₁ caught₂, m = m₁ ++ m₂ ∧ caught = caught₁ ++ caught₂ ∧
      p.Matches before m₁ (m₂ ++ after) caught₁ ∧ q.Matches (before ++ m₁) m₂ after caught₂ := by
  constructor
  · intro h
    cases h with
    | andThen hp hq => exact ⟨_, _, _, _, rfl, rfl, hp, hq⟩
  · rintro ⟨m₁, m₂, caught₁, caught₂, rfl, rfl, hp, hq⟩
    exact .andThen hp hq

theorem matches_orElse_iff : (p.orElse q).Matches before m after caught ↔
    p.Matches before m after caught ∨ q.Matches before m after caught := by
  constructor
  · intro h
    cases h with
    | left h => exact Or.inl h
    | right _ h => exact Or.inr h
  · rintro (h | h)
    · exact .left h q
    · exact .right p h

theorem matches_group_iff : (group p).Matches before m after caught ↔
    ∃ inner, caught = m :: inner ∧ p.Matches before m after inner := by
  constructor
  · intro h
    cases h with
    | group h => exact ⟨_, rfl, h⟩
  · rintro ⟨inner, rfl, h⟩
    exact .group h

/-! ### Texts and characters of a kind -/

/-- A given text matches itself, and catches nothing. -/
theorem matches_literal_iff (w : List Char) :
    (literal w).Matches before m after caught ↔ m = w ∧ caught = [] := by
  induction w generalizing before m caught with
  | nil => exact matches_nothing_iff
  | cons c w ih =>
    rw [literal, matches_andThen_iff]
    constructor
    · rintro ⟨m₁, m₂, caught₁, caught₂, rfl, rfl, hc, hw⟩
      obtain ⟨d, hd, rfl, rfl⟩ := matches_one_iff.mp hc
      obtain ⟨rfl, rfl⟩ := ih.mp hw
      exact ⟨congrArg (· :: m₂) (beq_iff_eq.mp hd), rfl⟩
    · rintro ⟨rfl, rfl⟩
      have hc : (one (· == c)).Matches before [c] (w ++ after) [] :=
        matches_one_iff.mpr ⟨c, beq_self_eq_true c, rfl, rfl⟩
      exact ⟨[c], w, [], [], rfl, rfl, hc, ih.mpr ⟨rfl, rfl⟩⟩

/-- So many characters of a kind match every text of them that is as long, and catch nothing. -/
theorem matches_times_one_iff {test : Char → Bool} (n : Nat) :
    ((one test).times n).Matches before m after caught ↔
      m.length = n ∧ (∀ c ∈ m, test c = true) ∧ caught = [] := by
  induction n generalizing before m caught with
  | zero =>
    rw [times, matches_nothing_iff, List.length_eq_zero_iff]
    constructor
    · rintro ⟨rfl, rfl⟩
      exact ⟨rfl, by simp, rfl⟩
    · rintro ⟨hm, -, hcaught⟩
      exact ⟨hm, hcaught⟩
  | succ n ih =>
    rw [times, matches_andThen_iff]
    constructor
    · rintro ⟨m₁, m₂, caught₁, caught₂, rfl, rfl, hc, hrest⟩
      obtain ⟨c, htest, rfl, rfl⟩ := matches_one_iff.mp hc
      obtain ⟨rfl, hall, rfl⟩ := ih.mp hrest
      exact ⟨rfl, List.forall_mem_cons.mpr ⟨htest, hall⟩, rfl⟩
    · rintro ⟨hm, hall, rfl⟩
      obtain ⟨c, m, rfl⟩ := List.exists_cons_of_length_eq_add_one hm
      obtain ⟨hc, hall⟩ := List.forall_mem_cons.mp hall
      exact ⟨[c], m, [], [], rfl, rfl, matches_one_iff.mpr ⟨c, hc, rfl, rfl⟩,
        ih.mpr ⟨Nat.succ.inj hm, hall, rfl⟩⟩

end Pattern

end HashReplay.Text
