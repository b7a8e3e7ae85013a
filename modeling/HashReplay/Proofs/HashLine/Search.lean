import HashReplay.Proofs.HashLine.Grammar
import HashReplay.Proofs.Text.Pattern

/-!
# Where the search finds a hash

A hash line can also be described by a pattern that is looked for at every place of the whole text.  It
starts where a line starts, but it does not end where one ends: behind the digits it takes one more
character that is no digit, and that may be the line feed.  So where it matches depends on the text
around it, and the character that it takes last is not part of what it catches.

Both descriptions meet in the place where the search stops.  A hash line starts there, and none starts
further to the left (`FirstFrom`).  The search goes on behind a text that it has left behind, and all it
needs to know of that text is whether a line starts behind it (`search_eq_some_iff`).

## Main definitions

* `pattern` — the pattern of hash lines.
* `FirstFrom` — the first place where a hash line starts.

## Main results

* `extract_eq_some_iff_firstFrom` — the search stops at the first hash line.
* `FirstFrom.replace` — where that is does not depend on what follows.
* `extract_eq_some_iff_firstMatch` — the hash of a text is what the first match of the pattern catches.
-/

namespace HashReplay.HashLine

open Text (StartsLine EndsLine startsLine_concat Pattern)

/-- At the start of a line the label and the digits of a hash, which are caught, and behind them a
character that is no digit, or the end of the line. -/
def pattern : Pattern :=
  .andThen .lineStart (.andThen (.literal label)
    (.andThen (.group (.times (.one isHexDigit) tokenLength))
      (.orElse (.one fun c => !isHexDigit c) .lineEnd)))

/-- Of the places in `s` where a line starts if `s` stands behind `context`, the one between `x` and `r`
is the first where a hash line starts, and it holds this token. -/
structure FirstFrom (context s x r token : List Char) : Prop where
  text : s = x ++ r
  starts : StartsLine (context ++ x)
  isHashLine : IsHashLine r token
  first : ∀ y q, s = y ++ q → StartsLine (context ++ y) → y.length < x.length →
    ∀ t, ¬IsHashLine q t

theorem not_isHashLine_nil (t : List Char) : ¬IsHashLine [] t := by
  rintro ⟨rest, h, -⟩
  simp [label] at h

/-! ### The place where the search stops -/

section

variable {context s token : List Char} {c : Char}

/-- A hash line at the very start is the first one. -/
theorem exists_firstFrom_iff_of_isHashLine {found : List Char} (hstarts : StartsLine context)
    (hfound : IsHashLine (c :: s) found) :
    (∃ x r, FirstFrom context (c :: s) x r token) ↔ found = token := by
  constructor
  · rintro ⟨x, r, h⟩
    cases x with
    | nil =>
      have hr : c :: s = r := h.text
      have hsame := (tokenAt_eq_some_iff r token).mpr h.isHashLine
      rw [← hr, (tokenAt_eq_some_iff _ _).mpr hfound] at hsame
      exact Option.some.inj hsame
    | cons d x =>
      have hcontext : StartsLine (context ++ []) := by
        rw [List.append_nil]
        exact hstarts
      exact absurd hfound (h.first [] _ rfl hcontext (by simp) found)
  · rintro rfl
    refine ⟨[], c :: s, rfl, ?_, hfound, ?_⟩
    · rw [List.append_nil]
      exact hstarts
    · intro y q _ _ hlt
      exact absurd hlt (Nat.not_lt_zero _)

/-- If no hash line starts at the very start, the first one comes behind the next character. -/
theorem exists_firstFrom_iff_of_not (hnone : StartsLine context → ∀ t, ¬IsHashLine (c :: s) t) :
    (∃ x r, FirstFrom context (c :: s) x r token) ↔
      ∃ x r, FirstFrom (context ++ [c]) s x r token := by
  constructor
  · rintro ⟨x, r, h⟩
    cases x with
    | nil =>
      have hr : c :: s = r := h.text
      have hcontext := h.starts
      rw [List.append_nil] at hcontext
      exact absurd h.isHashLine (hr ▸ hnone hcontext token)
    | cons d x =>
      obtain ⟨hcd, hs⟩ := List.cons.inj h.text
      subst hcd
      refine ⟨x, r, hs, ?_, h.isHashLine, ?_⟩
      · rw [← List.append_cons]
        exact h.starts
      · intro y q hy hstarts hlt
        rw [← List.append_cons] at hstarts
        exact h.first (c :: y) q (by rw [hy]; rfl) hstarts (Nat.succ_lt_succ hlt)
  · rintro ⟨x, r, h⟩
    refine ⟨c :: x, r, congrArg (c :: ·) h.text, ?_, h.isHashLine, ?_⟩
    · rw [List.append_cons]
      exact h.starts
    · intro y q hy hstarts hlt
      cases y with
      | nil =>
        rw [List.append_nil] at hstarts
        have hq : c :: s = q := hy
        exact hq ▸ hnone hstarts
      | cons d y =>
        obtain ⟨hcd, hs⟩ := List.cons.inj hy
        subst hcd
        rw [List.append_cons] at hstarts
        exact h.first y q hs hstarts (Nat.lt_of_succ_lt_succ hlt)

end

/-- **The search stops at the first hash line.**  All that it has to know of the text before is whether a
line starts behind it. -/
theorem search_eq_some_iff (token : List Char) : ∀ (s context : List Char) (atStart : Bool),
    (atStart = true ↔ StartsLine context) →
    (search atStart s = some token ↔ ∃ x r, FirstFrom context s x r token) := by
  intro s
  induction s with
  | nil =>
    intro context atStart _
    constructor
    · intro h
      cases atStart <;> cases h
    · rintro ⟨x, r, h⟩
      obtain ⟨-, rfl⟩ := List.append_eq_nil_iff.mp h.text.symm
      exact absurd h.isHashLine (not_isHashLine_nil token)
  | cons c s ih =>
    intro context atStart hstart
    have hnext : (c == '\n') = true ↔ StartsLine (context ++ [c]) := by
      rw [startsLine_concat, beq_iff_eq]
    have hlater := ih (context ++ [c]) (c == '\n') hnext
    cases atStart with
    | false =>
      have hnot : ¬StartsLine context := fun h => Bool.false_ne_true (hstart.mpr h)
      rw [search, exists_firstFrom_iff_of_not fun h => absurd h hnot, hlater]
    | true =>
      rw [search]
      cases htoken : tokenAt (c :: s) with
      | none =>
        have hnone : ∀ t, ¬IsHashLine (c :: s) t := by
          intro t ht
          rw [(tokenAt_eq_some_iff _ _).mpr ht] at htoken
          cases htoken
        rw [exists_firstFrom_iff_of_not fun _ => hnone]
        exact hlater
      | some found =>
        have hfound := (tokenAt_eq_some_iff _ _).mp htoken
        rw [exists_firstFrom_iff_of_isHashLine (hstart.mp rfl) hfound]
        exact Option.some_inj

/-- **The hash of a text** is the token of the first hash line in it, wherever that starts. -/
theorem extract_eq_some_iff_firstFrom (s token : List Char) :
    extract s = some token ↔ ∃ x r, FirstFrom [] s x r token :=
  search_eq_some_iff token s [] true ⟨fun _ => Or.inl rfl, fun _ => rfl⟩

/-- What follows the place where the first hash line starts has no influence on where that is: another
hash line in its stead is the first one, too. -/
theorem FirstFrom.replace {s x r r' token token' : List Char} (h : FirstFrom [] s x r token)
    (hr' : IsHashLine r' token') : FirstFrom [] (x ++ r') x r' token' := by
  refine ⟨rfl, h.starts, hr', ?_⟩
  intro y q hy hstarts hlt t ht
  -- an earlier place is separated from the replaced part by a line feed
  obtain ⟨z, rfl, rfl⟩ : ∃ z, x = y ++ z ∧ q = z ++ r' := by
    rcases List.append_eq_append_iff.mp hy with ⟨z, rfl, -⟩ | ⟨z, rfl, rfl⟩
    · rw [List.length_append] at hlt
      omega
    · exact ⟨z, rfl, rfl⟩
  have hz : z ≠ [] := by
    rintro rfl
    simp at hlt
  have hlast : z.getLast? = some '\n' := by
    rcases h.starts with hnil | hlast
    · have hyz : y ++ z = [] := hnil
      exact absurd (List.append_eq_nil_iff.mp hyz).2 hz
    · rw [List.nil_append, List.getLast?_append] at hlast
      rw [List.getLast?_eq_some_getLast hz] at hlast ⊢
      exact hlast
  obtain ⟨w, rfl⟩ := List.getLast?_eq_some_iff.mp hlast
  have hfeed (rest : List Char) : tokenAt (w ++ ['\n'] ++ rest) = tokenAt w := by
    rw [List.append_assoc]
    exact tokenAt_append_cons (by decide) (by decide) w rest
  have hsame : IsHashLine (w ++ ['\n'] ++ r) t := by
    rw [← tokenAt_eq_some_iff] at ht ⊢
    rw [hfeed] at ht ⊢
    exact ht
  refine h.first y (w ++ ['\n'] ++ r) ?_ hstarts hlt t hsame
  rw [h.text, List.append_assoc]

/-! ### The pattern -/

/-- What the pattern matches starts a hash line, and it catches the token. -/
theorem isHashLine_of_matches {before m after : List Char} {caught : List (List Char)}
    (h : pattern.Matches before m after caught) :
    StartsLine before ∧ ∃ token, caught = [token] ∧ IsHashLine (m ++ after) token := by
  obtain ⟨_, _, _, _, rfl, rfl, hstart, hline⟩ := Pattern.matches_andThen_iff.mp h
  obtain ⟨hstarts, rfl, rfl⟩ := Pattern.matches_lineStart_iff.mp hstart
  obtain ⟨_, _, _, _, rfl, rfl, hlabel, hdigits⟩ := Pattern.matches_andThen_iff.mp hline
  obtain ⟨rfl, rfl⟩ := (Pattern.matches_literal_iff label).mp hlabel
  obtain ⟨token, tail, _, _, rfl, rfl, hgroup, htail⟩ := Pattern.matches_andThen_iff.mp hdigits
  obtain ⟨_, rfl, htoken⟩ := Pattern.matches_group_iff.mp hgroup
  obtain ⟨hlength, hall, rfl⟩ := (Pattern.matches_times_one_iff tokenLength).mp htoken
  refine ⟨hstarts, token, ?_, tail ++ after, by simp, hlength, hall, ?_⟩
  · rcases Pattern.matches_orElse_iff.mp htail with hother | hends
    · obtain ⟨c, -, -, rfl⟩ := Pattern.matches_one_iff.mp hother
      rfl
    · obtain ⟨-, -, rfl⟩ := Pattern.matches_lineEnd_iff.mp hends
      rfl
  · -- a digit behind the token would neither be matched nor end the line
    intro d hd
    rcases Pattern.matches_orElse_iff.mp htail with hother | hends
    · obtain ⟨c, hc, rfl, -⟩ := Pattern.matches_one_iff.mp hother
      cases hd
      simpa using hc
    · obtain ⟨hafter, rfl, -⟩ := Pattern.matches_lineEnd_iff.mp hends
      rw [List.nil_append] at hd
      rcases hafter with hnil | hfeed
      · rw [hnil] at hd
        cases hd
      · rw [hfeed] at hd
        cases hd
        decide

/-- Where a hash line starts, the pattern matches. -/
theorem exists_matches {before r token : List Char} (hstarts : StartsLine before)
    (h : IsHashLine r token) :
    ∃ m after, r = m ++ after ∧ pattern.Matches before m after [token] := by
  obtain ⟨rest, rfl, hlength, hdigits, hrest⟩ := h
  have htoken (after : List Char) : Pattern.Matches
      (.group (.times (.one isHexDigit) tokenLength)) (before ++ [] ++ label) token after [token] :=
    .group ((Pattern.matches_times_one_iff tokenLength).mpr ⟨hlength, hdigits, rfl⟩)
  have hlabel (after : List Char) : (Pattern.literal label).Matches (before ++ []) label after [] :=
    (Pattern.matches_literal_iff label).mpr ⟨rfl, rfl⟩
  cases rest with
  | nil =>
    -- the text ends behind the token, and so does the line
    have hend : Pattern.Matches (.orElse (.one fun c => !isHexDigit c) .lineEnd)
        (before ++ [] ++ label ++ token) [] [] [] := .right _ (.lineEnd _ (Or.inl rfl))
    refine ⟨label ++ token, [], rfl, ?_⟩
    have h := Pattern.Matches.andThen (.lineStart hstarts _)
      (.andThen (hlabel _) (.andThen (htoken _) hend))
    simpa [pattern] using h
  | cons c rest =>
    have hc : (!isHexDigit c) = true := by rw [hrest c rfl]; rfl
    have hend : Pattern.Matches (.orElse (.one fun c => !isHexDigit c) .lineEnd)
        (before ++ [] ++ label ++ token) [c] rest [] := .left (.one hc _ _) _
    refine ⟨label ++ token ++ [c], rest, by simp, ?_⟩
    have h := Pattern.Matches.andThen (.lineStart hstarts _)
      (.andThen (hlabel _) (.andThen (htoken _) hend))
    simpa [pattern] using h

/-- **The hash of a text is what the pattern catches** where it matches first. -/
theorem extract_eq_some_iff_firstMatch (s token : List Char) :
    extract s = some token ↔ ∃ before m after, pattern.FirstMatch s before m after [token] := by
  rw [extract_eq_some_iff_firstFrom]
  constructor
  · rintro ⟨x, r, h⟩
    obtain ⟨m, after, rfl, hmatch⟩ := exists_matches h.starts h.isHashLine
    refine ⟨x, m, after, by rw [h.text, List.append_assoc], hmatch, ?_⟩
    intro y m' after' caught' hs hmatch'
    obtain ⟨hstarts, t, -, ht⟩ := isHashLine_of_matches hmatch'
    by_contra hlt
    exact h.first y (m' ++ after') (by rw [hs, List.append_assoc]) hstarts (Nat.lt_of_not_le hlt) t ht
  · rintro ⟨before, m, after, h⟩
    obtain ⟨hstarts, t, ht, hline⟩ := isHashLine_of_matches h.matched
    obtain ⟨rfl, -⟩ := List.cons.inj ht
    refine ⟨before, m ++ after, by rw [h.text, List.append_assoc], hstarts, hline, ?_⟩
    intro y q hs hy hlt u hu
    obtain ⟨m', after', rfl, hmatch'⟩ := exists_matches hy hu
    have hle := h.first y m' after' [u] (by rw [hs, List.append_assoc]) hmatch'
    omega

end HashReplay.HashLine
