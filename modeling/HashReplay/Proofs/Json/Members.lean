import HashReplay.Proofs.Json.Compound
import Mathlib.Data.List.Nodup
import Mathlib.Data.List.Perm.Basic

/-!
# Objects whose members come in any order

The members of an object are given to the step one by one, and each is taken or rejected in the state to
which those before it have led.  If that state is a *view* of the members before it, nothing else has to
be known about the order: an object is read as what the view of all its members makes, and it is rejected
as soon as one member is, or if nothing can be made of them all.

An object is *mixed* of known members, any of them any number of times, and foreign members with texts
for values, in any order.  Whether each known member is there once can be told from the names alone.

## Main definitions

* `Rejects` — a reader finds that a written value is not what was expected.
* `Stops` — a step rejects one of the members.
* `Mixes` — known members and foreign ones in any order.

## Main results

* `takes_of_view`, `rejects_readObject` — an object by the view of its members.
* `skipValue_text` — a text is passed over.
* `Mixes.perm_iff` — each known member is there once.
-/

namespace HashReplay.Json

/-! ### Rejected values -/

/-- Reading finds that `written` is not what was expected, whatever follows it. -/
def Rejects (read : List Char → Result α) (written : List Char) : Prop :=
  ∃ e, ∀ rest, EndsValue rest → read (written ++ rest) = .error (.data e)

/-- What is read is not rejected. -/
theorem Reads.not_rejects {read : List Char → Result α} {written : List Char} {a : α}
    (h : Reads read written a) : ¬Rejects read written := by
  rintro ⟨e, he⟩
  have hread := h [] trivial
  rw [he [] trivial] at hread
  cases hread

/-- The value of a member is rejected behind its colon. -/
theorem rejects_memberValue {read : List Char → Result α} {v : List Char} (h : Rejects read v) :
    Rejects (memberValue read) (':' :: v) := by
  obtain ⟨e, he⟩ := h
  refine ⟨e, fun rest hrest => ?_⟩
  have hcolon : isSpace ':' = false := by decide
  rw [List.cons_append, memberValue, colon, skipSpace_cons hcolon]
  simp [he rest hrest]

/-! ### Texts that are passed over -/

/-- A written character is passed over. -/
theorem skipText_escape (c : Char) (s : List Char) : skipText (escape c ++ s) = skipText s := by
  rcases escape_cases c with ⟨e, hform, hu, -, he⟩ | ⟨hcontrol, hform⟩ | ⟨hquote, hback, hplain, hform⟩
  · rw [hform, List.cons_append, List.cons_append, List.nil_append, skipText.eq_def]
    simp [he]
  · rw [hform, skipText.eq_def]
    simp [hexValue4?_hexDigit c.toNat hcontrol]
  · rw [hform, List.cons_append, List.nil_append, skipText.eq_def]
    simp [hquote, hback, Nat.not_lt.mpr hplain]

theorem skipText_escaped (s rest : List Char) :
    skipText (s.flatMap escape ++ '"' :: rest) = .ok rest := by
  induction s with
  | nil =>
    rw [List.flatMap_nil, List.nil_append, skipText.eq_def]
    simp
  | cons c s ih => rw [List.flatMap_cons, List.append_assoc, skipText_escape, ih]

/-- **A written text is passed over**, whatever follows it. -/
theorem skipValue_text (s rest : List Char) : skipValue (text s ++ rest) = .ok rest := by
  have hspace : isSpace '"' = false := by decide
  have hbody : s.flatMap escape ++ ['"'] ++ rest = s.flatMap escape ++ '"' :: rest := by simp
  rw [text, List.cons_append, hbody, skipValue, skipFrom, skipSpace_cons hspace]
  simp [skipText_escaped, Except.bind, skipClosers, ofFault]

/-- A member with a text for its value is passed over. -/
theorem reads_skipMember (state : σ) (s : List Char) :
    Reads (skipMember state) (':' :: text s) state := by
  intro rest _
  have hcolon : isSpace ':' = false := by decide
  rw [List.cons_append, skipMember, colon, skipSpace_cons hcolon]
  simp [skipValue_text, Except.map]

/-! ### Members one after another -/

variable {σ : Type} {step : List Char → σ → List Char → Result σ}

/-- The step takes some members and rejects the one after them. -/
inductive Stops (step : List Char → σ → List Char → Result σ) :
    σ → List (String × List Char) → Prop
  | here {a : σ} {name : String} {value : List Char} {ms : List (String × List Char)}
      (head : Rejects (step name.toList a) (':' :: value)) : Stops step a ((name, value) :: ms)
  | later {a b : σ} {name : String} {value : List Char} {ms : List (String × List Char)}
      (head : Reads (step name.toList a) (':' :: value) b) (tail : Stops step b ms) :
      Stops step a ((name, value) :: ms)

/-- Reading written members ends at the one that is rejected. -/
theorem readMembers_stops {a : σ} {ms : List (String × List Char)} (h : Stops step a ms) :
    ∃ e, ∀ (first : Bool) (fuel : Nat) (rest : List Char), ms.length < fuel →
      readMembers step fuel first a (separated first (ms.map member) ++ '\x7d' :: rest) =
        .error (.data e) := by
  induction h with
  | @here a name value ms head =>
    obtain ⟨e, he⟩ := head
    refine ⟨e, fun first fuel rest hfuel => ?_⟩
    obtain ⟨n, rfl⟩ : ∃ n, fuel = n + 1 := ⟨fuel - 1, by omega⟩
    have hvalue := he _ (endsValue_separated (ms.map member) (endsValue_brace rest))
    rw [List.cons_append] at hvalue
    rw [List.map_cons, separated, List.append_assoc, readMembers, nextName_member]
    simp only [hvalue]
  | @later a b name value ms head _ ih =>
    obtain ⟨e, he⟩ := ih
    refine ⟨e, fun first fuel rest hfuel => ?_⟩
    obtain ⟨n, rfl⟩ : ∃ n, fuel = n + 1 := ⟨fuel - 1, by omega⟩
    have htail := he false n rest (Nat.lt_of_succ_lt_succ hfuel)
    have hvalue := head _ (endsValue_separated (ms.map member) (endsValue_brace rest))
    rw [List.cons_append] at hvalue
    rw [List.map_cons, separated, List.append_assoc, readMembers, nextName_member]
    simp only [hvalue, htail]

/-- An object is rejected if one of its members is. -/
theorem readObject_stops {start : σ} {ms : List (String × List Char)} (h : Stops step start ms)
    (finish : σ → Except DataError α) :
    ∃ e, ∀ rest, readObject step finish start (commaSeparated (ms.map member) ++ '\x7d' :: rest) =
      .error (.data e) := by
  obtain ⟨e, he⟩ := readMembers_stops h
  refine ⟨e, fun rest => ?_⟩
  have hne : ∀ v ∈ ms.map member, v ≠ [] := by
    intro v hv
    obtain ⟨m, -, rfl⟩ := List.mem_map.mp hv
    exact List.cons_ne_nil _ _
  have hlength := length_le_separated hne true
  rw [commaSeparated_eq_separated, readObject, he true _ rest (by simp at hlength ⊢; omega)]

/-- An object is rejected if nothing can be made of its members. -/
theorem readObject_unfinished {start state : σ} {finish : σ → Except DataError α}
    {ms : List (String × List Char)} (h : Takes step start ms state) {e : DataError}
    (hfinish : finish state = .error e) (rest : List Char) :
    readObject step finish start (commaSeparated (ms.map member) ++ '\x7d' :: rest) =
      .error (.data e) := by
  have hne : ∀ v ∈ ms.map member, v ≠ [] := by
    intro v hv
    obtain ⟨m, -, rfl⟩ := List.mem_map.mp hv
    exact List.cons_ne_nil _ _
  have hlength := length_le_separated hne true
  rw [commaSeparated_eq_separated, readObject,
    readMembers_separated h true (by simp at hlength ⊢; omega)]
  simp [hfinish, reject]

/-! ### Views of the members before -/

section View

variable (step) {β : Type} (write : β → String × List Char) (view : List β → σ)

/-- A member that stands after `seen` is taken, and the view goes on to it. -/
def TakesAfter (seen : List β) (m : β) : Prop :=
  Reads (step (write m).1.toList (view seen)) (':' :: (write m).2) (view (seen ++ [m]))

/-- A member that stands after `seen` is rejected. -/
def RejectsAfter (seen : List β) (m : β) : Prop :=
  Rejects (step (write m).1.toList (view seen)) (':' :: (write m).2)

variable {step write view}

/-- Members that are all taken lead to the view of them all. -/
theorem takes_of_view {seen ms : List β}
    (h : ∀ before m after, ms = before ++ m :: after → TakesAfter step write view (seen ++ before) m) :
    Takes step (view seen) (ms.map write) (view (seen ++ ms)) := by
  induction ms generalizing seen with
  | nil =>
    rw [List.append_nil]
    exact .nil _
  | cons m ms ih =>
    have hhead := h [] m ms rfl
    rw [List.append_nil] at hhead
    have htail : Takes step (view (seen ++ [m])) (ms.map write) (view (seen ++ [m] ++ ms)) := by
      apply ih
      intro before m' after hms
      rw [List.append_assoc]
      exact h (m :: before) m' after (congrArg (m :: ·) hms)
    rw [List.append_assoc] at htail
    exact .cons hhead htail

/-- If every member is taken or rejected, then all are taken, or there is a first one that is
rejected. -/
theorem takes_or_stops (seen : List β) {ms : List β}
    (h : ∀ before m after, ms = before ++ m :: after →
      TakesAfter step write view (seen ++ before) m ∨ RejectsAfter step write view (seen ++ before) m) :
    (∀ before m after, ms = before ++ m :: after → TakesAfter step write view (seen ++ before) m) ∨
      Stops step (view seen) (ms.map write) := by
  induction ms generalizing seen with
  | nil =>
    left
    intro before m after hms
    exact absurd hms.symm (by simp)
  | cons m ms ih =>
    have hhead := h [] m ms rfl
    rw [List.append_nil] at hhead
    rcases hhead with hhead | hhead
    · have htail := ih (seen ++ [m]) fun before m' after hms => by
        rw [List.append_assoc]
        exact h (m :: before) m' after (congrArg (m :: ·) hms)
      rcases htail with htail | htail
      · left
        intro before m' after hms
        cases before with
        | nil =>
          obtain ⟨rfl, -⟩ := List.cons.inj hms
          rwa [List.append_nil]
        | cons _ before =>
          obtain ⟨rfl, hrest⟩ := List.cons.inj hms
          have hlater := htail before m' after hrest
          rwa [List.append_assoc] at hlater
      · exact Or.inr (.later hhead htail)
    · exact Or.inr (.here hhead)

/-- **An object is rejected** if one of its members is, or if nothing can be made of them all. -/
theorem rejects_readObject {finish : σ → Except DataError α} {ms : List β}
    (h : ∀ before m after, ms = before ++ m :: after →
      TakesAfter step write view before m ∨ RejectsAfter step write view before m)
    (hbad : (∃ before m after, ms = before ++ m :: after ∧ RejectsAfter step write view before m) ∨
      ∃ e, finish (view ms) = .error e) :
    ∃ e, ∀ rest, readObject step finish (view [])
        (commaSeparated ((ms.map write).map member) ++ '\x7d' :: rest) = .error (.data e) := by
  rcases takes_or_stops [] h with htakes | hstops
  · rcases hbad with ⟨before, m, after, hms, hrejects⟩ | ⟨e, hfinish⟩
    · exact absurd hrejects (htakes before m after hms).not_rejects
    · exact ⟨e, readObject_unfinished (takes_of_view htakes) hfinish⟩
  · exact readObject_stops hstops finish

end View

/-! ### Names -/

section Names

variable {β : Type}

/-- The names of some members. -/
def names (ms : List (String × β)) : List String := ms.map Prod.fst

theorem mem_names_of_mem {m : String × β} {ms : List (String × β)} (h : m ∈ ms) : m.1 ∈ names ms :=
  List.mem_map_of_mem h

theorem mem_names_of_count {name : String} {ms : List (String × β)} (h : (names ms).count name = 1) :
    name ∈ names ms :=
  List.count_pos_iff.mp (h ▸ Nat.one_pos)

/-- A name that is there twice stands behind itself. -/
theorem exists_again {name : String} {ms : List (String × β)} (h : 2 ≤ (names ms).count name) :
    ∃ before m after, ms = before ++ m :: after ∧ m.1 = name ∧ name ∈ names before := by
  induction ms with
  | nil => simp [names] at h
  | cons m ms ih =>
    by_cases hm : m.1 = name
    · have hrest : name ∈ names ms := by
        rw [names, List.map_cons, hm, List.count_cons_self] at h
        exact List.count_pos_iff.mp (show 0 < (names ms).count name from Nat.lt_of_succ_lt_succ h)
      obtain ⟨m', hm', hname⟩ := List.mem_map.mp hrest
      obtain ⟨before, after, rfl⟩ := List.append_of_mem hm'
      exact ⟨m :: before, m', after, rfl, hname, List.mem_cons.mpr (Or.inl hm.symm)⟩
    · rw [names, List.map_cons, List.count_cons_of_ne hm] at h
      obtain ⟨before, m', after, rfl, hname, hbefore⟩ := ih h
      exact ⟨m :: before, m', after, rfl, hname, List.mem_cons_of_mem _ hbefore⟩

/-- A name that is there once does not stand behind itself. -/
theorem not_mem_names_before {before after : List (String × β)} {m : String × β}
    (h : (names (before ++ m :: after)).count m.1 = 1) : m.1 ∉ names before := by
  intro hbefore
  have hpos : 0 < (names before).count m.1 := List.count_pos_iff.mpr hbefore
  rw [names, List.map_append, List.map_cons, List.count_append, List.count_cons_self] at h
  have hsum : (names before).count m.1 + ((names after).count m.1 + 1) = 1 := h
  omega

end Names

/-! ### Mixed members -/

/-- A member with a text for its value. -/
def textMember (f : String × String) : String × List Char := (f.1, text f.2.toList)

theorem names_map_textMember (fs : List (String × String)) : names (fs.map textMember) = names fs := by
  rw [names, List.map_map]
  rfl

/-- The members `ms` are those of `kept`, all of them known, and foreign ones with texts for values, in any
order. -/
structure Mixes (known kept ms : List (String × List Char)) : Prop where
  isKnown : ∀ m ∈ kept, m ∈ known
  mixed : ∃ foreign : List (String × String),
    (∀ f ∈ foreign, f.1 ∉ names known) ∧ ms.Perm (kept ++ foreign.map textMember)

namespace Mixes

variable {known kept ms : List (String × List Char)}

/-- Members without foreign ones. -/
theorem of_perm (hknown : ∀ m ∈ kept, m ∈ known) (h : ms.Perm kept) : Mixes known kept ms :=
  ⟨hknown, [], fun _ hf => absurd hf List.not_mem_nil, by rwa [List.map_nil, List.append_nil]⟩

/-- A member is known or foreign. -/
theorem known_or_foreign (h : Mixes known kept ms) {m : String × List Char} (hm : m ∈ ms) :
    m ∈ known ∨ m.1 ∉ names known ∧ ∃ f, m = textMember f := by
  obtain ⟨foreign, hforeign, hperm⟩ := h.mixed
  rcases List.mem_append.mp (hperm.mem_iff.mp hm) with hm | hm
  · exact Or.inl (h.isKnown m hm)
  · obtain ⟨f, hf, rfl⟩ := List.mem_map.mp hm
    exact Or.inr ⟨hforeign f hf, f, rfl⟩

/-- A known name is there as often as among the kept members. -/
theorem count_names (h : Mixes known kept ms) {name : String} (hname : name ∈ names known) :
    (names ms).count name = (names kept).count name := by
  obtain ⟨foreign, hforeign, hperm⟩ := h.mixed
  have hnot : name ∉ names (foreign.map textMember) := by
    rw [names_map_textMember]
    intro hmem
    obtain ⟨f, hf, rfl⟩ := List.mem_map.mp hmem
    exact hforeign f hf hname
  calc (names ms).count name
      = (names (kept ++ foreign.map textMember)).count name := (hperm.map Prod.fst).count_eq name
    _ = (names kept).count name + (names (foreign.map textMember)).count name := by
        rw [names, List.map_append, List.count_append]
        rfl
    _ = (names kept).count name := by rw [List.count_eq_zero_of_not_mem hnot, Nat.add_zero]

/-- **Each known member is kept once** exactly if each known name is there once. -/
theorem perm_iff (h : Mixes known kept ms) (hnodup : (names known).Nodup) :
    kept.Perm known ↔ ∀ name ∈ names known, (names ms).count name = 1 := by
  constructor
  · intro hperm name hname
    have hsame : (names kept).count name = (names known).count name :=
      (hperm.map Prod.fst).count_eq name
    rw [h.count_names hname, hsame]
    exact List.count_eq_one_of_mem hnodup hname
  · intro hcount
    have hkept : (names kept).Nodup := by
      rw [List.nodup_iff_count_le_one]
      intro name
      by_cases hname : name ∈ names kept
      · obtain ⟨m, hm, rfl⟩ := List.mem_map.mp hname
        have hknown := mem_names_of_mem (h.isKnown m hm)
        exact Nat.le_of_eq (h.count_names hknown ▸ hcount _ hknown)
      · rw [List.count_eq_zero_of_not_mem hname]
        exact Nat.zero_le 1
    rw [List.perm_ext_iff_of_nodup hkept.of_map hnodup.of_map]
    intro m
    refine ⟨h.isKnown m, fun hm => ?_⟩
    -- the kept member of this name is this very member, since known names are distinct
    have hname := mem_names_of_mem hm
    have honce : (names kept).count m.1 = 1 := by rw [← h.count_names hname, hcount _ hname]
    obtain ⟨m', hm', hsame⟩ := List.mem_map.mp (mem_names_of_count honce)
    exact List.inj_on_of_nodup_map hnodup (h.isKnown m' hm') hm hsame ▸ hm'

end Mixes

end HashReplay.Json
