import HashReplay.Proofs.Json.Text

/-!
# Written arrays and objects are read back

The elements of a written array are read one by one, if the reader of elements takes each of them.  The
members of a written object are given to the step one by one, so what an object is read as depends only
on where the step leads from member to member.

## Main definitions

* `StartsValue` — a text that starts like a value, and not like a blank or the end of an array.
* `Takes` — a step takes written members and leads from one state to another.

## Main results

* `readElements_separated`, `reads_readStrings` — arrays are read back.
* `readObject_members` — an object is read as what the step makes of its members.
-/

namespace HashReplay.Json

/-! ### Arrays -/

/-- A text that starts with neither a blank nor the bracket that closes an array. -/
def StartsValue (s : List Char) : Prop := ∃ c t, s = c :: t ∧ isSpace c = false ∧ c ≠ ']'

theorem startsValue_text (s : List Char) : StartsValue (text s) :=
  ⟨'"', s.flatMap escape ++ ['"'], rfl, by decide, by decide⟩

/-- What follows a value among written values is more of them, or the closing bracket. -/
theorem endsValue_separated (vs : List (List Char)) {s : List Char} (h : EndsValue s) :
    EndsValue (separated false vs ++ s) := by
  cases vs with
  | nil => exact h
  | cons v vs => exact endsValue_comma _

theorem nextElement_bracket (first : Bool) (s : List Char) :
    nextElement first (']' :: s) = .ok none := by
  have hspace : isSpace ']' = false := by decide
  rw [nextElement, skipSpace_cons hspace]
  simp

/-- The next element is found behind its comma, and the first one without. -/
theorem nextElement_value {v : List Char} (h : StartsValue v) (first : Bool) (s : List Char) :
    nextElement first ((if first then v else ',' :: v) ++ s) = .ok (some (v ++ s)) := by
  obtain ⟨c, t, rfl, hspace, hend⟩ := h
  have hcomma : isSpace ',' = false := by decide
  cases first with
  | true =>
    rw [if_pos rfl, List.cons_append, nextElement, skipSpace_cons hspace]
    simp [hend]
  | false =>
    rw [if_neg Bool.false_ne_true, List.cons_append, List.cons_append, nextElement,
      skipSpace_cons hcomma]
    simp [skipSpace_cons hspace, hend]

/-- **The elements of a written array are read back.** -/
theorem readElements_separated {read : List Char → Result α} {write : α → List Char} {xs : List α}
    (h : ∀ x ∈ xs, StartsValue (write x) ∧ Reads read (write x) x) (first : Bool) {fuel : Nat}
    (hfuel : xs.length < fuel) (rest : List Char) :
    readElements read fuel first (separated first (xs.map write) ++ ']' :: rest) =
      .ok (xs, ']' :: rest) := by
  induction xs generalizing first fuel with
  | nil =>
    obtain ⟨n, rfl⟩ : ∃ n, fuel = n + 1 := Nat.exists_eq_add_one_of_ne_zero (Nat.ne_of_gt hfuel)
    rw [List.map_nil, separated, List.nil_append, readElements, nextElement_bracket]
  | cons x xs ih =>
    obtain ⟨hstart, hread⟩ := h x List.mem_cons_self
    obtain ⟨n, rfl⟩ : ∃ n, fuel = n + 1 := ⟨fuel - 1, by omega⟩
    have hfuel' : xs.length < n := Nat.lt_of_succ_lt_succ hfuel
    have htail := ih (fun y hy => h y (List.mem_cons_of_mem x hy)) false hfuel'
    have hvalue := hread _ (endsValue_separated (xs.map write) (endsValue_bracket rest))
    rw [List.map_cons, separated, List.append_assoc, readElements, nextElement_value hstart]
    simp only [hvalue, htail, Except.map]

/-- Written values are at least as long as their number, if none is empty. -/
theorem length_le_separated {vs : List (List Char)} (h : ∀ v ∈ vs, v ≠ []) (first : Bool) :
    vs.length ≤ (separated first vs).length := by
  induction vs generalizing first with
  | nil => exact Nat.le_refl 0
  | cons v vs ih =>
    have hpos : 0 < v.length := List.length_pos_iff.mpr (h v List.mem_cons_self)
    have htail := ih (fun w hw => h w (List.mem_cons_of_mem v hw)) false
    cases first <;> simp [separated] <;> omega

/-- **A written array of texts is read back.** -/
theorem reads_readStrings (xs : List String) :
    Reads readStrings (array (xs.map fun s => text s.toList)) xs := by
  intro rest _
  have helement : ∀ x ∈ xs, StartsValue (text x.toList) ∧ Reads readString (text x.toList) x :=
    fun x _ => ⟨startsValue_text x.toList, reads_readString x⟩
  have hne : ∀ v ∈ xs.map fun s => text s.toList, v ≠ [] := by
    intro v hv
    obtain ⟨s, -, rfl⟩ := List.mem_map.mp hv
    exact List.cons_ne_nil _ _
  have hlength := length_le_separated hne true
  have hend : isSpace ']' = false := by decide
  rw [array, List.cons_append, readStrings, readHead_bracket]
  simp only [List.append_assoc, List.singleton_append, commaSeparated_eq_separated]
  rw [readElements_separated helement true (by simp at hlength ⊢; omega)]
  simp [endArray, skipSpace_cons hend, Except.map]

/-! ### Objects -/

/-- The step takes written members one after another and leads from one state to another. -/
inductive Takes (step : List Char → σ → List Char → Result σ) :
    σ → List (String × List Char) → σ → Prop
  | nil (a : σ) : Takes step a [] a
  | cons {a b c : σ} {name : String} {value : List Char} {ms : List (String × List Char)}
      (head : Reads (step name.toList a) (':' :: value) b) (tail : Takes step b ms c) :
      Takes step a ((name, value) :: ms) c

theorem nextName_brace (first : Bool) (s : List Char) :
    nextName first ('\x7d' :: s) = .ok (none, '\x7d' :: s) := by
  have hspace : isSpace '\x7d' = false := by decide
  rw [nextName, skipSpace_cons hspace]
  simp

/-- The name of the next member is found behind its comma, and that of the first one without. -/
theorem nextName_member (m : String × List Char) (first : Bool) (s : List Char) :
    nextName first ((if first then member m else ',' :: member m) ++ s) =
      .ok (some m.1.toList, ':' :: (m.2 ++ s)) := by
  have hquote : isSpace '"' = false := by decide
  have hcomma : isSpace ',' = false := by decide
  have hname := readText_escaped m.1.toList (':' :: (m.2 ++ s))
  cases first with
  | true =>
    simp [nextName, member, text, skipSpace_cons hquote, hname, ofFault, Except.map]
  | false =>
    simp [nextName, member, text, skipSpace_cons hcomma, skipSpace_cons hquote, hname, ofFault,
      Except.map]

/-- The members of a written object lead from the first state to the last one. -/
theorem readMembers_separated {step : List Char → σ → List Char → Result σ} {a c : σ}
    {ms : List (String × List Char)} (h : Takes step a ms c) (first : Bool) {fuel : Nat}
    (hfuel : ms.length < fuel) (rest : List Char) :
    readMembers step fuel first a (separated first (ms.map member) ++ '\x7d' :: rest) =
      .ok (c, '\x7d' :: rest) := by
  induction h generalizing first fuel with
  | nil a =>
    obtain ⟨n, rfl⟩ : ∃ n, fuel = n + 1 := Nat.exists_eq_add_one_of_ne_zero (Nat.ne_of_gt hfuel)
    rw [List.map_nil, separated, List.nil_append, readMembers, nextName_brace]
  | @cons a b c name value ms head _ ih =>
    obtain ⟨n, rfl⟩ : ∃ n, fuel = n + 1 := ⟨fuel - 1, by omega⟩
    have hfuel' : ms.length < n := Nat.lt_of_succ_lt_succ hfuel
    have htail := ih false hfuel'
    have hvalue := head _ (endsValue_separated (ms.map member) (endsValue_brace rest))
    rw [List.cons_append] at hvalue
    rw [List.map_cons, separated, List.append_assoc, readMembers, nextName_member]
    simp only [hvalue, htail]

/-- **A written object is read** as what is made of the state to which its members lead. -/
theorem readObject_members {step : List Char → σ → List Char → Result σ}
    {finish : σ → Except DataError α} {start state : σ} {ms : List (String × List Char)} {x : α}
    (h : Takes step start ms state) (hfinish : finish state = .ok x) (rest : List Char) :
    readObject step finish start (commaSeparated (ms.map member) ++ '\x7d' :: rest) =
      .ok (x, rest) := by
  have hne : ∀ v ∈ ms.map member, v ≠ [] := by
    intro v hv
    obtain ⟨m, -, rfl⟩ := List.mem_map.mp hv
    exact List.cons_ne_nil _ _
  have hlength := length_le_separated hne true
  have hend : isSpace '\x7d' = false := by decide
  rw [commaSeparated_eq_separated, readObject,
    readMembers_separated h true (by simp at hlength ⊢; omega)]
  simp [hfinish, endObject, skipSpace_cons hend, Except.map]

/-- The value of a member is read behind its colon. -/
theorem reads_memberValue {read : List Char → Result α} {v : List Char} {a : α}
    (h : Reads read v a) : Reads (memberValue read) (':' :: v) a := by
  intro rest hrest
  have hcolon : isSpace ':' = false := by decide
  rw [List.cons_append, memberValue, colon, skipSpace_cons hcolon]
  simp [h rest hrest]

end HashReplay.Json
