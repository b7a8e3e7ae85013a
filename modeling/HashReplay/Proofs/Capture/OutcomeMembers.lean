import HashReplay.Proofs.Capture.RoundTrip
import HashReplay.Proofs.Json.Members

/-!
# Outcomes whose members come in any order

What is foreign among the members of an outcome depends on its kind, which may be told last of all.  So
every member is kept until all have been read, and only then the known ones are collected.  Each of them
has to be there, and only once: otherwise there is no outcome, but an error that says what is wrong with
the data.

Reading a member puts its value into a slot.  So the state after some members is a view of these: a slot
is filled if a member of its name is among them.

## Main definitions

* `slot` — what a slot holds after some members.
* `knownAmong` — the fields of an outcome among all its members.
* `Outcome.texts` — the members of an outcome with their texts, the kind among them.

## Main results

* `takesAfter_slot`, `rejectsAfter_slot` — a member that goes into a slot.
* `collectFields_texts`, `exists_collectFields_error` — the fields are collected, or one is there twice.
* `Outcome.ofMembers_texts`, `Outcome.exists_ofMembers_error` — the outcome of the fields.
* `reads_mixed`, `rejects_mixed` — outcomes with mixed members.
-/

namespace HashReplay.Capture

open HashReplay.Json

/-! ### Slots -/

section Slots

variable {α β σ : Type}

/-- What a slot holds after the members `seen`, if members of this name have the value `a`. -/
def slot (seen : List (String × β)) (name : String) (a : α) : Option α :=
  if name ∈ names seen then some a else none

@[simp] theorem slot_nil (name : String) (a : α) : slot ([] : List (String × β)) name a = none := rfl

theorem slot_of_mem {seen : List (String × β)} {name : String} (h : name ∈ names seen) (a : α) :
    slot seen name a = some a := if_pos h

theorem slot_of_not_mem {seen : List (String × β)} {name : String} (h : name ∉ names seen) (a : α) :
    slot seen name a = none := if_neg h

theorem mem_of_slot_eq_some {seen : List (String × β)} {name : String} {a b : α}
    (h : slot seen name a = some b) : name ∈ names seen := by
  by_contra hnot
  rw [slot_of_not_mem hnot] at h
  cases h

/-- One more member fills the slot of its name, and no other. -/
@[simp] theorem slot_concat (seen : List (String × β)) (m : String × β) (name : String) (a : α) :
    slot (seen ++ [m]) name a = if m.1 = name then some a else slot seen name a := by
  have hmem : name ∈ names (seen ++ [m]) ↔ name ∈ names seen ∨ m.1 = name := by
    simp [names, eq_comm]
  by_cases hname : m.1 = name
  · rw [slot_of_mem (hmem.mpr (Or.inr hname)), if_pos hname]
  · simp only [slot, hmem, hname, or_false, if_false]

/-- A slot that is filled rejects a second value without looking at it. -/
theorem rejects_readSlot_some {name : String} {a : α} {read : List Char → Result α} {put : α → σ}
    (v : List Char) : Rejects (readSlot name (some a) read put) v :=
  ⟨.duplicateField name, fun _ _ => rfl⟩

/-- A value that is rejected does not get into a slot. -/
theorem rejects_readSlot {name : String} {old : Option α} {read : List Char → Result α} {put : α → σ}
    {v : List Char} (h : Rejects read v) : Rejects (readSlot name old read put) (':' :: v) := by
  cases old with
  | some a => exact rejects_readSlot_some _
  | none =>
    obtain ⟨e, he⟩ := rejects_memberValue h
    refine ⟨e, fun rest hrest => ?_⟩
    rw [readSlot, he rest hrest]
    rfl

variable {step : List Char → σ → List Char → Result σ} {write : String × β → String × List Char}
  {view : List (String × β) → σ} {seen : List (String × β)} {m : String × β} {name : String} {a : α}
  {read : List Char → Result α} {put : α → σ}

/-- A member that goes into a slot is taken the first time, -/
theorem takesAfter_slot
    (hstep : step (write m).1.toList (view seen) = readSlot name (slot seen name a) read put)
    (hread : Reads read (write m).2 a) (hnext : view (seen ++ [m]) = put a)
    (hnew : name ∉ names seen) : TakesAfter step write view seen m := by
  rw [slot_of_not_mem hnew] at hstep
  show Reads (step (write m).1.toList (view seen)) (':' :: (write m).2) (view (seen ++ [m]))
  rw [hstep, hnext]
  exact reads_readSlot hread name put

/-- and rejected when it is there again, -/
theorem rejectsAfter_slot
    (hstep : step (write m).1.toList (view seen) = readSlot name (slot seen name a) read put)
    (hold : name ∈ names seen) : RejectsAfter step write view seen m := by
  rw [slot_of_mem hold] at hstep
  show Rejects (step (write m).1.toList (view seen)) (':' :: (write m).2)
  rw [hstep]
  exact rejects_readSlot_some _

/-- or if its value is. -/
theorem rejectsAfter_slot_value
    (hstep : step (write m).1.toList (view seen) = readSlot name (slot seen name a) read put)
    (hvalue : Rejects read (write m).2) : RejectsAfter step write view seen m := by
  show Rejects (step (write m).1.toList (view seen)) (':' :: (write m).2)
  rw [hstep]
  exact rejects_readSlot hvalue

end Slots

/-! ### Fields of an outcome -/

theorem names_filter {β : Type} (p : String → Bool) (ms : List (String × β)) :
    names (ms.filter fun m => p m.1) = (names ms).filter p :=
  List.filter_map.symm

/-- A member with a text, as it is kept until the kind is known. -/
def headOf (f : String × String) : List Char × Head := (f.1.toList, .text f.2.toList)

/-- The members with known names. -/
def knownAmong (known : List String) (fs : List (String × String)) : List (String × String) :=
  fs.filter fun f => known.contains f.1

theorem isSome_lookup_iff {name : String} {found : List (String × String)} :
    (found.lookup name).isSome = true ↔ name ∈ names found := by
  rw [List.lookup_isSome_iff]
  constructor
  · rintro ⟨f, hf, heq⟩
    exact eq_of_beq heq ▸ mem_names_of_mem hf
  · intro hname
    obtain ⟨f, hf, rfl⟩ := List.mem_map.mp hname
    exact ⟨f, hf, beq_self_eq_true _⟩

theorem lookup_eq_some {found : List (String × String)} {f : String × String}
    (hnodup : (names found).Nodup) (hf : f ∈ found) : found.lookup f.1 = some f.2 := by
  obtain ⟨before, after, rfl⟩ := List.append_of_mem hf
  have hbefore := not_mem_names_before (List.count_eq_one_of_mem hnodup (mem_names_of_mem hf))
  refine List.lookup_eq_some_iff.mpr ⟨before, after, rfl, fun g hg => ?_⟩
  rw [bne_iff_ne]
  exact fun hname => hbefore (hname ▸ mem_names_of_mem hg)

section CollectFields

variable {known : List String} {found fs : List (String × String)} {f : String × String}

theorem knownAmong_cons_of_mem (h : f.1 ∈ known) :
    found ++ knownAmong known (f :: fs) = found ++ [f] ++ knownAmong known fs := by
  rw [List.append_assoc, knownAmong, List.filter_cons, if_pos (List.contains_iff_mem.mpr h)]
  rfl

theorem knownAmong_cons_of_not_mem (h : f.1 ∉ known) :
    knownAmong known (f :: fs) = knownAmong known fs := by
  rw [knownAmong, List.filter_cons, if_neg (fun hc => h (List.contains_iff_mem.mp hc))]
  rfl

/-- A foreign field is passed over. -/
theorem collectFields_foreign (h : f.1 ∉ known) (hs : List (List Char × Head)) :
    collectFields known found (headOf f :: hs) = collectFields known found hs := by
  simp [collectFields, headOf, h]

/-- A known field is collected, -/
theorem collectFields_new (h : f.1 ∈ known) (hnew : f.1 ∉ names found)
    (hs : List (List Char × Head)) :
    collectFields known found (headOf f :: hs) = collectFields known (found ++ [f]) hs := by
  have hlookup : ¬(found.lookup f.1).isSome = true := fun hsome => hnew (isSome_lookup_iff.mp hsome)
  simp only [collectFields, headOf, String.ofList_toList, if_pos (List.contains_iff_mem.mpr h),
    if_neg hlookup, asText]

/-- and is reported when it is there again. -/
theorem collectFields_again (h : f.1 ∈ known) (hold : f.1 ∈ names found)
    (hs : List (List Char × Head)) :
    collectFields known found (headOf f :: hs) = .error (.duplicateField f.1) := by
  simp only [collectFields, headOf, String.ofList_toList, if_pos (List.contains_iff_mem.mpr h),
    if_pos (isSome_lookup_iff.mpr hold)]

theorem nodup_names_concat :
    (names (found ++ [f])).Nodup ↔ f.1 ∉ names found ∧ (names found).Nodup := by
  rw [names, List.map_append, List.map_singleton, ← List.concat_eq_append, List.nodup_concat]
  rfl

/-- **The known fields are collected** if no name is there twice. -/
theorem collectFields_texts (h : (names (found ++ knownAmong known fs)).Nodup) :
    collectFields known found (fs.map headOf) = .ok (found ++ knownAmong known fs) := by
  -- what has been found and what is still to come stay the same list together
  induction fs generalizing found with
  | nil => rw [knownAmong, List.filter_nil, List.append_nil]; rfl
  | cons f fs ih =>
    by_cases hknown : f.1 ∈ known
    · rw [knownAmong_cons_of_mem hknown] at h ⊢
      have hconcat : (names (found ++ [f])).Nodup := by
        rw [names, List.map_append] at h
        exact h.of_append_left
      rw [List.map_cons, collectFields_new hknown (nodup_names_concat.mp hconcat).1, ih h]
    · rw [knownAmong_cons_of_not_mem hknown] at h ⊢
      rw [List.map_cons, collectFields_foreign hknown, ih h]

/-- A known field that is there twice is reported. -/
theorem exists_collectFields_error (hfound : (names found).Nodup)
    (h : ¬(names (found ++ knownAmong known fs)).Nodup) :
    ∃ e, collectFields known found (fs.map headOf) = .error e := by
  induction fs generalizing found with
  | nil =>
    rw [knownAmong, List.filter_nil, List.append_nil] at h
    exact absurd hfound h
  | cons f fs ih =>
    by_cases hknown : f.1 ∈ known
    · rw [knownAmong_cons_of_mem hknown] at h
      by_cases hagain : f.1 ∈ names found
      · exact ⟨_, collectFields_again hknown hagain _⟩
      · rw [List.map_cons, collectFields_new hknown hagain]
        exact ih (nodup_names_concat.mpr ⟨hagain, hfound⟩) h
    · rw [knownAmong_cons_of_not_mem hknown] at h
      rw [List.map_cons, collectFields_foreign hknown]
      exact ih hfound h

end CollectFields

namespace Outcome

theorem fields_kind (o : Outcome) : o.kind.fields = names o.fields := by
  cases o <;> rfl

theorem nodup_names_fields (o : Outcome) : (names o.fields).Nodup := by
  cases o with
  | passed => exact List.nodup_singleton _
  | mismatch => show ["observed", "expected"].Nodup; decide
  | malformedOutput => exact List.nodup_singleton _
  | launchFailure => exact List.nodup_singleton _

theorem kindName_not_mem (o : Outcome) : kindName ∉ names o.fields := by
  cases o <;> simp [names, fields, kindName]

theorem ne_kindName (o : Outcome) {name : String} (h : name ∈ names o.fields) : name ≠ kindName :=
  fun heq => o.kindName_not_mem (heq ▸ h)

variable {o : Outcome}

/-- An outcome is built from its own texts, -/
theorem build_eq_ok {get : String → Except DataError String}
    (h : ∀ f ∈ o.fields, get f.1 = .ok f.2) : o.kind.build (fun _ name => get name) = .ok o := by
  cases o with
  | passed hash => simp [kind, Kind.build, h ("hash", hash) (by simp [fields]), Except.map]
  | mismatch observed expected =>
    simp [kind, Kind.build, h ("observed", observed) (by simp [fields]),
      h ("expected", expected) (by simp [fields]), Except.map, Except.bind]
  | malformedOutput expected =>
    simp [kind, Kind.build, h ("expected", expected) (by simp [fields]), Except.map]
  | launchFailure message =>
    simp [kind, Kind.build, h ("message", message) (by simp [fields]), Except.map]

/-- and not at all if one of them is lacking. -/
theorem exists_build_error {get : String → Except DataError String} {name : String}
    (hname : name ∈ names o.fields) {e : DataError} (h : get name = .error e) :
    ∃ e', o.kind.build (fun _ name => get name) = .error e' := by
  cases o with
  | passed hash =>
    obtain rfl := List.mem_singleton.mp hname
    exact ⟨e, by simp [kind, Kind.build, h, Except.map]⟩
  | mismatch observed expected =>
    have hcases : name = "observed" ∨ name = "expected" := by simpa [names, fields] using hname
    rcases hcases with rfl | rfl
    · exact ⟨e, by simp [kind, Kind.build, h, Except.bind]⟩
    · cases hobserved : get "observed" with
      | error e' => exact ⟨e', by simp [kind, Kind.build, hobserved, Except.bind]⟩
      | ok s => exact ⟨e, by simp [kind, Kind.build, hobserved, h, Except.map, Except.bind]⟩
  | malformedOutput expected =>
    obtain rfl := List.mem_singleton.mp hname
    exact ⟨e, by simp [kind, Kind.build, h, Except.map]⟩
  | launchFailure message =>
    obtain rfl := List.mem_singleton.mp hname
    exact ⟨e, by simp [kind, Kind.build, h, Except.map]⟩

variable {fs : List (String × String)}

/-- A name that is known is as often among the known fields as among all. -/
theorem count_knownAmong {name : String} (h : name ∈ names o.fields) :
    (names (knownAmong (names o.fields) fs)).count name = (names fs).count name := by
  rw [knownAmong, names_filter]
  exact List.count_filter (List.contains_iff_mem.mpr h)

/-- Among the known fields no name is there twice if none of them is there twice among all. -/
theorem nodup_knownAmong_iff :
    (names (knownAmong (names o.fields) fs)).Nodup ↔
      ∀ name ∈ names o.fields, (names fs).count name ≤ 1 := by
  rw [List.nodup_iff_count_le_one]
  constructor
  · intro h name hname
    rw [← count_knownAmong hname]
    exact h name
  · intro h name
    by_cases hname : name ∈ names o.fields
    · rw [count_knownAmong hname]
      exact h name hname
    · have hforeign : name ∉ names (knownAmong (names o.fields) fs) := by
        rw [knownAmong, names_filter, List.mem_filter]
        exact fun hmem => hname (List.contains_iff_mem.mp hmem.2)
      rw [List.count_eq_zero_of_not_mem hforeign]
      exact Nat.zero_le 1

/-- **The texts of an outcome are found** among any members, in any order, if each of its names is there
once. -/
theorem ofMembers_texts (hfs : ∀ f ∈ fs, f.1 ∈ names o.fields → f ∈ o.fields)
    (hcount : ∀ name ∈ names o.fields, (names fs).count name = 1) :
    Outcome.ofMembers o.kind (fs.map headOf) = .ok o := by
  have hnodup : (names (knownAmong (names o.fields) fs)).Nodup :=
    nodup_knownAmong_iff.mpr fun name hname => Nat.le_of_eq (hcount name hname)
  have hcollect : collectFields (names o.fields) [] (fs.map headOf) =
      .ok ([] ++ knownAmong (names o.fields) fs) := collectFields_texts hnodup
  rw [ofMembers, fields_kind, hcollect, List.nil_append]
  apply build_eq_ok
  intro f hf
  -- the member of this name among `fs` is the field itself
  have hname := mem_names_of_mem hf
  obtain ⟨g, hg, hsame⟩ := List.mem_map.mp (mem_names_of_count (hcount f.1 hname))
  obtain rfl : g = f :=
    List.inj_on_of_nodup_map o.nodup_names_fields (hfs g hg (hsame ▸ hname)) hf hsame
  have hknown : g ∈ knownAmong (names o.fields) fs :=
    List.mem_filter.mpr ⟨hg, List.contains_iff_mem.mpr hname⟩
  rw [lookup_eq_some hnodup hknown]
  rfl

/-- There is no outcome if one of its names is not there exactly once. -/
theorem exists_ofMembers_error {name : String} (hname : name ∈ names o.fields)
    (hcount : (names fs).count name ≠ 1) :
    ∃ e, Outcome.ofMembers o.kind (fs.map headOf) = .error e := by
  by_cases hnodup : (names (knownAmong (names o.fields) fs)).Nodup
  · -- then the name is lacking
    have hcollect : collectFields (names o.fields) [] (fs.map headOf) =
        .ok ([] ++ knownAmong (names o.fields) fs) := collectFields_texts hnodup
    have hle := nodup_knownAmong_iff.mp hnodup name hname
    have hnone : (knownAmong (names o.fields) fs).lookup name = none := by
      rw [← Option.not_isSome_iff_eq_none, isSome_lookup_iff, ← List.count_pos_iff,
        count_knownAmong hname]
      omega
    rw [ofMembers, fields_kind, hcollect, List.nil_append]
    exact exists_build_error hname (by rw [hnone]; rfl)
  · have hcollect : ∃ e, collectFields (names o.fields) [] (fs.map headOf) = .error e :=
      exists_collectFields_error List.nodup_nil hnodup
    obtain ⟨e, he⟩ := hcollect
    exact ⟨e, by rw [ofMembers, fields_kind, he]⟩

/-! ### Outcomes with mixed members -/

/-- The members of an outcome with their texts, the kind first. -/
def texts (o : Outcome) : List (String × String) := (kindName, o.kind.name) :: o.fields

theorem members_eq_map (o : Outcome) : o.members = o.texts.map textMember := by
  rw [members, details_eq_map]
  rfl

theorem names_members (o : Outcome) : names o.members = names o.texts := by
  rw [members_eq_map, names_map_textMember]

theorem nodup_names_texts (o : Outcome) : (names o.texts).Nodup :=
  List.nodup_cons.mpr ⟨o.kindName_not_mem, o.nodup_names_fields⟩

end Outcome

/-- The members of an outcome beside its kind. -/
def besideKind (fs : List (String × String)) : List (String × String) :=
  fs.filter fun f => f.1 != kindName

/-- What is known of an outcome after some of its members. -/
def OutcomeSlots.after (o : Outcome) (seen : List (String × String)) : OutcomeSlots :=
  ⟨slot seen kindName o.kind, (besideKind seen).map headOf⟩

section OutcomeMembers

variable {o : Outcome} {seen fs : List (String × String)} {f : String × String} {depth : Nat}

/-- A member beside the kind is kept. -/
theorem takesAfter_beside (h : f.1 ≠ kindName) :
    TakesAfter (outcomeMember depth) textMember (OutcomeSlots.after o) seen f := by
  intro rest hrest
  have hname : f.1.toList ≠ kindName.toList := fun hlist => h (String.toList_inj.mp hlist)
  have hvalue := reads_memberValue (reads_readAny_text depth f.2) rest hrest
  have hafter : OutcomeSlots.after o (seen ++ [f]) =
      ⟨slot seen kindName o.kind, (besideKind seen).map headOf ++ [headOf f]⟩ := by
    simp [OutcomeSlots.after, besideKind, h]
  rw [hafter, textMember, outcomeMember, if_neg hname]
  rw [textJson] at hvalue
  rw [hvalue]
  rfl

theorem outcomeMember_kind (depth : Nat) (o : Outcome) (seen : List (String × String)) :
    outcomeMember depth kindName.toList (OutcomeSlots.after o seen) =
      readSlot kindName (slot seen kindName o.kind) readKind
        fun k => ⟨some k, (besideKind seen).map headOf⟩ := by
  funext s
  rw [outcomeMember, if_pos rfl]
  rfl

/-- The kind is taken the first time, -/
theorem takesAfter_kind (h : f = (kindName, o.kind.name)) (hnew : f.1 ∉ names seen) :
    TakesAfter (outcomeMember depth) textMember (OutcomeSlots.after o) seen f := by
  subst h
  have hnext : OutcomeSlots.after o (seen ++ [(kindName, o.kind.name)]) =
      ⟨some o.kind, (besideKind seen).map headOf⟩ := by
    simp [OutcomeSlots.after, besideKind]
  exact takesAfter_slot (outcomeMember_kind depth o seen) (reads_readKind o.kind) hnext hnew

/-- and rejected when it is there again. -/
theorem rejectsAfter_kind (h : f.1 = kindName) (hold : f.1 ∈ names seen) :
    RejectsAfter (outcomeMember depth) textMember (OutcomeSlots.after o) seen f := by
  obtain ⟨name, value⟩ := f
  obtain rfl : name = kindName := h
  exact rejectsAfter_slot (outcomeMember_kind depth o seen) hold

/-- The members are all taken if the kind is there once. -/
theorem takes_outcomeMember (depth : Nat) (hfs : ∀ f ∈ fs, f.1 = kindName → f = (kindName, o.kind.name))
    (hcount : (names fs).count kindName = 1) :
    Takes (outcomeMember depth) ⟨none, []⟩ (fs.map textMember)
      ⟨some o.kind, (besideKind fs).map headOf⟩ := by
  have htakes : Takes (outcomeMember depth) (OutcomeSlots.after o []) (fs.map textMember)
      (OutcomeSlots.after o fs) := by
    apply takes_of_view
    intro before f after hsplit
    rw [List.nil_append]
    by_cases hname : f.1 = kindName
    · have hf : f ∈ fs := hsplit ▸ List.mem_append_cons_self
      have honce : (names (before ++ f :: after)).count f.1 = 1 := hsplit ▸ hname.symm ▸ hcount
      exact takesAfter_kind (hfs f hf hname) (not_mem_names_before honce)
    · exact takesAfter_beside hname
  have hkind : kindName ∈ names fs := mem_names_of_count hcount
  rw [OutcomeSlots.after, OutcomeSlots.after, slot_of_mem hkind] at htakes
  exact htakes

/-- They are rejected if it is not. -/
theorem rejects_outcomeMember (depth : Nat) (hfs : ∀ f ∈ fs, f.1 = kindName → f = (kindName, o.kind.name))
    (hcount : (names fs).count kindName ≠ 1) :
    ∃ e, ∀ rest, readObject (outcomeMember depth) OutcomeSlots.finish ⟨none, []⟩
      (commaSeparated ((fs.map textMember).map member) ++ '\x7d' :: rest) = .error (.data e) := by
  show ∃ e, ∀ rest, readObject (outcomeMember depth) OutcomeSlots.finish (OutcomeSlots.after o []) _ = _
  apply rejects_readObject
  · intro before f after hsplit
    have hf : f ∈ fs := hsplit ▸ List.mem_append_cons_self
    by_cases hname : f.1 = kindName
    · by_cases hold : f.1 ∈ names before
      · exact Or.inr (rejectsAfter_kind hname hold)
      · exact Or.inl (takesAfter_kind (hfs f hf hname) hold)
    · exact Or.inl (takesAfter_beside hname)
  · by_cases hnone : kindName ∈ names fs
    · left
      have hpos := List.count_pos_iff.mpr hnone
      have htwice : 2 ≤ (names fs).count kindName := by omega
      obtain ⟨before, f, after, hsplit, hname, hold⟩ := exists_again htwice
      exact ⟨before, f, after, hsplit, rejectsAfter_kind hname (hname ▸ hold)⟩
    · right
      rw [OutcomeSlots.after, slot_of_not_mem hnone]
      exact ⟨_, rfl⟩

/-- The known members beside the kind are as many as among all. -/
theorem count_besideKind {name : String} (h : name ≠ kindName) :
    (names (besideKind fs)).count name = (names fs).count name := by
  rw [besideKind, names_filter fun name => name != kindName]
  exact List.count_filter (bne_iff_ne.mpr h)

/-- The members of a mixed outcome all have texts for values, and those with known names are its
own. -/
theorem exists_texts {kept ms : List (String × List Char)} (h : Mixes o.members kept ms) :
    ∃ fs : List (String × String), ms = fs.map textMember ∧
      ∀ f ∈ fs, f.1 ∈ names o.texts → f ∈ o.texts := by
  have hms : ∀ m ∈ ms, ∃ f, m = textMember f ∧ (f.1 ∈ names o.texts → f ∈ o.texts) := by
    intro m hm
    rcases h.known_or_foreign hm with hknown | ⟨hforeign, f, rfl⟩
    · rw [o.members_eq_map] at hknown
      obtain ⟨f, hf, rfl⟩ := List.mem_map.mp hknown
      exact ⟨f, rfl, fun _ => hf⟩
    · rw [o.names_members] at hforeign
      exact ⟨f, rfl, fun hname => absurd hname hforeign⟩
  clear h
  induction ms with
  | nil => exact ⟨[], rfl, fun _ hf => absurd hf List.not_mem_nil⟩
  | cons m ms ih =>
    obtain ⟨f, rfl, hf⟩ := hms m List.mem_cons_self
    obtain ⟨fs, rfl, hfs⟩ := ih fun m hm => hms m (List.mem_cons_of_mem _ hm)
    exact ⟨f :: fs, rfl, List.forall_mem_cons.mpr ⟨hf, hfs⟩⟩

/-- What has the name of the kind is the kind, -/
theorem eq_kind_of_texts (hfs : ∀ f ∈ fs, f.1 ∈ names o.texts → f ∈ o.texts) :
    ∀ f ∈ fs, f.1 = kindName → f = (kindName, o.kind.name) := by
  intro f hf hname
  have htext : f ∈ o.texts := hfs f hf (hname ▸ List.mem_cons_self)
  rcases List.mem_cons.mp htext with rfl | hfield
  · rfl
  · exact absurd (hname ▸ mem_names_of_mem hfield) o.kindName_not_mem

/-- and what has the name of a field is this field. -/
theorem mem_fields_of_texts (hfs : ∀ f ∈ fs, f.1 ∈ names o.texts → f ∈ o.texts) :
    ∀ f ∈ besideKind fs, f.1 ∈ names o.fields → f ∈ o.fields := by
  intro f hf hname
  obtain ⟨hf, hbeside⟩ := List.mem_filter.mp hf
  have htext : f ∈ o.texts := hfs f hf (List.mem_cons_of_mem _ hname)
  rcases List.mem_cons.mp htext with rfl | hfield
  · exact absurd rfl (bne_iff_ne.mp hbeside)
  · exact hfield

/-- An object is read as an outcome by its members. -/
theorem readOutcome_object (ms : List (String × List Char)) (rest : List Char) :
    readOutcome depth (Json.object ms ++ rest) =
      (readObject (outcomeMember depth) OutcomeSlots.finish ⟨none, []⟩
        (commaSeparated (ms.map member) ++ '\x7d' :: rest)).bind
          fun p => judge p.2 (Outcome.ofMembers p.1.1 p.1.2) := by
  rw [Json.object, List.cons_append, List.append_assoc, List.singleton_append, readOutcome,
    readHead_brace]
  cases hobject : readObject (outcomeMember depth) OutcomeSlots.finish ⟨none, []⟩
      (commaSeparated (ms.map member) ++ '\x7d' :: rest) with
  | error e => simp only [hobject, Except.bind]
  | ok p => simp only [hobject, Except.bind]

/-- **An outcome is read whatever the order of its members is**, with foreign ones among them. -/
theorem reads_mixed (depth : Nat) {kept ms : List (String × List Char)} (h : Mixes o.members kept ms)
    (hkept : kept.Perm o.members) : Reads (readOutcome depth) (Json.object ms) o := by
  have hcount := (h.perm_iff (o.names_members ▸ o.nodup_names_texts)).mp hkept
  rw [o.names_members] at hcount
  obtain ⟨fs, rfl, hfs⟩ := exists_texts h
  rw [names_map_textMember] at hcount
  have hfields : ∀ name ∈ names o.fields, (names (besideKind fs)).count name = 1 := by
    intro name hname
    rw [count_besideKind (o.ne_kindName hname)]
    exact hcount name (List.mem_cons_of_mem _ hname)
  have hmembers := takes_outcomeMember depth (eq_kind_of_texts hfs)
    (hcount kindName List.mem_cons_self)
  have hfinish : OutcomeSlots.finish ⟨some o.kind, (besideKind fs).map headOf⟩ =
      .ok (o.kind, (besideKind fs).map headOf) := rfl
  have houtcome := Outcome.ofMembers_texts (mem_fields_of_texts hfs) hfields
  intro rest _
  have hobject := readObject_members hmembers hfinish rest
  rw [readOutcome_object, hobject]
  show judge rest (Outcome.ofMembers o.kind _) = _
  rw [houtcome]
  rfl

/-- **An outcome is rejected** if a known member is lacking or there again. -/
theorem rejects_mixed (depth : Nat) {kept ms : List (String × List Char)} (h : Mixes o.members kept ms)
    (hkept : ¬kept.Perm o.members) : Rejects (readOutcome depth) (Json.object ms) := by
  rw [h.perm_iff (o.names_members ▸ o.nodup_names_texts), o.names_members] at hkept
  obtain ⟨fs, rfl, hfs⟩ := exists_texts h
  rw [names_map_textMember] at hkept
  by_cases hkind : (names fs).count kindName = 1
  · -- the kind is known, so the fault is in one of its fields
    obtain ⟨name, hname, hcount⟩ : ∃ name ∈ names o.fields, (names (besideKind fs)).count name ≠ 1 := by
      by_contra! hall
      apply hkept
      intro name hname
      rcases List.mem_cons.mp hname with rfl | hname
      · exact hkind
      · rw [← count_besideKind (o.ne_kindName hname)]
        exact hall name hname
    have hmembers := takes_outcomeMember depth (eq_kind_of_texts hfs) hkind
    have hfinish : OutcomeSlots.finish ⟨some o.kind, (besideKind fs).map headOf⟩ =
        .ok (o.kind, (besideKind fs).map headOf) := rfl
    obtain ⟨e, herror⟩ := Outcome.exists_ofMembers_error hname hcount
    refine ⟨e, fun rest _ => ?_⟩
    have hobject := readObject_members hmembers hfinish rest
    rw [readOutcome_object, hobject]
    show judge rest (Outcome.ofMembers o.kind _) = _
    rw [herror]
    rfl
  · obtain ⟨e, herror⟩ := rejects_outcomeMember depth (eq_kind_of_texts hfs) hkind
    refine ⟨e, fun rest _ => ?_⟩
    rw [readOutcome_object, herror]
    rfl

end OutcomeMembers

end HashReplay.Capture
