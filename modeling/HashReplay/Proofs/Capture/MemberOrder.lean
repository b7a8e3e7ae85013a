import HashReplay.Proofs.Capture.OutcomeMembers

/-!
# Records whose members come in any order

A record is written with its members in one order, but it is read whatever their order is, and foreign
members between them are passed over.  The same holds for the members of its outcome.  Every known member
has to be there, and only once: otherwise there is no record, but an error that says what is wrong with
the data.

## Main definitions

* `Record.membersWith` — the members of a record around the written forms of its moment and its outcome.
* `Record.PartsRead` — the parts of a record beside its outcome are read back.
* `RecordSlots.after` — what is known of a record after some of its members.

## Main results

* `Record.ofJson_mixed`, `Record.exists_ofJson_error` — records with mixed members.
* `Record.ofJson_written` — the written form as one of their arrangements.
* `Record.ofJson_rearranged` — written records, rearranged in any way.
-/

namespace HashReplay.Capture

open HashReplay.Json

/-! ### Members of a record -/

/-- The members of a record around the written forms of its moment and its outcome. -/
def Record.membersWith (r : Record) (timestamp outcome : List Char) : List (String × List Char) :=
  (r.members timestamp).dropLast ++ [("outcome", outcome)]

/-- The parts of a record beside its outcome are read from their written forms, its elapsed time as
`d`. -/
structure Record.PartsRead (r : Record) (timestamp : List Char) (d : Duration) : Prop where
  seq_le : r.seq ≤ maxWord
  timestamp : Reads readTimestamp timestamp r.timestamp
  elapsed : Reads readElapsed (Binary64.magnitudeText (millis r.elapsed)) d

/-- What is known of a record after some of its members; its elapsed time is read as `d`. -/
def RecordSlots.after (r : Record) (d : Duration) (seen : List (String × List Char)) : RecordSlots :=
  ⟨slot seen "seq" r.seq, slot seen "timestamp" r.timestamp, slot seen "elapsed_ms" d,
    slot seen "argv" r.argv, slot seen "outcome" r.outcome⟩

section RecordMembers

variable (slots : RecordSlots)

/-- The names of the members of a record. -/
def recordNames : List String := ["seq", "timestamp", "elapsed_ms", "argv", "outcome"]

theorem recordMember_foreign {name : String} (h : name ∉ recordNames) :
    recordMember name.toList slots = skipMember slots := by
  funext s
  simp only [recordNames, List.mem_cons, List.not_mem_nil, or_false, not_or] at h
  obtain ⟨hseq, htimestamp, helapsed, hargv, houtcome⟩ := h
  simp only [recordMember, String.toList_inj, if_neg hseq, if_neg htimestamp, if_neg helapsed,
    if_neg hargv, if_neg houtcome]

/-- Only full slots make a record. -/
theorem RecordSlots.eq_of_finish {r : Record} (h : slots.finish = .ok r) :
    slots = ⟨some r.seq, some r.timestamp, some r.elapsed, some r.argv, some r.outcome⟩ := by
  obtain ⟨_ | seq, _ | timestamp, _ | elapsed, _ | argv, _ | outcome⟩ := slots <;> cases h
  rfl

end RecordMembers

namespace Record

variable {r : Record} {timestamp outcome : List Char} {d : Duration}
  {seen kept ms : List (String × List Char)} {m : String × List Char}

theorem names_membersWith (r : Record) (timestamp outcome : List Char) :
    names (r.membersWith timestamp outcome) = recordNames := rfl

theorem nodup_names_membersWith (r : Record) (timestamp outcome : List Char) :
    (names (r.membersWith timestamp outcome)).Nodup := by
  rw [names_membersWith]
  decide

theorem eq_outcome_of_name (hm : m ∈ r.membersWith timestamp outcome) (hname : m.1 = "outcome") :
    m = ("outcome", outcome) := by
  have houtcome : ("outcome", outcome) ∈ r.membersWith timestamp outcome :=
    List.mem_append_right _ List.mem_cons_self
  exact List.inj_on_of_nodup_map (nodup_names_membersWith r timestamp outcome) hm houtcome hname

/-- A foreign member is passed over. -/
theorem takesAfter_foreign (h : m.1 ∉ recordNames) {f : String × String} (hm : m = textMember f) :
    TakesAfter recordMember id (RecordSlots.after r d) seen m := by
  have hafter : RecordSlots.after r d (seen ++ [m]) = RecordSlots.after r d seen := by
    simp only [recordNames, List.mem_cons, List.not_mem_nil, or_false, not_or] at h
    obtain ⟨hseq, htimestamp, helapsed, hargv, houtcome⟩ := h
    simp only [RecordSlots.after, slot_concat, if_neg hseq, if_neg htimestamp, if_neg helapsed,
      if_neg hargv, if_neg houtcome]
  show Reads (recordMember m.1.toList (RecordSlots.after r d seen)) (':' :: m.2) _
  rw [recordMember_foreign _ h, hafter, hm]
  exact reads_skipMember _ _

/-- A member of a record is taken the first time, -/
theorem takesAfter_known (hparts : r.PartsRead timestamp d)
    (houtcome : m.1 = "outcome" → Reads (readOutcome recordDepth) outcome r.outcome)
    (hm : m ∈ r.membersWith timestamp outcome) (hnew : m.1 ∉ names seen) :
    TakesAfter recordMember id (RecordSlots.after r d) seen m := by
  simp only [membersWith, members, List.dropLast, List.cons_append, List.nil_append, List.mem_cons,
    List.not_mem_nil, or_false] at hm
  rcases hm with rfl | rfl | rfl | rfl | rfl
  · exact takesAfter_slot (recordMember_seq _) (reads_readWord 64 hparts.seq_le hparts.seq_le "u64")
      (by simp [RecordSlots.after]) hnew
  · exact takesAfter_slot (recordMember_timestamp _) hparts.timestamp (by simp [RecordSlots.after]) hnew
  · exact takesAfter_slot (recordMember_elapsed _) hparts.elapsed (by simp [RecordSlots.after]) hnew
  · exact takesAfter_slot (recordMember_argv _) (reads_readStrings r.argv)
      (by simp [RecordSlots.after]) hnew
  · exact takesAfter_slot (recordMember_outcome _) (houtcome rfl) (by simp [RecordSlots.after]) hnew

/-- and rejected when it is there again. -/
theorem rejectsAfter_known (hm : m ∈ r.membersWith timestamp outcome) (hold : m.1 ∈ names seen) :
    RejectsAfter recordMember id (RecordSlots.after r d) seen m := by
  simp only [membersWith, members, List.dropLast, List.cons_append, List.nil_append, List.mem_cons,
    List.not_mem_nil, or_false] at hm
  rcases hm with rfl | rfl | rfl | rfl | rfl
  · exact rejectsAfter_slot (recordMember_seq _) hold
  · exact rejectsAfter_slot (recordMember_timestamp _) hold
  · exact rejectsAfter_slot (recordMember_elapsed _) hold
  · exact rejectsAfter_slot (recordMember_argv _) hold
  · exact rejectsAfter_slot (recordMember_outcome _) hold

/-- The slots that no member has filled make no record. -/
theorem exists_finish_error {name : String} (h : name ∈ recordNames) (hnone : name ∉ names ms) :
    ∃ e, (RecordSlots.after r d ms).finish = .error e := by
  cases hfinish : (RecordSlots.after r d ms).finish with
  | error e => exact ⟨e, rfl⟩
  | ok r' =>
    have hslots := RecordSlots.eq_of_finish _ hfinish
    simp only [RecordSlots.after, RecordSlots.mk.injEq] at hslots
    obtain ⟨hseq, htimestamp, helapsed, hargv, houtcome⟩ := hslots
    simp only [recordNames, List.mem_cons, List.not_mem_nil, or_false] at h
    rcases h with rfl | rfl | rfl | rfl | rfl
    · exact absurd (mem_of_slot_eq_some hseq) hnone
    · exact absurd (mem_of_slot_eq_some htimestamp) hnone
    · exact absurd (mem_of_slot_eq_some helapsed) hnone
    · exact absurd (mem_of_slot_eq_some hargv) hnone
    · exact absurd (mem_of_slot_eq_some houtcome) hnone

/-- A text with an object is read as a record by its members. -/
theorem ofJson_object (ms : List (String × List Char)) :
    ofJson (Json.object ms) = complete (readObject recordMember RecordSlots.finish
      ⟨none, none, none, none, none⟩) (commaSeparated (ms.map member) ++ ['\x7d']) := by
  rw [ofJson, complete, Json.object, readRecord, readHead_brace, complete]

/-- **A record is read whatever the order of its members is**, with foreign ones among them. -/
theorem ofJson_mixed (hparts : r.PartsRead timestamp d)
    (houtcome : Reads (readOutcome recordDepth) outcome r.outcome)
    (h : Mixes (r.membersWith timestamp outcome) kept ms)
    (hkept : kept.Perm (r.membersWith timestamp outcome)) :
    ofJson (Json.object ms) = .ok { r with elapsed := d } := by
  have hcount := (h.perm_iff (nodup_names_membersWith r timestamp outcome)).mp hkept
  have hmembers : Takes recordMember (RecordSlots.after r d []) (ms.map id)
      (RecordSlots.after r d ms) := by
    apply takes_of_view
    intro before m after hsplit
    rw [List.nil_append]
    have hm : m ∈ ms := hsplit ▸ List.mem_append_cons_self
    rcases h.known_or_foreign hm with hknown | ⟨hforeign, f, hf⟩
    · have honce : (names (before ++ m :: after)).count m.1 = 1 :=
        hsplit ▸ hcount m.1 (mem_names_of_mem hknown)
      exact takesAfter_known hparts (fun _ => houtcome) hknown (not_mem_names_before honce)
    · exact takesAfter_foreign hforeign hf
  have hfilled : ∀ name ∈ recordNames, name ∈ names ms :=
    fun name hname => mem_names_of_count (hcount name hname)
  have hafter : RecordSlots.after r d ms =
      ⟨some r.seq, some r.timestamp, some d, some r.argv, some r.outcome⟩ := by
    rw [RecordSlots.after, slot_of_mem (hfilled "seq" (by decide)),
      slot_of_mem (hfilled "timestamp" (by decide)), slot_of_mem (hfilled "elapsed_ms" (by decide)),
      slot_of_mem (hfilled "argv" (by decide)), slot_of_mem (hfilled "outcome" (by decide))]
  have hfinish : (RecordSlots.after r d ms).finish = .ok { r with elapsed := d } := by
    rw [hafter]
    rfl
  rw [List.map_id] at hmembers
  have hobject := readObject_members hmembers hfinish []
  simp only [RecordSlots.after, slot_nil] at hobject
  rw [ofJson_object, complete, hobject]
  rfl

/-- A member of a record is also rejected if it is the outcome and its value is rejected. -/
theorem settles_known (hparts : r.PartsRead timestamp d)
    (houtcome : Reads (readOutcome recordDepth) outcome r.outcome ∨
      Rejects (readOutcome recordDepth) outcome)
    (hm : m ∈ r.membersWith timestamp outcome) :
    TakesAfter recordMember id (RecordSlots.after r d) seen m ∨
      RejectsAfter recordMember id (RecordSlots.after r d) seen m := by
  by_cases hold : m.1 ∈ names seen
  · exact Or.inr (rejectsAfter_known hm hold)
  · by_cases hname : m.1 = "outcome"
    · rcases houtcome with houtcome | houtcome
      · exact Or.inl (takesAfter_known hparts (fun _ => houtcome) hm hold)
      · rw [eq_outcome_of_name hm hname]
        exact Or.inr (rejectsAfter_slot_value (recordMember_outcome _) houtcome)
    · exact Or.inl (takesAfter_known hparts (fun h => absurd h hname) hm hold)

/-- A known member that is lacking leaves its slot empty, and one that is there again is rejected. -/
theorem exists_fault (h : Mixes (r.membersWith timestamp outcome) kept ms)
    (hbad : ¬kept.Perm (r.membersWith timestamp outcome) ∨ Rejects (readOutcome recordDepth) outcome) :
    (∃ before m after, ms = before ++ m :: after ∧
        RejectsAfter recordMember id (RecordSlots.after r d) before m) ∨
      ∃ e, (RecordSlots.after r d ms).finish = .error e := by
  by_cases hall : ∀ name ∈ recordNames, name ∈ names ms
  · left
    by_cases hkept : kept.Perm (r.membersWith timestamp outcome)
    · -- every member is there once, so it is the outcome that is rejected
      obtain ⟨m, hm, hname⟩ := List.mem_map.mp (hall "outcome" (by decide))
      obtain ⟨before, after, hsplit⟩ := List.append_of_mem hm
      have hrejects := hbad.resolve_left (not_not_intro hkept)
      refine ⟨before, m, after, hsplit, ?_⟩
      rcases h.known_or_foreign hm with hknown | ⟨hforeign, -⟩
      · rw [eq_outcome_of_name hknown hname]
        exact rejectsAfter_slot_value (recordMember_outcome _) hrejects
      · exact absurd (hname ▸ (by decide : "outcome" ∈ recordNames)) hforeign
    · rw [h.perm_iff (nodup_names_membersWith r timestamp outcome)] at hkept
      push Not at hkept
      obtain ⟨name, hname, hcount⟩ := hkept
      have hpos := List.count_pos_iff.mpr (hall name hname)
      have htwice : 2 ≤ (names ms).count name := by omega
      obtain ⟨before, m, after, hsplit, rfl, hold⟩ := exists_again htwice
      refine ⟨before, m, after, hsplit, ?_⟩
      have hm : m ∈ ms := hsplit ▸ List.mem_append_cons_self
      rcases h.known_or_foreign hm with hknown | ⟨hforeign, -⟩
      · exact rejectsAfter_known hknown hold
      · exact absurd hname hforeign
  · right
    push Not at hall
    obtain ⟨name, hname, hnone⟩ := hall
    exact exists_finish_error hname hnone

/-- **There is no record** if a known member is lacking or there again, or if the outcome is rejected. -/
theorem exists_ofJson_error (hparts : r.PartsRead timestamp d)
    (houtcome : Reads (readOutcome recordDepth) outcome r.outcome ∨
      Rejects (readOutcome recordDepth) outcome)
    (h : Mixes (r.membersWith timestamp outcome) kept ms)
    (hbad : ¬kept.Perm (r.membersWith timestamp outcome) ∨ Rejects (readOutcome recordDepth) outcome) :
    ∃ e, ofJson (Json.object ms) = .error (.data e) := by
  have hstep : ∀ before m after, ms = before ++ m :: after →
      TakesAfter recordMember id (RecordSlots.after r d) before m ∨
        RejectsAfter recordMember id (RecordSlots.after r d) before m := by
    intro before m after hsplit
    have hm : m ∈ ms := hsplit ▸ List.mem_append_cons_self
    rcases h.known_or_foreign hm with hknown | ⟨hforeign, f, hf⟩
    · exact settles_known hparts houtcome hknown
    · exact Or.inl (takesAfter_foreign hforeign hf)
  obtain ⟨e, herror⟩ := rejects_readObject hstep (exists_fault h hbad)
  refine ⟨e, ?_⟩
  have hobject := herror []
  simp only [List.map_id, RecordSlots.after, slot_nil] at hobject
  rw [ofJson_object, complete, hobject]

/-- The written form of a record is an arrangement of its own. -/
theorem ofJson_written {r : Record} (hseq : r.seq ≤ maxWord) (hlast : r.timestamp.secs ≤ maxSeconds)
    {s : List Char} (hs : r.json? = some s)
    (helapsed : Reads readElapsed (Binary64.magnitudeText (millis r.elapsed)) d) :
    ofJson s = .ok { r with elapsed := d } := by
  have hepoch := epoch_of_json? hs
  obtain rfl := Option.some.inj (hs.symm.trans (json?_eq_some hepoch))
  exact ofJson_mixed ⟨hseq, reads_readTimestamp hepoch hlast, helapsed⟩
    (reads_readOutcome recordDepth r.outcome) (.of_perm (fun _ hm => hm) (.refl _)) (.refl _)

/-- **The order of members does not matter, and neither do foreign members.**  A record has a written
form `s`, with a moment `t` in it, and reading `s` gives the record `r'`.  Now let the members of the
outcome be known ones, `keptInner`, mixed with foreign ones in any order, and the same for the members of
the record around this outcome.  If the known members on both levels are just those of the written form,
then `r'` is read again.  Otherwise, one of them is lacking or there again, and this is reported as an
error of the data. -/
theorem ofJson_rearranged (r : Record) (hseq : r.seq ≤ maxWord) (hlast : r.timestamp.secs ≤ maxSeconds)
    {s : List Char} (hs : r.json? = some s) :
    ∃ t r', r.timestamp.json? = some t ∧ s = Json.object (r.members t) ∧ ofJson s = .ok r' ∧
      ∀ keptInner inner keptOuter outer,
        Mixes r.outcome.members keptInner inner →
        Mixes (r.membersWith t (Json.object inner)) keptOuter outer →
        (keptInner.Perm r.outcome.members ∧
            keptOuter.Perm (r.membersWith t (Json.object inner)) →
          ofJson (Json.object outer) = .ok r') ∧
        (¬(keptInner.Perm r.outcome.members ∧
            keptOuter.Perm (r.membersWith t (Json.object inner))) →
          ∃ e, ofJson (Json.object outer) = .error (.data e)) := by
  have hepoch := epoch_of_json? hs
  obtain ⟨d, helapsed⟩ := reads_readElapsed r.elapsed
  have hparts : r.PartsRead _ d := ⟨hseq, reads_readTimestamp hepoch hlast, helapsed⟩
  have hwritten := ofJson_written hseq hlast hs helapsed
  obtain rfl := Option.some.inj (hs.symm.trans (json?_eq_some hepoch))
  refine ⟨_, { r with elapsed := d }, if_neg (Int.not_lt.mpr hepoch), rfl, hwritten, ?_⟩
  intro keptInner inner keptOuter outer hinner houter
  constructor
  · rintro ⟨hkeptInner, hkeptOuter⟩
    exact ofJson_mixed hparts (reads_mixed recordDepth hinner hkeptInner) houter hkeptOuter
  · intro hbad
    by_cases hkeptInner : keptInner.Perm r.outcome.members
    · exact exists_ofJson_error hparts (Or.inl (reads_mixed recordDepth hinner hkeptInner))
        houter (Or.inl fun hkeptOuter => hbad ⟨hkeptInner, hkeptOuter⟩)
    · have hrejects := rejects_mixed recordDepth hinner hkeptInner
      exact exists_ofJson_error hparts (Or.inr hrejects) houter (Or.inr hrejects)

/-- The record of a case that passed, written backwards with a note in front: its outcome has the kind last
of all, behind an `observed` that is foreign there.  Without its number, or with the kind told twice, it
is an error. -/
theorem ofJson_rearranged_sample :
    let r : Record := ⟨7, .ofNat 1700000000 5, .ofMillis 20, ["tool"], .passed "ab"⟩
    let inner := [("hash", textJson "ab"), ("observed", textJson "cd"), ("type", textJson "passed")]
    let twice := ("type", textJson "passed") :: r.outcome.members
    r.seq ≤ maxWord ∧ r.timestamp.secs ≤ maxSeconds ∧ ∃ t s r', r.json? = some s ∧ ofJson s = .ok r' ∧
      ofJson (Json.object
        (("note", textJson "") :: (r.membersWith t (Json.object inner)).reverse)) = .ok r' ∧
      (∃ e, ofJson (Json.object ((r.membersWith t (Json.object inner)).drop 1)) = .error (.data e)) ∧
      ∃ e, ofJson (Json.object (r.membersWith t (Json.object twice))) = .error (.data e) := by
  intro r inner twice
  have hjson : r.json? = some _ := json?_eq_some (by decide)
  obtain ⟨t, r', -, -, hread, hmixed⟩ := ofJson_rearranged r (by decide) (by decide) hjson
  have hinner : Mixes r.outcome.members r.outcome.members inner :=
    ⟨fun _ hm => hm, [("observed", "cd")], by decide,
      @List.perm_append_comm _ [("hash", textJson "ab"), ("observed", textJson "cd")] _⟩
  have hbackwards : Mixes (r.membersWith t (Json.object inner)) (r.membersWith t (Json.object inner))
      (("note", textJson "") :: (r.membersWith t (Json.object inner)).reverse) :=
    ⟨fun _ hm => hm, [("note", "")], by rw [names_membersWith]; decide,
      ((List.reverse_perm _).cons _).trans (List.perm_append_singleton _ _).symm⟩
  have hlacking : Mixes (r.membersWith t (Json.object inner))
      ((r.membersWith t (Json.object inner)).drop 1) ((r.membersWith t (Json.object inner)).drop 1) :=
    .of_perm (fun _ hm => List.mem_of_mem_drop hm) (.refl _)
  have htwice : Mixes r.outcome.members twice twice :=
    .of_perm (List.forall_mem_cons.mpr ⟨List.mem_cons_self, fun _ hm => hm⟩) (.refl _)
  refine ⟨by decide, by decide, t, _, r', hjson, hread, ?_, ?_, ?_⟩
  · exact (hmixed _ _ _ _ hinner hbackwards).1 ⟨.refl _, .refl _⟩
  · apply (hmixed _ _ _ _ hinner hlacking).2
    exact fun hperm => absurd hperm.2.length_eq (by simp [membersWith, members])
  · apply (hmixed _ _ _ _ htwice (.of_perm (fun _ hm => hm) (.refl _))).2
    exact fun hperm => absurd hperm.1.length_eq (by simp [twice])

end Record

end HashReplay.Capture
