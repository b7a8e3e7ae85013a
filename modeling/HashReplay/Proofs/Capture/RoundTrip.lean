import HashReplay.Capture.Reader
import HashReplay.Proofs.Json.Compound
import HashReplay.Proofs.Json.Layout

/-!
# Written records are read back

A record that is written is one line of JSON, and reading the line gives the record again: its number,
its moment, its arguments and its outcome, whatever characters its texts hold.  Only the elapsed time
may come back changed, since it is written in binary floating point.

Each part of a record has a lemma of its own, that its reader takes its written form.  The members of
an object then lead the reader from slot to slot, in the order in which they are written.

## Main definitions

* `Outcome.fields` — the texts that an outcome holds, by name.

## Main results

* `reads_readTimestamp`, `reads_readElapsed`, `reads_readOutcome` — the parts are read back.
* `Record.flat_of_json?` — a written record is one line.
* `Record.json_roundTrip` — a written record is read back.
-/

namespace HashReplay.Capture

open HashReplay.Json
open Text (decimal)

/-- An empty slot is filled with the value of its member. -/
theorem reads_readSlot {read : List Char → Result α} {v : List Char} {a : α} (h : Reads read v a)
    (name : String) (put : α → σ) : Reads (readSlot name none read put) (':' :: v) (put a) := by
  intro rest hrest
  have hvalue := reads_memberValue h rest hrest
  rw [readSlot, hvalue]
  rfl

/-! ### Moments -/

/-- The two members of a moment fill its slots. -/
theorem takes_timestampMember {secs nanos : Nat} (hsecs : secs ≤ maxWord) (hnanos : nanos < 2 ^ 32) :
    Takes timestampMember ⟨none, none⟩ (Timestamp.members secs nanos) ⟨some secs, some nanos⟩ := by
  have hword : Reads (readWord 64 "u64") (decimal secs) secs :=
    reads_readWord 64 hsecs hsecs "u64"
  have hpart : Reads (readWord 32 "u32") (decimal nanos) nanos :=
    reads_readWord 32 (Nat.le_pred_of_lt hnanos)
      (Nat.le_trans (Nat.le_of_lt hnanos) (by decide)) "u32"
  have hfirst : timestampMember secsName.toList ⟨none, none⟩ =
      readSlot secsName none (readWord 64 "u64") fun n => ⟨some n, none⟩ :=
    funext fun _ => if_pos rfl
  have hsecond : timestampMember nanosName.toList ⟨some secs, none⟩ =
      readSlot nanosName none (readWord 32 "u32") fun n => ⟨some secs, some n⟩ := by
    funext s
    rw [timestampMember, if_neg (by decide), if_pos rfl]
  refine Takes.cons (b := ⟨some secs, none⟩) ?_ (Takes.cons ?_ (Takes.nil _))
  · exact hfirst ▸ reads_readSlot hword secsName _
  · exact hsecond ▸ reads_readSlot hpart nanosName _

/-- **A written moment is read back**, from the start of 1970 up to the last one that there is. -/
theorem reads_readTimestamp {t : Timestamp} (hepoch : 0 ≤ t.secs) (hlast : t.secs ≤ maxSeconds) :
    Reads readTimestamp (Json.object (Timestamp.members t.secs.toNat t.nanos.val)) t := by
  intro rest _
  have hmax : maxSeconds ≤ maxWord := by decide
  have hsecs : t.secs.toNat ≤ maxSeconds := by omega
  have hnanos := t.nanos.isLt
  have hmembers := takes_timestampMember (Nat.le_trans hsecs hmax) (Nat.lt_trans hnanos (by decide))
  have hfinish : TimestampSlots.finish ⟨some t.secs.toNat, some t.nanos.val⟩ =
      .ok (t.secs.toNat, t.nanos.val) := by
    have hdiv : t.nanos.val / 1000000000 = 0 := Nat.div_eq_of_lt hnanos
    have hmod : t.nanos.val % 1000000000 = t.nanos.val := Nat.mod_eq_of_lt hnanos
    simp [TimestampSlots.finish, require, carry, hdiv, hmod, Nat.le_trans hsecs hmax]
  have hmoment : Timestamp.ofNat t.secs.toNat t.nanos.val = t := by
    have hmod : t.nanos.val % 1000000000 = t.nanos.val := Nat.mod_eq_of_lt hnanos
    have hcast : (Int.ofNat t.secs.toNat) = t.secs := Int.toNat_of_nonneg hepoch
    obtain ⟨secs, nanos⟩ := t
    simp only [Timestamp.ofNat, Duration.beyondSeconds, hcast, hmod]
  have hobject := readObject_members hmembers hfinish rest
  rw [Json.object, List.cons_append, List.append_assoc, List.singleton_append, readTimestamp,
    readSecsNanos, readHead_brace]
  simp [hobject, toTimestamp, hsecs, hmoment]

/-! ### Elapsed times -/

/-- The milliseconds of a duration are at least zero, and far below the limit. -/
theorem millis_bounds (d : Duration) : 0 ≤ millis d ∧ 2 * millis d < (10 : Rat) ^ 24 := by
  have hsecs : (d.secs.toNat : Rat) ≤ 18446744073709551615 := by
    have := d.secs.toNat_lt
    exact_mod_cast (by omega : d.secs.toNat ≤ 18446744073709551615)
  have hnanos : (d.nanos.val : Rat) / 1000000000 ≤ 1 := by
    have hcast : (d.nanos.val : Rat) ≤ 1000000000 := by exact_mod_cast d.nanos.isLt.le
    rw [div_le_one (by norm_num)]
    exact hcast
  have hwhole := Binary64.round_le (x := (d.secs.toNat : Rat)) (Nat.cast_nonneg _)
  have hpart := Binary64.round_le (x := (d.nanos.val : Rat) / 1000000000) (by positivity)
  have hsum := Binary64.round_le (add_nonneg (Binary64.round_nonneg (d.secs.toNat : Rat))
    (Binary64.round_nonneg ((d.nanos.val : Rat) / 1000000000)))
  have hproduct := Binary64.round_le (mul_nonneg (Binary64.round_nonneg
    (Binary64.round (d.secs.toNat : Rat) + Binary64.round ((d.nanos.val : Rat) / 1000000000)))
    (by norm_num : (0 : Rat) ≤ 1000))
  refine ⟨Binary64.round_nonneg _, ?_⟩
  dsimp only [millis]
  norm_num
  linarith

/-- **A written elapsed time is read back** as some elapsed time. -/
theorem reads_readElapsed (d : Duration) :
    ∃ d', Reads readElapsed (Binary64.magnitudeText (millis d)) d' := by
  obtain ⟨hnonneg, hsize⟩ := millis_bounds d
  obtain ⟨y, hy⟩ := magnitudeLexeme_numeral? hnonneg hsize
  have hfloat := reads_readFloat (magnitudeLexeme_proper hnonneg) hy
  refine ⟨Duration.ofNanos (nanosOfMillis y), ?_⟩
  intro rest hrest
  rw [magnitudeText_eq_written, readElapsed, hfloat rest hrest]
  simp [Numeral.toNumber]

/-! ### Outcomes -/

namespace Outcome

/-- The texts that an outcome holds, by name. -/
def fields : Outcome → List (String × String)
  | .passed hash => [("hash", hash)]
  | .mismatch observed expected => [("observed", observed), ("expected", expected)]
  | .malformedOutput expected => [("expected", expected)]
  | .launchFailure message => [("message", message)]

theorem details_eq_map (o : Outcome) : o.details = o.fields.map fun f => (f.1, textJson f.2) := by
  cases o <;> rfl

/-- The members of an outcome beside its kind, as they are kept until the kind is known. -/
def heads (o : Outcome) : List (List Char × Head) :=
  o.fields.map fun f => (f.1.toList, .text f.2.toList)

/-- The kind and the kept members give the outcome. -/
theorem ofMembers_heads (o : Outcome) : Outcome.ofMembers o.kind o.heads = .ok o := by
  cases o <;>
    simp [Outcome.ofMembers, heads, fields, kind, Kind.fields, collectFields, asText, Kind.build,
      require, Except.map, Except.bind, List.lookup_cons]

end Outcome

/-- A text is kept as a text, however deep values may be nested. -/
theorem reads_readAny_text (depth : Nat) (s : String) :
    Reads (readAny depth) (textJson s) (.text s.toList) := by
  intro rest _
  have hhead := readHead_text s.toList rest
  rw [textJson, readAny, readValue, hhead]

/-- The members of an outcome beside its kind are kept, in their order. -/
theorem takes_fields (depth : Nat) (kind : Option Kind) (fields : List (String × String))
    (hnames : ∀ f ∈ fields, f.1 ≠ kindName) (kept : List (List Char × Head)) :
    Takes (outcomeMember depth) ⟨kind, kept⟩ (fields.map fun f => (f.1, textJson f.2))
      ⟨kind, kept ++ fields.map fun f => (f.1.toList, .text f.2.toList)⟩ := by
  induction fields generalizing kept with
  | nil => simpa using Takes.nil _
  | cons f fields ih =>
    have htail := ih (fun g hg => hnames g (List.mem_cons_of_mem f hg))
      (kept ++ [(f.1.toList, .text f.2.toList)])
    rw [List.append_assoc, List.singleton_append] at htail
    refine Takes.cons ?_ htail
    intro rest hrest
    have hname : f.1.toList ≠ kindName.toList := fun h =>
      hnames f List.mem_cons_self (String.toList_inj.mp h)
    have hvalue := reads_memberValue (reads_readAny_text depth f.2) rest hrest
    rw [outcomeMember, if_neg hname, hvalue]
    rfl

/-- The kind of an outcome is read back from its name. -/
theorem reads_readKind (k : Kind) : Reads readKind (textJson k.name) k := by
  intro rest _
  rw [readKind, textJson, readHead_text]
  simp

/-- **A written outcome is read back**, whatever its texts hold. -/
theorem reads_readOutcome (depth : Nat) (o : Outcome) : Reads (readOutcome depth) o.json o := by
  intro rest _
  have hfirst : outcomeMember depth kindName.toList ⟨none, []⟩ =
      readSlot kindName none readKind fun k => ⟨some k, []⟩ :=
    funext fun _ => if_pos rfl
  have hnames : ∀ f ∈ o.fields, f.1 ≠ kindName := by
    cases o <;> simp [Outcome.fields, kindName]
  have hdetails := takes_fields depth (some o.kind) o.fields hnames []
  rw [← o.details_eq_map, List.nil_append] at hdetails
  have hmembers : Takes (outcomeMember depth) ⟨none, []⟩ o.members ⟨some o.kind, o.heads⟩ :=
    Takes.cons (hfirst ▸ reads_readSlot (reads_readKind o.kind) kindName _) hdetails
  have hfinish : OutcomeSlots.finish ⟨some o.kind, o.heads⟩ = .ok (o.kind, o.heads) := rfl
  have hobject := readObject_members hmembers hfinish rest
  rw [Outcome.json, Json.object, List.cons_append, List.append_assoc, List.singleton_append,
    readOutcome, readHead_brace]
  simp [hobject, o.ofMembers_heads, judge]

/-! ### Records -/

section RecordMembers

variable (slots : RecordSlots)

theorem recordMember_seq : recordMember "seq".toList slots =
    readSlot "seq" slots.seq (readWord 64 "u64") fun n => { slots with seq := some n } := by
  funext s
  rw [recordMember, if_pos rfl]

theorem recordMember_timestamp : recordMember "timestamp".toList slots =
    readSlot "timestamp" slots.timestamp readTimestamp
      fun t => { slots with timestamp := some t } := by
  funext s
  rw [recordMember, if_neg (by decide), if_pos rfl]

theorem recordMember_elapsed : recordMember "elapsed_ms".toList slots =
    readSlot "elapsed_ms" slots.elapsed readElapsed fun d => { slots with elapsed := some d } := by
  funext s
  rw [recordMember, if_neg (by decide), if_neg (by decide), if_pos rfl]

theorem recordMember_argv : recordMember "argv".toList slots =
    readSlot "argv" slots.argv readStrings fun a => { slots with argv := some a } := by
  funext s
  rw [recordMember, if_neg (by decide), if_neg (by decide), if_neg (by decide), if_pos rfl]

theorem recordMember_outcome : recordMember "outcome".toList slots =
    readSlot "outcome" slots.outcome (readOutcome recordDepth)
      fun o => { slots with outcome := some o } := by
  funext s
  rw [recordMember, if_neg (by decide), if_neg (by decide), if_neg (by decide), if_neg (by decide),
    if_pos rfl]

end RecordMembers

namespace Record

/-- The members of a record fill its slots, each with what its reader makes of the written value. -/
theorem takes_recordMember {r : Record} (hseq : r.seq ≤ maxWord) {timestamp : List Char}
    (htimestamp : Reads readTimestamp timestamp r.timestamp) {d : Duration}
    (helapsed : Reads readElapsed (Binary64.magnitudeText (millis r.elapsed)) d) :
    Takes recordMember ⟨none, none, none, none, none⟩ (r.members timestamp)
      ⟨some r.seq, some r.timestamp, some d, some r.argv, some r.outcome⟩ := by
  have hword : Reads (readWord 64 "u64") (decimal r.seq) r.seq :=
    reads_readWord 64 hseq hseq "u64"
  refine Takes.cons (b := ⟨some r.seq, none, none, none, none⟩) ?_ <|
    Takes.cons (b := ⟨some r.seq, some r.timestamp, none, none, none⟩) ?_ <|
    Takes.cons (b := ⟨some r.seq, some r.timestamp, some d, none, none⟩) ?_ <|
    Takes.cons (b := ⟨some r.seq, some r.timestamp, some d, some r.argv, none⟩) ?_ <|
    Takes.cons ?_ (Takes.nil _)
  · rw [recordMember_seq]
    exact reads_readSlot hword "seq" _
  · rw [recordMember_timestamp]
    exact reads_readSlot htimestamp "timestamp" _
  · rw [recordMember_elapsed]
    exact reads_readSlot helapsed "elapsed_ms" _
  · rw [recordMember_argv]
    exact reads_readSlot (reads_readStrings r.argv) "argv" _
  · rw [recordMember_outcome]
    exact reads_readSlot (reads_readOutcome recordDepth r.outcome) "outcome" _

/-- A record is written unless its moment lies before 1970. -/
theorem json?_eq_some {r : Record} (hepoch : 0 ≤ r.timestamp.secs) :
    r.json? = some (Json.object
      (r.members (Json.object (Timestamp.members r.timestamp.secs.toNat r.timestamp.nanos.val)))) := by
  rw [json?, Timestamp.json?, if_neg (Int.not_lt.mpr hepoch)]
  rfl

/-- Only a moment from the start of 1970 on is written. -/
theorem epoch_of_json? {r : Record} {s : List Char} (h : r.json? = some s) : 0 ≤ r.timestamp.secs := by
  by_contra hneg
  rw [json?, Timestamp.json?, if_pos (Int.not_le.mp hneg)] at h
  cases h

/-- **A written record is one line**, without any control character. -/
theorem flat_of_json? {r : Record} {s : List Char} (h : r.json? = some s) : Flat s := by
  rw [json?_eq_some (epoch_of_json? h)] at h
  obtain rfl := Option.some.inj h
  have htimestamp : Flat
      (Json.object (Timestamp.members r.timestamp.secs.toNat r.timestamp.nanos.val)) := by
    apply flat_object
    intro m hm
    rcases List.mem_cons.mp hm with rfl | hm
    · exact flat_decimal _
    · rw [List.mem_singleton.mp hm]
      exact flat_decimal _
  have hargv : Flat (Json.array (r.argv.map textJson)) := by
    apply flat_array
    intro v hv
    obtain ⟨s, -, rfl⟩ := List.mem_map.mp hv
    exact flat_text _
  have houtcome : Flat r.outcome.json := by
    apply flat_object
    intro m hm
    rcases List.mem_cons.mp hm with rfl | hm
    · exact flat_text _
    · rw [r.outcome.details_eq_map] at hm
      obtain ⟨f, -, rfl⟩ := List.mem_map.mp hm
      exact flat_text _
  apply flat_object
  intro m hm
  simp only [members, List.mem_cons, List.not_mem_nil, or_false] at hm
  rcases hm with rfl | rfl | rfl | rfl | rfl
  · exact flat_decimal _
  · exact htimestamp
  · exact flat_magnitudeText (millis_bounds r.elapsed).1
  · exact hargv
  · exact houtcome

/-- **A record survives being written and read back.**  Its number is a word, and its moment one that
there is from the start of 1970 on.  Then it has a written form, which is one line without control
characters, and reading that line gives the record again, but for its elapsed time. -/
theorem json_roundTrip (r : Record) (hseq : r.seq ≤ maxWord) (hepoch : 0 ≤ r.timestamp.secs)
    (hlast : r.timestamp.secs ≤ maxSeconds) :
    ∃ s d, r.json? = some s ∧ (∀ c ∈ s, 0x20 ≤ c.toNat) ∧
      Record.ofJson s = .ok { r with elapsed := d } := by
  obtain ⟨d, helapsed⟩ := reads_readElapsed r.elapsed
  have hmembers := takes_recordMember hseq (reads_readTimestamp hepoch hlast) helapsed
  have hfinish : RecordSlots.finish
      ⟨some r.seq, some r.timestamp, some d, some r.argv, some r.outcome⟩ =
        .ok { r with elapsed := d } := rfl
  have hobject := readObject_members hmembers hfinish []
  have hjson := json?_eq_some hepoch
  refine ⟨_, d, hjson, flat_of_json? hjson, ?_⟩
  rw [ofJson, complete, Json.object, readRecord, readHead_brace]
  simp only [hobject]
  rfl

/-- A record of a failed launch whose texts hold a quote, a line feed and a letter beyond ASCII. -/
theorem json_roundTrip_sample :
    let r : Record := ⟨7, .ofNat 1700000000 5, .ofMillis 20, ["tool", "a\"b\n"],
      .launchFailure "caf\u00e9: no such file"⟩
    (r.seq ≤ maxWord ∧ 0 ≤ r.timestamp.secs ∧ r.timestamp.secs ≤ maxSeconds) ∧
      ∃ s d, r.json? = some s ∧ (∀ c ∈ s, 0x20 ≤ c.toNat) ∧
        Record.ofJson s = .ok { r with elapsed := d } :=
  ⟨by decide, json_roundTrip _ (by decide) (by decide) (by decide)⟩

end Record

end HashReplay.Capture
