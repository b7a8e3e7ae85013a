import HashReplay.Proofs.Programs.StandIn

/-!
# Which arguments the stand-in keeps

The arguments are taken apart from the front, one or two at a time: an argument that is no known flag, a
flag without a value, or a flag with the argument after it for its value.  Whether an argument is looked
at as a flag at all therefore depends on everything before it.  What can be said without that order is
said about the *stretches* into which the arguments fall: each of them is kept or dropped as a whole.
Only at the very end a flag may stand that takes a value and finds none.

## Main definitions

* `Stretch` — one or two arguments that are taken together.
* `Ending` — what may be left after the last stretch.
* `LacksValue` — arguments that end in a flag whose value is lacking.

## Main results

* `exists_stretches` — all arguments fall into stretches.
* `keep_stretches` — what is kept of them, whatever follows.
* `keep_sublist`, `count_keep`, `keep_keep` — what is kept of any arguments.
* `keep_append_of_not_lacksValue`, `keep_append_of_lacksValue` — arguments one after another.
* `argumentVector_stretches` — what the stand-in keeps of any arguments.
-/

namespace HashReplay.Programs.StandIn

/-! ### Known flags -/

theorem takesValue?_of_mem {flag : String} {takes : Bool} (h : (flag, takes) ∈ knownFlags) :
    takesValue? flag = some takes := by
  have hall : ∀ f ∈ knownFlags, takesValue? f.1 = some f.2 := by decide
  exact hall _ h

theorem takesValue?_eq_none_iff {a : String} : takesValue? a = none ↔ a ∉ flagNames := by
  refine ⟨?_, takesValue?_eq_none⟩
  rintro hnone hflag
  obtain ⟨f, hf, rfl⟩ := List.mem_map.mp hflag
  rw [takesValue?_of_mem hf] at hnone
  cases hnone

theorem takesValue?_eq_some_iff {a : String} {takes : Bool} :
    takesValue? a = some takes ↔ (a, takes) ∈ knownFlags := by
  refine ⟨?_, takesValue?_of_mem⟩
  intro hsome
  have hflag : a ∈ flagNames := by
    by_contra hnot
    rw [takesValue?_eq_none hnot] at hsome
    cases hsome
  obtain ⟨f, hf, rfl⟩ := List.mem_map.mp hflag
  rw [takesValue?_of_mem hf] at hsome
  exact Option.some.inj hsome ▸ hf

/-! ### Stretches -/

/-- Arguments that are taken together. -/
inductive Stretch where
  /-- An argument that is no known flag. -/
  | noise (arg : String) (unknown : arg ∉ flagNames)
  /-- A flag that takes no value. -/
  | switch (flag : String) (known : (flag, false) ∈ knownFlags)
  /-- A flag that takes a value, and the argument after it, whatever that is. -/
  | valued (flag value : String) (known : (flag, true) ∈ knownFlags)

namespace Stretch

/-- The arguments of a stretch. -/
def args : Stretch → List String
  | noise arg _ => [arg]
  | switch flag _ => [flag]
  | valued flag value _ => [flag, value]

/-- Those of them that are kept: all or nothing. -/
def kept : Stretch → List String
  | noise _ _ => []
  | switch flag _ => [flag]
  | valued flag value _ => [flag, value]

theorem kept_sublist (s : Stretch) : s.kept.Sublist s.args := by
  cases s with
  | noise => exact List.nil_sublist _
  | switch => exact List.Sublist.refl _
  | valued => exact List.Sublist.refl _

/-- No known flag is dropped. -/
theorem count_kept (s : Stretch) {flag : String} (h : flag ∈ flagNames) :
    s.kept.count flag = s.args.count flag := by
  cases s with
  | noise arg unknown =>
    have hne : arg ≠ flag := fun heq => unknown (heq ▸ h)
    simp [kept, args, hne]
  | switch => rfl
  | valued => rfl

end Stretch

/-- What may be left after the last stretch: nothing, or a flag without its value. -/
inductive Ending : List String → Prop
  | complete : Ending []
  | lacking {flag : String} (known : (flag, true) ∈ knownFlags) : Ending [flag]

/-- The arguments end in a flag that takes a value and finds none. -/
def LacksValue (args : List String) : Prop :=
  ∃ (stretches : List Stretch) (flag : String), (flag, true) ∈ knownFlags ∧
    args = stretches.flatMap Stretch.args ++ [flag]

/-- **All arguments fall into stretches**, with an ending after the last of them. -/
theorem exists_stretches (args : List String) : ∃ (stretches : List Stretch) (ending : List String),
    Ending ending ∧ args = stretches.flatMap Stretch.args ++ ending := by
  fun_induction keep args with
  | case1 => exact ⟨[], [], .complete, rfl⟩
  | case2 a hflag =>
    obtain ⟨takes, htakes⟩ := Option.isSome_iff_exists.mp hflag
    have hknown := takesValue?_eq_some_iff.mp htakes
    cases takes with
    | false => exact ⟨[.switch a hknown], [], .complete, rfl⟩
    | true => exact ⟨[], [a], .lacking hknown, rfl⟩
  | case3 a hflag =>
    have hunknown : a ∉ flagNames := by
      rwa [← takesValue?_eq_none_iff, ← Option.not_isSome_iff_eq_none]
    exact ⟨[.noise a hunknown], [], .complete, rfl⟩
  | case4 a b rest hnone ih =>
    obtain ⟨stretches, ending, hending, hargs⟩ := ih
    exact ⟨.noise a (takesValue?_eq_none_iff.mp hnone) :: stretches, ending, hending,
      congrArg (a :: ·) hargs⟩
  | case5 a b rest hswitch ih =>
    obtain ⟨stretches, ending, hending, hargs⟩ := ih
    exact ⟨.switch a (takesValue?_eq_some_iff.mp hswitch) :: stretches, ending, hending,
      congrArg (a :: ·) hargs⟩
  | case6 a b rest hvalued ih =>
    obtain ⟨stretches, ending, hending, hargs⟩ := ih
    exact ⟨.valued a b (takesValue?_eq_some_iff.mp hvalued) :: stretches, ending, hending,
      congrArg (fun args => a :: b :: args) hargs⟩

/-! ### What is kept -/

/-- A flag without a value is kept alone. -/
theorem keep_switch {flag : String} (h : (flag, false) ∈ knownFlags) (rest : List String) :
    keep (flag :: rest) = flag :: keep rest := by
  have hflag := takesValue?_of_mem h
  cases rest with
  | nil => simp [keep, hflag]
  | cons b rest => rw [keep, hflag]

/-- A flag with a value is kept together with the argument after it. -/
theorem keep_valued {flag : String} (h : (flag, true) ∈ knownFlags) (value : String)
    (rest : List String) : keep (flag :: value :: rest) = flag :: value :: keep rest := by
  rw [keep, takesValue?_of_mem h]

/-- One stretch is kept or dropped, whatever follows it. -/
theorem keep_stretch (s : Stretch) (rest : List String) :
    keep (s.args ++ rest) = s.kept ++ keep rest := by
  cases s with
  | noise arg unknown => exact keep_cons_of_notMem unknown rest
  | switch flag known => exact keep_switch known rest
  | valued flag value known => exact keep_valued known value rest

/-- **What is kept of stretches**, whatever follows them. -/
theorem keep_stretches (stretches : List Stretch) (rest : List String) :
    keep (stretches.flatMap Stretch.args ++ rest) =
      stretches.flatMap Stretch.kept ++ keep rest := by
  induction stretches with
  | nil => rfl
  | cons s stretches ih =>
    rw [List.flatMap_cons, List.flatMap_cons, List.append_assoc, keep_stretch, ih, List.append_assoc]

/-- What is kept of a stretch is kept again. -/
theorem keep_kept (stretches : List Stretch) (rest : List String) :
    keep (stretches.flatMap Stretch.kept ++ rest) =
      stretches.flatMap Stretch.kept ++ keep rest := by
  induction stretches with
  | nil => rfl
  | cons s stretches ih =>
    rw [List.flatMap_cons, List.append_assoc, List.append_assoc, ← ih]
    cases s with
    | noise => rfl
    | switch flag known => exact keep_switch known _
    | valued flag value known => exact keep_valued known value _

/-- An ending is kept. -/
theorem Ending.keep_eq {ending : List String} (h : Ending ending) : keep ending = ending := by
  cases h with
  | complete => rfl
  | lacking known => simp [keep, takesValue?_of_mem known]

/-- What is kept of stretches with an ending after them. -/
theorem keep_stretches_ending (stretches : List Stretch) {ending : List String} (h : Ending ending) :
    keep (stretches.flatMap Stretch.args ++ ending) =
      stretches.flatMap Stretch.kept ++ ending := by
  rw [keep_stretches, h.keep_eq]

/-- What is kept is a part of the arguments, in their order. -/
theorem keep_sublist (args : List String) : (keep args).Sublist args := by
  obtain ⟨stretches, ending, hending, rfl⟩ := exists_stretches args
  rw [keep_stretches_ending stretches hending]
  apply List.Sublist.append_right
  induction stretches with
  | nil => exact List.Sublist.refl _
  | cons s stretches ih => exact s.kept_sublist.append ih

/-- A known flag is kept wherever it stands, as a flag or as a value. -/
theorem count_keep {flag : String} (h : flag ∈ flagNames) (args : List String) :
    (keep args).count flag = args.count flag := by
  obtain ⟨stretches, ending, hending, rfl⟩ := exists_stretches args
  rw [keep_stretches_ending stretches hending, List.count_append, List.count_append]
  congr 1
  induction stretches with
  | nil => rfl
  | cons s stretches ih =>
    rw [List.flatMap_cons, List.flatMap_cons, List.count_append, List.count_append, s.count_kept h, ih]

/-- Nothing is dropped when the kept arguments are filtered again. -/
theorem keep_keep (args : List String) : keep (keep args) = keep args := by
  obtain ⟨stretches, ending, hending, rfl⟩ := exists_stretches args
  rw [keep_stretches_ending stretches hending, keep_kept, hending.keep_eq]

/-- Arguments that do not lack a value are filtered apart from those that follow them. -/
theorem keep_append_of_not_lacksValue {args : List String} (h : ¬LacksValue args)
    (following : List String) : keep (args ++ following) = keep args ++ keep following := by
  obtain ⟨stretches, ending, hending, rfl⟩ := exists_stretches args
  cases hending with
  | complete =>
    have hkeep := keep_stretches_ending stretches .complete
    rw [hkeep, List.append_nil, List.append_nil, keep_stretches]
  | lacking known => exact absurd ⟨stretches, _, known, rfl⟩ h

/-- Arguments that lack a value take it from what follows them. -/
theorem keep_append_of_lacksValue {args : List String} (h : LacksValue args) (value : String)
    (rest : List String) : keep (args ++ value :: rest) = keep args ++ value :: keep rest := by
  obtain ⟨stretches, flag, known, rfl⟩ := h
  rw [keep_stretches_ending stretches (.lacking known), List.append_assoc, keep_stretches,
    List.append_assoc]
  exact congrArg _ (keep_valued known value rest)

/-- **Which arguments are kept.**  The arguments fall into stretches: an argument that is no known flag,
a flag without a value, or a flag with the argument after it, whatever that is; and only after the last
of them a flag may stand whose value is lacking.  The argument vector is the name of the program with the
flags and values of all these.  So what is kept is a part of the arguments, in their order, and a known
flag is there as often as in the arguments; nothing of it is dropped when it is filtered again.  Arguments
that do not lack a value can be filtered apart from those that follow them. -/
theorem argumentVector_stretches (args : List String) :
    (∃ (stretches : List Stretch) (ending : List String), Ending ending ∧
        args = stretches.flatMap Stretch.args ++ ending ∧
        argumentVector args = programName :: (stretches.flatMap Stretch.kept ++ ending)) ∧
      (keep args).Sublist args ∧
      (∀ flag ∈ flagNames, (keep args).count flag = args.count flag) ∧
      argumentVector (keep args) = argumentVector args ∧
      (¬LacksValue args → ∀ following, keep (args ++ following) = keep args ++ keep following) := by
  obtain ⟨stretches, ending, hending, hargs⟩ := exists_stretches args
  have hkeep : keep args = stretches.flatMap Stretch.kept ++ ending :=
    hargs ▸ keep_stretches_ending stretches hending
  refine ⟨⟨stretches, ending, hending, hargs, congrArg _ hkeep⟩, keep_sublist args,
    fun flag hflag => count_keep hflag args, congrArg (programName :: ·) (keep_keep args),
    fun hcomplete following => keep_append_of_not_lacksValue hcomplete following⟩

/-- The first flag has another one for its value, so the source that follows is no value and is
dropped; the last flag of what follows lacks its value. -/
theorem argumentVector_stretches_sample :
    let args := ["--command", "--source", "--calc-hash", "foo.czi", "--stub-silent"]
    let following := ["--output", ".", "--stub-exit"]
    ¬LacksValue args ∧ argumentVector args = [programName, "--source", "--calc-hash", "--stub-silent"] ∧
      keep (args ++ following) = ["--source", "--calc-hash", "--stub-silent"] ++ ["--stub-exit"] := by
  have hcomplete :
      ¬LacksValue ["--command", "--source", "--calc-hash", "foo.czi", "--stub-silent"] := by
    intro hlacks
    -- then the next argument would be kept for its value, but it is dropped
    exact absurd (keep_append_of_lacksValue hlacks "." []) (by decide)
  obtain ⟨-, -, -, -, happend⟩ :=
    argumentVector_stretches ["--command", "--source", "--calc-hash", "foo.czi", "--stub-silent"]
  refine ⟨hcomplete, by decide, ?_⟩
  exact (happend hcomplete _).trans (by decide)

end HashReplay.Programs.StandIn
