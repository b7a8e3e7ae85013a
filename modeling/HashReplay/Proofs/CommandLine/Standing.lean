import HashReplay.Proofs.CommandLine.Choices

/-!
# One choice after another

The choices of a command line are made one after the other, and so are those of the environment, for the
options that are still open.  They touch different things.  So a draft is described by the choices that it
stands for: it has their values and no others.  A choice more is one step, wherever it comes from, and a
run of choices ends with all of them or at the first one that is made again.

## Main definitions

* `Draft.Holds`, `Draft.Lacks` — an option with a value, and one without.
* `FirstAccepted` — values that do where an option is given first.
* `Standing` — parsing stands at some choices.
* `environmentChoice?`, `FromVariable` — the choice that the environment makes for an option.
* `fallenBack` — the choices after an option has fallen back on the environment.

## Main results

* `Standing.step`, `Standing.run` — one choice more, and a run of choices.
* `Standing.fallBack`, `Standing.run_fallBack` — the same for the environment.
* `mem_foldl_fallenBack` — what the environment decides.
-/

namespace HashReplay.CommandLine

/-! ### What a draft stands for -/

namespace Draft

/-- A draft has the value of a choice. -/
def Holds (d : Draft) : Choice → Prop
  | .executable path => d.executable = some path
  | .testcases path => d.testcases = some path
  | .verbosity _ level => d.verbosity = some level
  | .streamClass name => d.streamClass = some name
  | .timeout _ secs => d.timeoutSecs = some secs.toNat
  | .strict => d.strict = true
  | .capture path => d.capture = some path

/-- A draft has no value for an option. -/
def Lacks (d : Draft) : OptionName → Prop
  | .executable => d.executable = none
  | .testcases => d.testcases = none
  | .verbosity => d.verbosity = none
  | .streamClass => d.streamClass = none
  | .timeout => d.timeoutSecs = none
  | .strict => d.strict = false
  | .capture => d.capture = none

variable {c c' : Choice} {d : Draft}

theorem holds_set : (c.set d).Holds c := by
  cases c <;> rfl

/-- A choice touches its own option only. -/
theorem holds_set_of_ne (h : c'.name ≠ c.name) : (c.set d).Holds c' ↔ d.Holds c' := by
  cases c <;> cases c' <;> first | rfl | exact absurd rfl h

theorem lacks_set_of_ne {name : OptionName} (h : name ≠ c.name) :
    (c.set d).Lacks name ↔ d.Lacks name := by
  cases c <;> cases name <;> first | rfl | exact absurd rfl h

theorem lacks_empty (name : OptionName) : empty.Lacks name := by
  cases name <;> rfl

end Draft

/-- Take the options of choices, one after the other. -/
def takeAll (cs : List Choice) (p : Parsing OptionName Draft) :
    Except Interruption (Parsing OptionName Draft) :=
  cs.foldlM (fun p c => c.take p) p

/-- The options of choices. -/
def names (cs : List Choice) : List OptionName := cs.map Choice.name

theorem names_append (cs cs' : List Choice) : names (cs ++ cs') = names cs ++ names cs' := List.map_append

theorem name_mem_names {c : Choice} {cs : List Choice} (h : c ∈ cs) : c.name ∈ names cs :=
  List.mem_map_of_mem h

theorem nodup_names_concat {c : Choice} {cs : List Choice} (h : (names cs).Nodup)
    (hnew : c.name ∉ names cs) : (names (cs ++ [c])).Nodup := by
  have hapart : ∀ a ∈ names cs, ∀ b ∈ names [c], a ≠ b := by
    intro a ha b hb hab
    rw [hab, List.mem_singleton.mp hb] at ha
    exact hnew ha
  rw [names_append]
  exact List.nodup_append.mpr ⟨h, by simp [names], hapart⟩

/-- An option that was chosen before is chosen twice. -/
theorem two_le_count_names {c : Choice} {cs : List Choice} (h : c.name ∈ names cs)
    (cs' : List Choice) : 2 ≤ (names (cs ++ c :: cs')).count c.name := by
  have hbefore : 1 ≤ (names cs).count c.name := List.one_le_count_iff.mpr h
  have hagain : 1 ≤ (names (c :: cs')).count c.name :=
    List.one_le_count_iff.mpr (name_mem_names (List.mem_cons_self ..))
  rw [names_append, List.count_append]
  omega

/-- The value of every option does where the option is given first.  A value that it is given again may be
anything. -/
def FirstAccepted (cs : List Choice) : Prop :=
  ∀ before c after, cs = before ++ c :: after → c.name ∉ names before → c.Accepted

theorem FirstAccepted.of_forall {cs : List Choice} (h : ∀ c ∈ cs, c.Accepted) : FirstAccepted cs := by
  rintro before c after rfl -
  exact h c (by simp)

/-- If all values do, then an option can be given again with any value. -/
theorem FirstAccepted.concat {cs : List Choice} (h : ∀ c ∈ cs, c.Accepted) {again : Choice}
    (hagain : again.name ∈ names cs) : FirstAccepted (cs ++ [again]) := by
  intro before c after heq hnew
  rcases List.eq_nil_or_concat after with rfl | ⟨after, last, rfl⟩
  · obtain ⟨rfl, hc⟩ := List.append_inj' heq rfl
    rw [← (List.cons.inj hc).1] at hnew
    exact absurd hagain hnew
  · rw [List.concat_eq_append, ← List.cons_append, ← List.append_assoc] at heq
    obtain ⟨rfl, -⟩ := List.append_inj' heq rfl
    exact h c (by simp)

/-- Parsing stands at some choices: they are of different options, and the draft has their values and no
others. -/
structure Standing (cs : List Choice) (p : Parsing OptionName Draft) : Prop where
  given : p.given = names cs
  nodup : (names cs).Nodup
  holds : ∀ c ∈ cs, p.state.Holds c
  lacks : ∀ name ∉ names cs, p.state.Lacks name

namespace Standing

variable {cs : List Choice} {p : Parsing OptionName Draft}

theorem start : Standing [] ⟨.empty, [], none⟩ where
  given := rfl
  nodup := List.nodup_nil
  holds := fun _ hc => absurd hc List.not_mem_nil
  lacks := fun name _ => Draft.lacks_empty name

/-- **One choice more.** -/
theorem step (h : Standing cs p) {c : Choice} (hc : c.Accepted) (hnew : c.name ∉ names cs) :
    ∃ q, c.take p = .ok q ∧ Standing (cs ++ [c]) q := by
  refine ⟨_, Choice.take_of_not_mem hc (by rwa [h.given]), ?_⟩
  constructor
  · rw [names_append, h.given]
    rfl
  · exact nodup_names_concat h.nodup hnew
  · intro c' hc'
    rcases List.mem_append.mp hc' with hold | hlast
    · have hne : c'.name ≠ c.name := by
        intro heq
        rw [← heq] at hnew
        exact hnew (name_mem_names hold)
      exact (Draft.holds_set_of_ne hne).mpr (h.holds c' hold)
    · rw [List.mem_singleton.mp hlast]
      exact Draft.holds_set
  · intro name hname
    rw [names_append, List.mem_append, not_or] at hname
    have hne : name ≠ c.name := fun heq => hname.2 (List.mem_singleton.mpr heq)
    exact (Draft.lacks_set_of_ne hne).mpr (h.lacks name hname.1)

/-- **A run of choices** ends with all of them, or where one is made again. -/
theorem run {cs' : List Choice} (hcs' : FirstAccepted (cs ++ cs')) (h : Standing cs p) :
    (∃ q, takeAll cs' p = .ok q ∧ Standing (cs ++ cs') q) ∨
      ∃ name, 2 ≤ (names (cs ++ cs')).count name ∧
        takeAll cs' p = .error (.usage (.repeated name.spec.display)) := by
  unfold takeAll
  -- by induction on the choices to come: those that were made are what parsing stands at
  induction cs' generalizing cs p with
  | nil =>
    rw [List.append_nil]
    exact Or.inl ⟨p, rfl, h⟩
  | cons c cs' ih =>
    rw [List.foldlM_cons]
    by_cases hold : c.name ∈ names cs
    · refine Or.inr ⟨c.name, two_le_count_names hold cs', ?_⟩
      rw [Choice.take_of_mem (by rwa [h.given])]
      rfl
    · obtain ⟨q, hq, hstanding⟩ := h.step (hcs' cs c cs' rfl hold) hold
      rw [List.append_cons] at hcs' ⊢
      rw [hq]
      exact ih hcs' hstanding

end Standing

/-! ### The environment -/

/-- The choice that the environment makes for an option. -/
def environmentChoice? (env : Environment) : OptionName → Option Choice
  | .executable => (env.lookup "CZICMD_EXECUTABLE").map .executable
  | .testcases => (env.lookup "CZICMD_TESTCASES").map .testcases
  | .capture => (env.lookup "CZICMD_REGRESS_CAPTURE").map .capture
  | _ => none

/-- The options that fall back on the environment, in their order. -/
def withVariable : List OptionName := [.executable, .testcases, .capture]

/-- Let options fall back on the environment, one after the other. -/
def fallBackAll (env : Environment) (ns : List OptionName) (p : Parsing OptionName Draft) :
    Except Interruption (Parsing OptionName Draft) :=
  ns.foldlM (fun p name => grammar.fallBack name (name.fromEnvironment env) p) p

/-- The variables that can stand for options. -/
def pathVariables : List String := ["CZICMD_EXECUTABLE", "CZICMD_TESTCASES", "CZICMD_REGRESS_CAPTURE"]

section

variable {env : Environment} {name : OptionName} {c : Choice}

/-- The choices of the environment: the option, and the variable that has the path. -/
inductive FromVariable (env : Environment) : OptionName → Choice → Prop
  | executable {path : String} (hset : env.lookup "CZICMD_EXECUTABLE" = some path) :
    FromVariable env .executable (.executable path)
  | testcases {path : String} (hset : env.lookup "CZICMD_TESTCASES" = some path) :
    FromVariable env .testcases (.testcases path)
  | capture {path : String} (hset : env.lookup "CZICMD_REGRESS_CAPTURE" = some path) :
    FromVariable env .capture (.capture path)

theorem fromVariable_of_eq_some (h : environmentChoice? env name = some c) : FromVariable env name c := by
  cases name with
  | executable =>
    obtain ⟨path, hset, rfl⟩ := Option.map_eq_some_iff.mp h
    exact .executable hset
  | testcases =>
    obtain ⟨path, hset, rfl⟩ := Option.map_eq_some_iff.mp h
    exact .testcases hset
  | capture =>
    obtain ⟨path, hset, rfl⟩ := Option.map_eq_some_iff.mp h
    exact .capture hset
  | _ => cases h

namespace FromVariable

theorem name_eq (h : FromVariable env name c) : c.name = name := by
  cases h <;> rfl

theorem mem_withVariable (h : FromVariable env name c) : name ∈ withVariable := by
  cases h <;> decide

/-- An option falls back on the value of the choice. -/
theorem exists_value (h : FromVariable env name c) :
    ∃ v, name.fromEnvironment env = some v ∧ c.value? = some v := by
  cases h with
  | executable hset | testcases hset | capture hset => exact ⟨_, hset, rfl⟩

/-- A variable that is not empty makes a choice that does. -/
theorem accepted (henv : ∀ v ∈ pathVariables, env.lookup v ≠ some "") (h : FromVariable env name c) :
    c.Accepted := by
  cases h with
  | executable hset | testcases hset | capture hset =>
    rintro rfl
    exact henv _ (by decide) hset

end FromVariable

/-- An option for which the environment makes no choice has nothing to fall back on. -/
theorem fromEnvironment_eq_none (h : environmentChoice? env name = none) :
    name.fromEnvironment env = none := by
  cases name with
  | executable | testcases | capture => exact Option.map_eq_none_iff.mp h
  | _ => rfl

/-- The choices after an option has fallen back on the environment, unless it was given. -/
def fallenBack (env : Environment) (cs : List Choice) (name : OptionName) : List Choice :=
  cs ++ (environmentChoice? env name).toList.filter fun c => c.name ∉ names cs

/-- Falling back is one choice more, unless the option was given. -/
theorem Standing.fallBack {cs : List Choice} {p : Parsing OptionName Draft}
    (henv : ∀ v ∈ pathVariables, env.lookup v ≠ some "") (h : Standing cs p) (name : OptionName) :
    ∃ q, grammar.fallBack name (name.fromEnvironment env) p = .ok q ∧
      Standing (fallenBack env cs name) q := by
  unfold Grammar.fallBack fallenBack
  rw [h.given]
  cases hchoice : environmentChoice? env name with
  | none =>
    rw [fromEnvironment_eq_none hchoice]
    refine ⟨p, by simp, ?_⟩
    simpa using h
  | some c =>
    have hfrom := fromVariable_of_eq_some hchoice
    obtain rfl := hfrom.name_eq
    obtain ⟨v, hv, hvalue⟩ := hfrom.exists_value
    by_cases hgiven : c.name ∈ names cs
    · refine ⟨p, if_pos hgiven, ?_⟩
      simpa [hgiven] using h
    · obtain ⟨q, hq, hstanding⟩ := h.step (hfrom.accepted henv) hgiven
      refine ⟨q, ?_, by simpa [hgiven] using hstanding⟩
      rw [if_neg hgiven, hv, named?_eq, ← hq, Choice.take, hvalue]
      rfl

/-- **A run of fall-backs.** -/
theorem Standing.run_fallBack {cs : List Choice} {p : Parsing OptionName Draft}
    (henv : ∀ v ∈ pathVariables, env.lookup v ≠ some "") (h : Standing cs p) (ns : List OptionName) :
    ∃ q, fallBackAll env ns p = .ok q ∧ Standing (ns.foldl (fallenBack env) cs) q := by
  unfold fallBackAll
  induction ns generalizing cs p with
  | nil => exact ⟨p, rfl, h⟩
  | cons name ns ih =>
    obtain ⟨q, hq, hstanding⟩ := h.fallBack henv name
    rw [List.foldlM_cons, hq, List.foldl_cons]
    exact ih hstanding

theorem mem_fallenBack {cs : List Choice} : c ∈ fallenBack env cs name ↔
    c ∈ cs ∨ c.name ∉ names cs ∧ c.name = name ∧ environmentChoice? env c.name = some c := by
  simp only [fallenBack, List.mem_append, List.mem_filter, Option.mem_toList, decide_eq_true_eq]
  constructor
  · rintro (hold | ⟨hchoice, hnew⟩)
    · exact Or.inl hold
    · obtain rfl := (fromVariable_of_eq_some hchoice).name_eq
      exact Or.inr ⟨hnew, rfl, hchoice⟩
  · rintro (hold | ⟨hnew, rfl, hchoice⟩)
    · exact Or.inl hold
    · exact Or.inr ⟨hchoice, hnew⟩

/-- After it, the choices are those that were made and, for the other options, those of the environment. -/
theorem mem_foldl_fallenBack {ns : List OptionName} {cs : List Choice} :
    c ∈ ns.foldl (fallenBack env) cs ↔
      c ∈ cs ∨ c.name ∉ names cs ∧ c.name ∈ ns ∧ environmentChoice? env c.name = some c := by
  induction ns generalizing cs with
  | nil => simp
  | cons name ns ih =>
    have hkept : c.name ∈ names cs → c.name ∈ names (fallenBack env cs name) := by
      intro h
      rw [fallenBack, names_append]
      exact List.mem_append_left _ h
    -- an option that has not fallen back yet is as open as before
    have hopen : c.name ≠ name → c.name ∈ names (fallenBack env cs name) → c.name ∈ names cs := by
      intro hne h
      obtain ⟨c', hc', hname⟩ := List.mem_map.mp h
      rcases mem_fallenBack.mp hc' with hold | ⟨-, hown, -⟩
      · rw [← hname]
        exact name_mem_names hold
      · exact absurd (hname.symm.trans hown) hne
    rw [List.foldl_cons, ih, mem_fallenBack, List.mem_cons]
    tauto

end

end HashReplay.CommandLine
