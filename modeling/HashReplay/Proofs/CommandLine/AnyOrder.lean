import HashReplay.Proofs.CommandLine.Standing

/-!
# Options in any order

What a command line comes to is determined by its choices and the environment: every option that is given
has its value, and every other option the one of its variable or its default.  Neither the order of the
options nor their spelling is part of that.

## Main definitions

* `Arguments.Holds`, `Arguments.FallsBack` — an option that was given, and one that was not.
* `Arguments.Meets` — arguments are what choices and an environment come to.
* `Written` — the arguments that spell choices.

## Main results

* `Arguments.Meets.unique` — choices and an environment come to one thing only.
* `parse_of_nodup`, `parse_of_not_nodup` — parsing choices of different options, and others.
* `parse_of_written` — what comes of any command line of choices.
-/

namespace HashReplay.CommandLine

/-! ### Arguments -/

namespace Arguments

/-- The arguments have the value of a choice. -/
def Holds (a : Arguments) : Choice → Prop
  | .executable path => a.executable = path
  | .testcases path => a.testcases = path
  | .verbosity _ level => a.verbosity = level
  | .streamClass name => a.streamClass = name
  | .timeout _ secs => a.timeoutSecs = some secs
  | .strict => a.strict = true
  | .capture path => a.capture = some path

/-- The arguments have the value that an option has if it is not given: the one of its variable, if that
is set, and otherwise its default. -/
def FallsBack (a : Arguments) (env : Environment) : OptionName → Prop
  | .executable => a.executable = (env.lookup "CZICMD_EXECUTABLE").getD "CZIcmd"
  | .testcases => a.testcases = (env.lookup "CZICMD_TESTCASES").getD "testcases.txt"
  | .verbosity => a.verbosity = .normal
  | .streamClass => a.streamClass = "curl_http_inputstream"
  | .timeout => a.timeoutSecs = none
  | .strict => a.strict = false
  | .capture => a.capture = env.lookup "CZICMD_REGRESS_CAPTURE"

/-- The arguments have the values of choices, and for all other options what these fall back on. -/
structure Meets (a : Arguments) (env : Environment) (cs : List Choice) : Prop where
  holds : ∀ c ∈ cs, a.Holds c
  fallsBack : ∀ name ∉ names cs, a.FallsBack env name

/-- Settings carry arguments if each of the seven values is that of the arguments, and the time a case may
take is that many whole seconds. -/
structure Carried (a : Arguments) (s : Settings) : Prop where
  executable : s.executable = a.executable
  testcases : s.testcases = a.testcases
  verbosity : s.verbosity = a.verbosity
  streamClass : s.streamClass = a.streamClass
  timeout : s.timeout = a.timeoutSecs.map fun n => ⟨n, 0⟩
  strict : s.strict = a.strict
  capture : s.capture = a.capture

/-- Arguments agree about an option. -/
def SameAt (a b : Arguments) : OptionName → Prop
  | .executable => a.executable = b.executable
  | .testcases => a.testcases = b.testcases
  | .verbosity => a.verbosity = b.verbosity
  | .streamClass => a.streamClass = b.streamClass
  | .timeout => a.timeoutSecs = b.timeoutSecs
  | .strict => a.strict = b.strict
  | .capture => a.capture = b.capture

variable {a b : Arguments} {env : Environment}

theorem eq_of_sameAt (h : ∀ name, SameAt a b name) : a = b := by
  obtain ⟨executable, testcases, verbosity, streamClass, timeoutSecs, strict, capture⟩ := a
  obtain rfl : executable = _ := h .executable
  obtain rfl : testcases = _ := h .testcases
  obtain rfl : verbosity = _ := h .verbosity
  obtain rfl : streamClass = _ := h .streamClass
  obtain rfl : timeoutSecs = _ := h .timeout
  obtain rfl : strict = _ := h .strict
  obtain rfl : capture = _ := h .capture
  rfl

theorem Holds.sameAt {c : Choice} (ha : a.Holds c) (hb : b.Holds c) : SameAt a b c.name := by
  cases c <;> exact Eq.trans ha (Eq.symm hb)

theorem FallsBack.sameAt {name : OptionName} (ha : a.FallsBack env name) (hb : b.FallsBack env name) :
    SameAt a b name := by
  cases name <;> exact Eq.trans ha (Eq.symm hb)

/-- **The choices and the environment determine the arguments.** -/
theorem Meets.unique {cs : List Choice} (ha : a.Meets env cs) (hb : b.Meets env cs) : a = b := by
  refine eq_of_sameAt fun name => ?_
  by_cases hname : name ∈ names cs
  · obtain ⟨c, hc, rfl⟩ := List.mem_map.mp hname
    exact (ha.holds c hc).sameAt (hb.holds c hc)
  · exact (ha.fallsBack name hname).sameAt (hb.fallsBack name hname)

/-- The order of the choices does not matter. -/
theorem Meets.perm {cs cs' : List Choice} (h : a.Meets env cs') (hperm : cs'.Perm cs) :
    a.Meets env cs where
  holds := fun c hc => h.holds c (hperm.mem_iff.mpr hc)
  fallsBack := by
    intro name hname
    refine h.fallsBack name fun hmem => hname ?_
    exact (hperm.map Choice.name).mem_iff.mp hmem

theorem carried_settings (a : Arguments) : a.Carried a.settings :=
  ⟨rfl, rfl, rfl, rfl, rfl, rfl, rfl⟩

end Arguments

/-! ### Completing a draft -/

section

variable {d : Draft} {env : Environment}

theorem Draft.Holds.complete {c : Choice} (h : d.Holds c) : d.complete.Holds c := by
  cases c with
  | strict => exact h
  | capture _ => exact h
  | timeout _ secs =>
    -- the number comes from a word and goes back into it
    have hsecs : d.timeoutSecs = some secs.toNat := h
    simp [Arguments.Holds, Draft.complete, hsecs]
  | executable _ | testcases _ | verbosity _ _ | streamClass _ =>
    exact congrArg (Option.getD · _) h

/-- An option that nobody has chosen has its default. -/
theorem Draft.Lacks.complete {name : OptionName} (h : d.Lacks name)
    (hchoice : environmentChoice? env name = none) : d.complete.FallsBack env name := by
  cases name with
  | executable | testcases | capture =>
    have hunset : env.lookup _ = none := Option.map_eq_none_iff.mp hchoice
    have hlacks : _ = none := h
    simp [Arguments.FallsBack, Draft.complete, hunset, hlacks, defaultExecutable, defaultTestcases]
  | strict => exact h
  | verbosity | streamClass | timeout =>
    have hlacks : _ = none := h
    simp [Arguments.FallsBack, Draft.complete, hlacks, Verbosity.standard, defaultStreamClass]

/-- An option that the environment has chosen has the value of its variable. -/
theorem FromVariable.fallsBack {name : OptionName} {c : Choice} (h : FromVariable env name c)
    (hd : d.Holds c) : d.complete.FallsBack env name := by
  cases h with
  | @executable path hset | @testcases path hset | @capture path hset =>
    have hholds : _ = some path := hd
    simp [Arguments.FallsBack, Draft.complete, hset, hholds]

/-- A draft that stands at choices and has fallen back on the environment is completed as it should be. -/
theorem Standing.complete {cs : List Choice} {p : Parsing OptionName Draft}
    (h : Standing (withVariable.foldl (fallenBack env) cs) p) : p.state.complete.Meets env cs where
  holds := fun c hc => (h.holds c (mem_foldl_fallenBack.mpr (Or.inl hc))).complete
  fallsBack := by
    intro name hname
    cases hchoice : environmentChoice? env name with
    | some c =>
      have hfrom := fromVariable_of_eq_some hchoice
      obtain rfl := hfrom.name_eq
      have hc : c ∈ withVariable.foldl (fallenBack env) cs :=
        mem_foldl_fallenBack.mpr (Or.inr ⟨hname, hfrom.mem_withVariable, hchoice⟩)
      exact hfrom.fallsBack (h.holds c hc)
    | none =>
      refine (h.lacks name fun hmem => ?_).complete hchoice
      obtain ⟨c, hc, rfl⟩ := List.mem_map.mp hmem
      rcases mem_foldl_fallenBack.mp hc with hold | ⟨-, -, hsome⟩
      · exact hname (name_mem_names hold)
      · rw [hchoice] at hsome
        cases hsome

end

/-! ### The command line -/

/-- The arguments that spell choices, in their order. -/
inductive Written : List Choice → List String → Prop
  | nil : Written [] []
  | cons {c : Choice} {cs : List Choice} {args rest : List String} (hc : c.Spelled args)
    (hcs : Written cs rest) : Written (c :: cs) (args ++ rest)

/-- The arguments of choices make the choices. -/
theorem Written.continues {cs : List Choice} {args : List String} (h : Written cs args) :
    grammar.Continues args (takeAll cs) := by
  induction h with
  | nil => exact grammar.continues_nil
  | cons hc _ ih => exact hc.spells.continues ih

/-- A command line of choices is a run of them and a run of fall-backs. -/
theorem Written.parse_eq {cs : List Choice} {args : List String} (h : Written cs args)
    (env : Environment) :
    parse env args = (takeAll cs ⟨.empty, [], none⟩).bind fun p =>
      (fallBackAll env withVariable p).map fun q => q.state.complete := by
  have hparse : grammar.parse .empty args = takeAll cs ⟨.empty, [], none⟩ :=
    h.continues _ (.of_none rfl)
  rw [parse, hparse]
  -- both sides are the same three binds, once the completion has moved behind the last one
  refine congrArg (Except.bind _) (funext fun p => ?_)
  show _ = (fun q => q.state.complete) <$> fallBackAll env withVariable p
  simp only [fallBackAll, withVariable, List.foldlM_cons, List.foldlM_nil, map_bind, map_pure]
  rfl

variable {env : Environment} {cs : List Choice}

/-- **Choices of different options** are all made, and the environment decides the rest. -/
theorem parse_of_nodup (henv : ∀ v ∈ pathVariables, env.lookup v ≠ some "")
    (haccepted : ∀ c ∈ cs, c.Accepted) (hnodup : (names cs).Nodup) :
    ∃ a : Arguments, (∀ args, Written cs args → parse env args = .ok a) ∧ a.Meets env cs := by
  have hall : FirstAccepted ([] ++ cs) := .of_forall haccepted
  rcases Standing.start.run hall with ⟨p, hp, hstanding⟩ | ⟨name, hcount, -⟩
  · obtain ⟨q, hq, hcompleted⟩ := hstanding.run_fallBack henv withVariable
    refine ⟨q.state.complete, ?_, hcompleted.complete⟩
    intro args hargs
    rw [hargs.parse_eq, hp, Except.bind, hq]
    rfl
  · have honce : (names cs).count name ≤ 1 := List.nodup_iff_count.mp hnodup name
    rw [List.nil_append] at hcount
    omega

/-- **A choice that is made again** is reported. -/
theorem parse_of_not_nodup (haccepted : FirstAccepted cs) (hnodup : ¬(names cs).Nodup)
    {args : List String} (hargs : Written cs args) :
    ∃ name, 2 ≤ (names cs).count name ∧
      parse env args = .error (.usage (.repeated name.spec.display)) := by
  have hall : FirstAccepted ([] ++ cs) := haccepted
  rcases Standing.start.run hall with ⟨p, -, hstanding⟩ | ⟨name, hcount, herror⟩
  · exact absurd hstanding.nodup hnodup
  · refine ⟨name, hcount, ?_⟩
    rw [hargs.parse_eq, herror]
    rfl

/-- **Options in any order.**  Let no variable be empty.  If the options of a command line have values that
do and no option is given twice, then parsing succeeds, whatever the order of the options is and however
they are spelled.  What comes out is the same for all of these: every option that is given has its value,
and every other option has what it falls back on; and the settings carry all seven values.  If an option is
given twice, the second time with any value, this is reported. -/
theorem parse_of_written
    (henv : ∀ v ∈ ["CZICMD_EXECUTABLE", "CZICMD_TESTCASES", "CZICMD_REGRESS_CAPTURE"],
      env.lookup v ≠ some "") :
    ((∀ c ∈ cs, c.Accepted) → (names cs).Nodup → ∃ a,
      (∀ cs' args, cs'.Perm cs → Written cs' args → parse env args = .ok a) ∧
        (∀ c ∈ cs, a.Holds c) ∧ (∀ name ∉ names cs, a.FallsBack env name) ∧ a.Carried a.settings) ∧
    (FirstAccepted cs → ¬(names cs).Nodup → ∀ args, Written cs args → ∃ name,
      2 ≤ (names cs).count name ∧ parse env args = .error (.usage (.repeated name.spec.display))) := by
  constructor
  · intro haccepted hnodup
    obtain ⟨a, -, ha⟩ := parse_of_nodup henv haccepted hnodup
    refine ⟨a, ?_, ha.holds, ha.fallsBack, a.carried_settings⟩
    intro cs' args hperm hargs
    have haccepted' : ∀ c ∈ cs', c.Accepted := fun c hc => haccepted c (hperm.mem_iff.mp hc)
    have hnodup' : (names cs').Nodup := (hperm.map Choice.name).nodup_iff.mpr hnodup
    obtain ⟨a', hparse, ha'⟩ := parse_of_nodup henv haccepted' hnodup'
    -- in another order they come to the same, since what they come to is determined by the choices
    rw [hparse args hargs, (ha'.perm hperm).unique ha]
  · intro haccepted hnodup args hargs
    exact parse_of_not_nodup haccepted hnodup hargs

/-- An environment that names an executable and a fixture. -/
def sampleEnvironment : Environment :=
  [("CZICMD_EXECUTABLE", "/usr/bin/CZIcmd"), ("CZICMD_TESTCASES", "nightly.txt")]

/-- Choices that beat one of the two variables. -/
def sampleChoices : List Choice :=
  [.executable "/opt/CZI cmd", .verbosity "Debug" .debug, .timeout "+030" 30, .strict]

theorem accepted_sampleChoices : ∀ c ∈ sampleChoices, c.Accepted := by
  have hpath : Choice.Accepted (.executable "/opt/CZI cmd") := by
    show "/opt/CZI cmd" ≠ ""
    decide
  have hlevel : Choice.Accepted (.verbosity "Debug" .debug) := by
    show Verbosity.parse "Debug" = .ok .debug
    decide
  have hnumeral : Choice.Accepted (.timeout "+030" 30) :=
    Text.isNumeral_plus_iff.mpr ⟨by decide, List.all_eq_true.mp (by decide), by decide⟩
  simp only [sampleChoices, List.forall_mem_cons]
  exact ⟨hpath, hlevel, hnumeral, trivial, by simp⟩

/-- What these come to: the fixture is the one of the environment. -/
def sampleArguments : Arguments :=
  ⟨"/opt/CZI cmd", "nightly.txt", .debug, "curl_http_inputstream", some 30, true, none⟩

theorem meets_sampleArguments : sampleArguments.Meets sampleEnvironment sampleChoices where
  holds := by simp [sampleChoices, sampleArguments, Arguments.Holds]
  fallsBack := by
    intro name hname
    cases name with
    | testcases | streamClass | capture => rfl
    | executable | verbosity | timeout | strict => exact absurd (by decide) hname

/-- The options are given backwards and each is spelled in another way.  One that is given again is
reported, though its second value would not do. -/
theorem parse_of_written_sample :
    parse sampleEnvironment
        ["--strict", "--timeout-secs=+030", "--verbosity", "Debug", "-c", "/opt/CZI cmd"] =
      .ok sampleArguments ∧
    ∃ name : OptionName, parse sampleEnvironment
        ["--strict", "--timeout-secs=+030", "--verbosity", "Debug", "-c", "/opt/CZI cmd", "-v", "loud"] =
      .error (.usage (.repeated name.spec.display)) := by
  have henv : ∀ v ∈ ["CZICMD_EXECUTABLE", "CZICMD_TESTCASES", "CZICMD_REGRESS_CAPTURE"],
      sampleEnvironment.lookup v ≠ some "" := by
    decide
  have hstrict : Choice.strict.Spelled ["--strict"] := .switch rfl
  have htimeout : (Choice.timeout "+030" 30).Spelled ["--timeout-secs=+030"] :=
    @Choice.Spelled.attached (.timeout "+030" 30) "+030" rfl
  have hverbosity : (Choice.verbosity "Debug" .debug).Spelled ["--verbosity", "Debug"] :=
    .long rfl (by decide)
  have hexecutable : (Choice.executable "/opt/CZI cmd").Spelled ["-c", "/opt/CZI cmd"] :=
    .letter rfl rfl (by decide)
  have hbackwards {cs : List Choice} {args : List String} (h : Written cs args) :
      Written (sampleChoices.reverse ++ cs)
        (["--strict", "--timeout-secs=+030", "--verbosity", "Debug", "-c", "/opt/CZI cmd"] ++ args) :=
    (Written.cons hstrict (.cons htimeout (.cons hverbosity (.cons hexecutable h))) :)
  constructor
  · obtain ⟨a, hparse, hholds, hfallsBack, -⟩ :=
      (parse_of_written henv).1 accepted_sampleChoices (by decide)
    obtain rfl : a = sampleArguments := Arguments.Meets.unique ⟨hholds, hfallsBack⟩ meets_sampleArguments
    exact hparse _ _ (by simp) (hbackwards .nil)
  · have hagain : (Choice.verbosity "loud" .none).Spelled ["-v", "loud"] := .letter rfl rfl (by decide)
    have haccepted : FirstAccepted (sampleChoices.reverse ++ [.verbosity "loud" .none]) :=
      .concat (fun c hc => accepted_sampleChoices c (List.mem_reverse.mp hc)) (by decide)
    obtain ⟨name, -, herror⟩ :=
      (parse_of_written henv).2 haccepted (by decide) _ (hbackwards (.cons hagain .nil))
    exact ⟨name, herror⟩

end HashReplay.CommandLine
