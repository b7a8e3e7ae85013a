import HashReplay.CommandLine.Option
import Mathlib.Logic.Basic

/-!
# Options as they are spelled

An option is spelled with its letter or its long name, and its value is an argument of its own or follows
an equals sign.  However it is spelled, it is taken in the same way.  Only the moment differs: a value that
is an argument of its own is looked at when the next option comes or the arguments end.

So parsing is described by what becomes of the option that may still be waiting, and of the options that
follow: the arguments of an option, and others behind them, first settle what is waiting, then take the
option, then do what the others do.  From that one step a whole command line is followed by induction.

## Main definitions

* `Grammar.accept` — take an option, with its value or as a switch.
* `Grammar.Spells` — the arguments that spell an option.
* `Grammar.Continues` — what arguments do once what is waiting is settled.

## Main results

* `Grammar.Spells.continues` — the arguments of an option take the option.
-/

namespace HashReplay.CommandLine

/-- An argument that does not start with a dash is the value of the option before. -/
theorem takeArgument_of_head?_ne {ι σ : Type} [DecidableEq ι] (g : Grammar ι σ) {arg : String}
    (h : arg.toList.head? ≠ some '-') (p : Parsing ι σ) :
    g.takeArgument arg p = Grammar.takeValue arg p := by
  unfold Grammar.takeArgument
  split
  · next hdash => exact absurd (by rw [hdash]; rfl) h
  · next hdash => exact absurd (by rw [hdash]; rfl) h
  · rfl

/-! ### Names and values in one argument -/

/-- What is looked for is no part of a name. -/
theorem bne_equals {name : List Char} (h : '=' ∉ name) : ∀ c ∈ name, (c != '=') = true := by
  intro c hc
  rw [bne_iff_ne]
  rintro rfl
  exact h hc

/-- A name is found again in front of an equals sign. -/
theorem splitAtEquals_append {name : List Char} (h : '=' ∉ name) (value : List Char) :
    splitAtEquals (name ++ '=' :: value) = (name, some value) := by
  have hdrop : (name ++ '=' :: value).dropWhile (· != '=') = '=' :: value := by
    rw [List.dropWhile_append_of_pos (bne_equals h)]
    simp
  have htake : (name ++ '=' :: value).takeWhile (· != '=') = name := by
    rw [List.takeWhile_append_of_pos (bne_equals h)]
    simp
  unfold splitAtEquals
  rw [hdrop, htake]

/-- A name without an equals sign has no value. -/
theorem splitAtEquals_eq_none {name : List Char} (h : '=' ∉ name) :
    splitAtEquals name = (name, none) := by
  have hdrop : (name ++ []).dropWhile (· != '=') = [] := by
    rw [List.dropWhile_append_of_pos (bne_equals h)]
    rfl
  rw [List.append_nil] at hdrop
  unfold splitAtEquals
  rw [hdrop]

namespace Grammar

variable {ι σ : Type}

/-! ### Waiting options -/

/-- No option waits for a value that has not come. -/
def Settled (p : Parsing ι σ) : Prop := ∀ o, p.pending ≠ some (o, none)

theorem Settled.of_none {p : Parsing ι σ} (h : p.pending = none) : Settled p := by
  intro o ho
  rw [h] at ho
  cases ho

theorem Settled.of_some {p : Parsing ι σ} {o : OptionSpec ι} {v : String}
    (h : p.pending = some (o, some v)) : Settled p := by
  intro o' ho
  rw [h] at ho
  cases ho

/-- A dash is no minus sign if nothing waits for a value. -/
theorem Settled.isNegativeValue {p : Parsing ι σ} (h : Settled p) (s : List Char) :
    isNegativeValue s p = false := by
  unfold Grammar.isNegativeValue
  split
  · next o ho => exact absurd ho (h o)
  · rfl

variable [DecidableEq ι] (g : Grammar ι σ)

theorem resolve_of_pending_eq_none {p : Parsing ι σ} (h : p.pending = none) : g.resolve p = .ok p := by
  unfold resolve
  rw [h]

/-- Taking a value leaves alone what is waiting. -/
theorem pending_of_react {name : ι} {o : OptionSpec ι} {value : Option String} {p q : Parsing ι σ}
    (h : g.react name o value p = .ok q) : q.pending = p.pending := by
  unfold react at h
  split at h
  · cases h
  split at h
  · cases h
  split at h
  · cases h
    rfl
  · cases h
  · cases h

/-- After what is waiting has been settled, nothing is. -/
theorem pending_of_resolve {p q : Parsing ι σ} (h : g.resolve p = .ok q) : q.pending = none := by
  unfold resolve at h
  split at h
  · next hnone =>
    cases h
    exact hnone
  · split at h
    · exact g.pending_of_react h
    · cases h
      rfl

/-! ### Options -/

/-- Take an option: with its value, or as a switch. -/
def accept (name : ι) (o : OptionSpec ι) (value : Option String) (p : Parsing ι σ) :
    Except Interruption (Parsing ι σ) :=
  match value with
  | some v => g.react name o (some v) p
  | none =>
    if name ∈ p.given then wrong (.repeated o.display)
    else .ok { p with state := g.turnOn name p.state, given := p.given ++ [name] }

theorem pending_of_accept {name : ι} {o : OptionSpec ι} {value : Option String} {p q : Parsing ι σ}
    (h : g.accept name o value p = .ok q) : q.pending = p.pending := by
  cases value with
  | some v =>
    have hreact : g.react name o (some v) p = .ok q := h
    exact g.pending_of_react hreact
  | none =>
    unfold accept at h
    by_cases hgiven : name ∈ p.given
    · simp only [if_pos hgiven] at h
      cases h
    · simp only [if_neg hgiven] at h
      cases h
      rfl

/-- The arguments that spell the option `o`, which has a name, with its value. -/
inductive Spells (name : ι) (o : OptionSpec ι) : Option String → List String → Prop
  /-- A letter after a dash, and the value as an argument of its own. -/
  | letter {c : Char} {placeholder v : String} (hletter : g.byLetter? c = some o)
    (heffect : o.effect = .value name placeholder) (hdash : c ≠ '-')
    (hv : v.toList.head? ≠ some '-') : Spells name o (some v) [String.ofList ['-', c], v]
  /-- A long name after two dashes, and the value as an argument of its own. -/
  | long {long : String} {placeholder v : String} (hlong : g.byLong? long = some o)
    (heffect : o.effect = .value name placeholder) (hname : long ≠ "" ∧ '=' ∉ long.toList)
    (hv : v.toList.head? ≠ some '-') : Spells name o (some v) ["--" ++ long, v]
  /-- A long name after two dashes, and the value after an equals sign. -/
  | attached {long : String} {placeholder : String} (v : String) (hlong : g.byLong? long = some o)
    (heffect : o.effect = .value name placeholder) (hname : long ≠ "" ∧ '=' ∉ long.toList) :
    Spells name o (some v) ["--" ++ long ++ "=" ++ v]
  /-- The long name of a switch after two dashes. -/
  | switch {long : String} (hlong : g.byLong? long = some o) (heffect : o.effect = .switch name)
    (hname : long ≠ "" ∧ '=' ∉ long.toList) : Spells name o none ["--" ++ long]

/-- What comes of the arguments, from wherever no value is missing, is what comes of `next` once the
option that is waiting has been settled. -/
def Continues (args : List String) (next : Parsing ι σ → Except Interruption (Parsing ι σ)) : Prop :=
  ∀ p, Settled p → g.takeArguments args p = (g.resolve p).bind next

/-- No more arguments settle what is waiting, and that is all. -/
theorem continues_nil : g.Continues [] .ok := by
  intro p _
  rw [takeArguments]
  cases g.resolve p with
  | ok q => rfl
  | error e => rfl

/-! ### Single arguments -/

section

variable {g} {name : ι} {o : OptionSpec ι} {placeholder long : String} {p : Parsing ι σ}

/-- An option that takes a value waits for it. -/
theorem meet_value (heffect : o.effect = .value name placeholder) :
    g.meet o none p = (g.resolve p).map fun q => { q with pending := some (o, none) } := by
  unfold meet
  simp only [heffect]

theorem takeArgument_letter {c : Char} (hletter : g.byLetter? c = some o)
    (heffect : o.effect = .value name placeholder) (hdash : c ≠ '-') (hp : Settled p) :
    g.takeArgument (String.ofList ['-', c]) p =
      (g.resolve p).map fun q => { q with pending := some (o, none) } := by
  have hnegative := hp.isNegativeValue [c]
  unfold takeArgument
  rw [String.toList_ofList]
  simp [hnegative, takeLetters, hletter, heffect, attachedValue, meet_value heffect]

theorem takeArgument_long (hlong : g.byLong? long = some o) (hequals : '=' ∉ long.toList) :
    g.takeArgument ("--" ++ long) p = g.meet o none p := by
  have harg : ("--" ++ long).toList = '-' :: '-' :: long.toList := by
    rw [String.toList_append]
    rfl
  unfold takeArgument
  rw [harg]
  simp [splitAtEquals_eq_none hequals, hlong]

theorem takeArgument_attached {v : String} (hlong : g.byLong? long = some o)
    (hequals : '=' ∉ long.toList) :
    g.takeArgument ("--" ++ long ++ "=" ++ v) p = g.meet o (some v) p := by
  have harg : ("--" ++ long ++ "=" ++ v).toList = '-' :: '-' :: (long.toList ++ '=' :: v.toList) := by
    simp only [String.toList_append, List.append_assoc]
    rfl
  unfold takeArgument
  rw [harg]
  simp [splitAtEquals_append hequals, hlong]

/-- An argument that does not look like an option is the value that is waited for. -/
theorem takeArgument_value {v : String} (hv : v.toList.head? ≠ some '-')
    (hp : p.pending = some (o, none)) :
    g.takeArgument v p = .ok { p with pending := some (o, some v) } := by
  rw [takeArgument_of_head?_ne g hv]
  unfold takeValue
  rw [hp]

/-- A longer argument does not end the options. -/
theorem long_ne_end (h : long ≠ "") : "--" ++ long ≠ "--" := by
  intro hend
  have hlist := congrArg String.toList hend
  rw [String.toList_append] at hlist
  have hnil : long.toList = [] := List.self_eq_append_right.mp hlist.symm
  exact h (String.toList_eq_nil_iff.mp hnil)

/-- Nor does a value. -/
theorem value_ne_end {v : String} (hv : v.toList.head? ≠ some '-') : v ≠ "--" := by
  rintro rfl
  exact hv rfl

theorem takeArguments_cons {arg : String} (h : arg ≠ "--") (rest : List String) :
    g.takeArguments (arg :: rest) p = (g.takeArgument arg p).bind (g.takeArguments rest) := by
  simp only [takeArguments, if_neg h]

/-- An option and its value in an argument of its own: the option waits with its value. -/
theorem takeArguments_separate {arg v : String} (harg : arg ≠ "--")
    (htake : g.takeArgument arg p = (g.resolve p).map fun q => { q with pending := some (o, none) })
    (hv : v.toList.head? ≠ some '-') (rest : List String) :
    g.takeArguments (arg :: v :: rest) p =
      (g.resolve p).bind fun q => g.takeArguments rest { q with pending := some (o, some v) } := by
  rw [takeArguments_cons harg, htake]
  cases g.resolve p with
  | error e => rfl
  | ok q =>
    -- the option waits now, and its value goes to it before anything else is looked at
    have hwaiting : ({ q with pending := some (o, none) } : Parsing ι σ).pending = some (o, none) := rfl
    calc g.takeArguments (v :: rest) { q with pending := some (o, none) }
        = (g.takeArgument v { q with pending := some (o, none) }).bind (g.takeArguments rest) :=
          takeArguments_cons (value_ne_end hv) rest
      _ = g.takeArguments rest { q with pending := some (o, some v) } := by
          rw [takeArgument_value hv hwaiting]
          rfl

end

/-! ### The step -/

variable {g}

/-- A value that waits is taken when the rest has been reached. -/
theorem Continues.of_separate {name : ι} {o : OptionSpec ι} {placeholder arg v : String}
    {rest : List String} {next : Parsing ι σ → Except Interruption (Parsing ι σ)}
    (heffect : o.effect = .value name placeholder) (harg : arg ≠ "--")
    (htake : ∀ p, Settled p →
      g.takeArgument arg p = (g.resolve p).map fun q => { q with pending := some (o, none) })
    (hv : v.toList.head? ≠ some '-') (hrest : g.Continues rest next) :
    g.Continues (arg :: v :: rest) fun q => (g.react name o (some v) q).bind next := by
  intro p hp
  rw [takeArguments_separate harg (htake p hp) hv]
  cases hq : g.resolve p with
  | error e => rfl
  | ok q =>
    have hnone : q.pending = none := g.pending_of_resolve hq
    -- the rest settles what waits first, and that is the option with its value
    have hresolve : g.resolve { q with pending := some (o, some v) } = g.react name o (some v) q := by
      obtain ⟨state, given, pending⟩ := q
      obtain rfl : pending = none := hnone
      simp [resolve, heffect]
    calc g.takeArguments rest { q with pending := some (o, some v) }
        = (g.resolve { q with pending := some (o, some v) }).bind next := hrest _ (.of_some rfl)
      _ = (g.react name o (some v) q).bind next := by rw [hresolve]

/-- An option that is complete is taken at once. -/
theorem Continues.of_complete {name : ι} {o : OptionSpec ι} {value : Option String} {arg : String}
    {rest : List String} {next : Parsing ι σ → Except Interruption (Parsing ι σ)} (harg : arg ≠ "--")
    (htake : ∀ p, g.takeArgument arg p = (g.resolve p).bind (g.accept name o value))
    (hrest : g.Continues rest next) :
    g.Continues (arg :: rest) fun q => (g.accept name o value q).bind next := by
  intro p _
  rw [takeArguments_cons harg, htake]
  cases hq : g.resolve p with
  | error e => rfl
  | ok q =>
    -- nothing waits after the option, so the rest has nothing to settle
    show (g.accept name o value q).bind (g.takeArguments rest) = (g.accept name o value q).bind next
    cases hq' : g.accept name o value q with
    | error e => rfl
    | ok q' =>
      have hnone : q'.pending = none := (g.pending_of_accept hq').trans (g.pending_of_resolve hq)
      calc g.takeArguments rest q'
          = (g.resolve q').bind next := hrest q' (.of_none hnone)
        _ = next q' := by
          rw [g.resolve_of_pending_eq_none hnone]
          rfl

/-- **However it is spelled, an option is taken** after what is waiting and before what follows. -/
theorem Spells.continues {name : ι} {o : OptionSpec ι} {value : Option String} {args rest : List String}
    {next : Parsing ι σ → Except Interruption (Parsing ι σ)} (h : g.Spells name o value args)
    (hrest : g.Continues rest next) :
    g.Continues (args ++ rest) fun q => (g.accept name o value q).bind next := by
  cases h with
  | @letter c placeholder v hletter heffect hdash hv =>
    have hend : String.ofList ['-', c] ≠ "--" := by
      intro hend
      have hlist := congrArg String.toList hend
      rw [String.toList_ofList] at hlist
      exact hdash (List.cons.inj (List.cons.inj hlist).2).1
    exact .of_separate heffect hend (fun _ hp => takeArgument_letter hletter heffect hdash hp) hv hrest
  | long hlong heffect hname hv =>
    refine .of_separate heffect (long_ne_end hname.1) (fun p _ => ?_) hv hrest
    rw [takeArgument_long hlong hname.2, meet_value heffect]
  | @attached long placeholder v hlong heffect hname =>
    have hend : "--" ++ long ++ "=" ++ v ≠ "--" := by
      rw [String.append_assoc, String.append_assoc]
      refine long_ne_end fun hempty => ?_
      have hlist := congrArg String.toList hempty
      simp at hlist
    refine .of_complete hend (fun p => ?_) hrest
    rw [takeArgument_attached hlong hname.2]
    unfold meet
    simp only [heffect]
    rfl
  | switch hlong heffect hname =>
    refine .of_complete (long_ne_end hname.1) (fun p => ?_) hrest
    rw [takeArgument_long hlong hname.2]
    unfold meet
    simp only [heffect]
    rfl

end Grammar

end HashReplay.CommandLine
