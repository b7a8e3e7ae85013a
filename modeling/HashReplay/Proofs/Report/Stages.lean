import HashReplay.Report
import HashReplay.Sink

/-!
# The stages of a report

A report is written in stages: the header, then for each case its echo and its block, then the closing
line, and in the end a flush.  A stage may have no lines at all, which depends on the verbosity.

A sink that does not take the whole report refuses it at one stage: it takes all lines of the stages
before, and then refuses among the lines of that stage, or it takes all lines and refuses the flush.

## Main definitions

* `Stage`, `stages` — the stages of a report, with their lines.
* `BreaksAt` — a sink refuses a report at a stage.

## Main results

* `BreaksAt.unique` — there is at most one such stage.
* `not_breaksAt` — and none if everything is taken and flushed.
-/

namespace HashReplay

namespace Report

/-- The stages in which a report is written. -/
inductive Stage where
  | header
  /-- The echo of the argument vector of a case. -/
  | echo (index : Nat)
  /-- The lines about the result of a case. -/
  | block (index : Nat)
  | closing
  /-- The flush of what has been written. -/
  | flush
  deriving DecidableEq, Repr

/-- The stages of one case, with their lines. -/
def caseStages (v : Verbosity) (r : CaseResult) : List (Stage × List String) :=
  [(.echo r.index, echo v r.invocation), (.block r.index, caseBlock v r)]

/-- The stages of a report on results, with their lines, up to the flush. -/
def stages (v : Verbosity) (source : String) (rs : List CaseResult) : List (Stage × List String) :=
  (.header, header v rs.length source) ::
    (rs.flatMap (caseStages v) ++
      [(.closing, closing ⟨rs.length, rs.countP fun r => !r.passed⟩)])

/-- The lines of stages, in order. -/
def linesOf (ss : List (Stage × List String)) : List String := ss.flatMap (·.2)

@[simp] theorem linesOf_append (xs ys : List (Stage × List String)) :
    linesOf (xs ++ ys) = linesOf xs ++ linesOf ys := List.flatMap_append

@[simp] theorem linesOf_cons (s : Stage) (ls : List String) (ss : List (Stage × List String)) :
    linesOf ((s, ls) :: ss) = ls ++ linesOf ss := List.flatMap_cons

/-! ### Where a report breaks off -/

/-- A sink refuses a report with these stages at a stage. -/
inductive BreaksAt (k : Sink) (ss : List (Stage × List String)) : Stage → Prop where
  /-- It takes all lines before that stage, and then refuses among its lines. -/
  | write {before after : List (Stage × List String)} {s : Stage} {ls : List String} {k' : Sink}
      (hss : ss = before ++ (s, ls) :: after)
      (htaken : k.writeAll (pieces (linesOf before)) = (none, k'))
      (hrefused : (k'.writeAll (pieces ls)).1 ≠ none) : BreaksAt k ss s
  /-- It takes all lines, and then cannot be flushed. -/
  | flush {k' : Sink} (htaken : k.writeAll (pieces (linesOf ss)) = (none, k'))
      (hrefused : k'.flush ≠ none) : BreaksAt k ss .flush

/-- What is taken goes past every stage on the way. -/
theorem taken_stage {k k' k'' : Sink} {before after : List (Stage × List String)} {s : Stage}
    {ls : List String} (hall : k.writeAll (pieces (linesOf (before ++ (s, ls) :: after))) = (none, k''))
    (hbefore : k.writeAll (pieces (linesOf before)) = (none, k')) :
    (k'.writeAll (pieces ls)).1 = none := by
  rw [linesOf_append, linesOf_cons, pieces_append, pieces_append,
    Sink.writeAll_append _ _ hbefore] at hall
  rcases hls : k'.writeAll (pieces ls) with ⟨_ | cause, k₁⟩
  · rfl
  · rw [Sink.writeAll_append_of_refused _ _ hls] at hall
    simp at hall

/-- A report that is taken as a whole and flushed breaks off nowhere. -/
theorem not_breaksAt {k k' : Sink} {ss : List (Stage × List String)}
    (hall : k.writeAll (pieces (linesOf ss)) = (none, k')) (hflush : k'.flush = none)
    (stage : Stage) : ¬BreaksAt k ss stage := by
  intro h
  cases h with
  | write hss htaken hrefused =>
    rw [hss] at hall
    exact hrefused (taken_stage hall htaken)
  | flush htaken hrefused =>
    rw [hall, Prod.mk.injEq] at htaken
    rw [← htaken.2] at hrefused
    exact hrefused hflush

/-- If a sink refuses among the lines of a stage, it takes no later stage. -/
theorem stage_eq_of_refused {k k₁ k₂ : Sink} {before mid after after' : List (Stage × List String)}
    {s t : Stage} {ls ms : List String} (h : (s, ls) :: after = mid ++ (t, ms) :: after')
    (hbefore : k.writeAll (pieces (linesOf before)) = (none, k₁))
    (hrefused : (k₁.writeAll (pieces ls)).1 ≠ none)
    (hmid : k.writeAll (pieces (linesOf (before ++ mid))) = (none, k₂)) : s = t := by
  cases mid with
  | nil =>
    simp only [List.nil_append, List.cons.injEq, Prod.mk.injEq] at h
    exact h.1.1
  | cons e mid =>
    simp only [List.cons_append, List.cons.injEq] at h
    rw [← h.1] at hmid
    exact absurd (taken_stage hmid hbefore) hrefused

/-- **A report breaks off at one stage at most.** -/
theorem BreaksAt.unique {k : Sink} {ss : List (Stage × List String)} {s t : Stage}
    (hs : BreaksAt k ss s) (ht : BreaksAt k ss t) : s = t := by
  cases hs with
  | flush hall hflush =>
    cases ht with
    | flush _ _ => rfl
    | write hss htaken hrefused =>
      rw [hss] at hall
      exact absurd (taken_stage hall htaken) hrefused
  | write hss htaken hrefused =>
    cases ht with
    | flush hall hflush =>
      rw [hss] at hall
      exact absurd (taken_stage hall htaken) hrefused
    | write hss' htaken' hrefused' =>
      -- of two stages at which it is refused, one comes first, and the other needs it to be taken
      rcases List.append_eq_append_iff.mp (hss.symm.trans hss') with
        ⟨mid, rfl, h⟩ | ⟨mid, rfl, h⟩
      · exact stage_eq_of_refused h htaken hrefused htaken'
      · exact (stage_eq_of_refused h htaken' hrefused' htaken).symm

end Report

end HashReplay
