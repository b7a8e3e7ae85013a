import HashReplay.Proofs.Report.Stages
import Mathlib.Data.List.Flatten

/-!
# What a level of verbosity adds

Which lines a report has depends on the level alone, and which level shows a line is a matter of a
threshold.  So a higher level keeps every line of a lower one, and puts whole lines between them.

## Main results

* `caseBlock_sublist` — the block of a case.
* `linesOf_stages_sublist` — a whole report.
-/

namespace HashReplay

namespace Verbosity

variable {v w : Verbosity}

/-- What passes a threshold at one level passes it at every level above. -/
theorem passes_mono {threshold : Verbosity} (h : v ≤ w) (hv : decide (threshold ≤ v) = true) :
    decide (threshold ≤ w) = true :=
  decide_eq_true (le_def.mpr (Nat.le_trans (le_def.mp (of_decide_eq_true hv)) (le_def.mp h)))

theorem showsDetail_mono (h : v ≤ w) : v.showsDetail = true → w.showsDetail = true := passes_mono h

theorem showsProgress_mono (h : v ≤ w) : v.showsProgress = true → w.showsProgress = true :=
  passes_mono h

theorem showsDebug_mono (h : v ≤ w) : v.showsDebug = true → w.showsDebug = true := passes_mono h

end Verbosity

namespace Report

variable {v w : Verbosity}

/-- Lines that are shown on a condition are kept if the condition is. -/
theorem shown_sublist {p q : Bool} (h : p = true → q = true) (ls : List String) :
    (if p then ls else []).Sublist (if q then ls else []) := by
  cases p with
  | false => exact List.nil_sublist _
  | true =>
    obtain rfl := h rfl
    exact List.Sublist.refl _

/-- The same for lines that are only shown for some cases. -/
theorem shown_sublist_of_and {p q : Bool} (c : Bool) (h : p = true → q = true) (ls : List String) :
    (if c && p then ls else []).Sublist (if c && q then ls else []) := by
  refine shown_sublist ?_ ls
  rw [Bool.and_eq_true, Bool.and_eq_true]
  exact And.imp_right h

theorem header_sublist (h : v ≤ w) (count : Nat) (source : String) :
    (header v count source).Sublist (header w count source) :=
  shown_sublist (Verbosity.showsProgress_mono h) _

theorem echo_sublist (h : v ≤ w) (i : Invocation) : (echo v i).Sublist (echo w i) :=
  shown_sublist (Verbosity.showsDebug_mono h) _

/-- **The block of a case** keeps its lines at a higher level. -/
theorem caseBlock_sublist (h : v ≤ w) (r : CaseResult) :
    (caseBlock v r).Sublist (caseBlock w r) := by
  have hdetail := shown_sublist_of_and (!r.passed) (Verbosity.showsDetail_mono h)
    (failureDetail r.outcome).toList
  have hdump := shown_sublist_of_and (!r.passed) (Verbosity.showsDebug_mono h)
    ((r.stdout.map dump).getD [])
  have htook := shown_sublist (Verbosity.showsProgress_mono h)
    ["  took " ++ toString r.elapsed.millis ++ " ms"]
  exact ((hdetail.append hdump).append (List.Sublist.refl _)).append htook

theorem linesOf_caseStages_sublist (h : v ≤ w) (r : CaseResult) :
    (linesOf (caseStages v r)).Sublist (linesOf (caseStages w r)) := by
  rw [caseStages, caseStages, linesOf_cons, linesOf_cons, linesOf_cons, linesOf_cons]
  exact (echo_sublist h r.invocation).append ((caseBlock_sublist h r).append (List.Sublist.refl _))

/-- **A report keeps its lines, in order, at a higher level.** -/
theorem linesOf_stages_sublist (h : v ≤ w) (source : String) (rs : List CaseResult) :
    (linesOf (stages v source rs)).Sublist (linesOf (stages w source rs)) := by
  have hcases : (linesOf (rs.flatMap (caseStages v))).Sublist
      (linesOf (rs.flatMap (caseStages w))) := by
    rw [linesOf, linesOf, List.flatMap_assoc, List.flatMap_assoc]
    exact List.Sublist.flatMap_right rs fun r _ => linesOf_caseStages_sublist h r
  rw [stages, stages, linesOf_cons, linesOf_cons, linesOf_append, linesOf_append]
  exact (header_sublist h _ _).append (hcases.append (List.Sublist.refl _))

end Report

end HashReplay
