import Augr.Robustness.Folds

/-! No leakage between the folds of a candidate.

Neighbouring folds are compared; the test windows, which are not empty, carry the comparison to all pairs. The
gaps are those of the policy only as long as its seconds fit a duration. -/

set_option autoImplicit false

namespace Augr.Robustness

open Foundation
open Evaluation (Report ReportInput newReport newReport_ok)

section

variable {α : Type} {related : α → α → Prop} (good : α → Prop)

theorem pairwise_of_chain (passes : ∀ first second third, good second → related first second → related second third →
      related first third) {items : List α} (chain : items.IsChain related) (each : ∀ item ∈ items, good item) :
    items.Pairwise related := by
  induction items with
  | nil => exact .nil
  | cons first rest ih =>
    have others := ih chain.of_cons fun item member => each item (List.mem_cons_of_mem _ member)
    refine List.pairwise_cons.mpr ⟨fun item member => ?_, others⟩
    cases rest with
    | nil => cases member
    | cons second rest =>
      have beside : related first second := (List.isChain_cons_cons.mp chain).1
      rcases List.mem_cons.mp member with rfl | later
      · exact beside
      · exact passes first second item (each second (by simp)) beside ((List.pairwise_cons.mp others).1 item later)

end

/-- The largest number of seconds whose nanoseconds fit 64 bits. -/
def maxSeconds : Int := 9223372036

theorem secondsDuration_eq (seconds : Int64) : secondsDuration seconds = (seconds.toInt * 1000000000).bmod (2 ^ 64) := by
  simp only [secondsDuration, Int64.toInt_mul]
  rfl

theorem secondsDuration_of_fits {seconds : Int64} (some : 0 ≤ seconds.toInt) (fits : seconds.toInt ≤ maxSeconds) :
    secondsDuration seconds = seconds.toInt * 1000000000 := by
  rw [secondsDuration_eq]
  refine Int.bmod_eq_of_le ?_ ?_ <;> simp only [maxSeconds] at fits <;> omega

/-- The gaps between the windows of two folds, the first of them tested before the second. -/
structure Fold.ApartFrom (purge embargo : Int) (earlier later : Fold) : Prop where
  tests : earlier.testEnd.nanos ≤ later.testStart.nanos
  embargoed : earlier.testEnd.nanos + embargo * 1000000000 ≤ later.trainStart.nanos
  purged : earlier.trainEnd.nanos + purge * 1000000000 ≤ earlier.testStart.nanos
  purgedLater : earlier.trainEnd.nanos + purge * 1000000000 ≤ later.testStart.nanos

def IsIssued (F : Type) [Float64 F] [Elementary F] (report : Report) : Prop :=
  ∃ input : ReportInput, newReport F input = .ok report

theorem IsIssued.window {F : Type} [Float64 F] [Elementary F] {report : Report} (issued : IsIssued F report) :
    report.evaluationStart.nanos < report.evaluationEnd.nanos := by
  obtain ⟨input, made⟩ := issued
  obtain ⟨_, _, _, _, _, _, _, window⟩ := newReport_ok made
  exact window

theorem ordered_apart {policy : Policy} {mode : Experimentrun.ExperimentMode} {candidate : CandidateInput}
    {evidence : List FoldEvidence} (checked : CandidateChecked policy mode candidate evidence)
    (windows : ∀ fold ∈ candidate.ordered, fold.testStart.nanos < fold.testEnd.nanos)
    (purge : secondsDuration policy.canonical.purgeSeconds = policy.canonical.purgeSeconds.toInt * 1000000000)
    (embargo : secondsDuration policy.canonical.embargoSeconds = policy.canonical.embargoSeconds.toInt * 1000000000) :
    candidate.ordered.Pairwise
      (Fold.ApartFrom policy.canonical.purgeSeconds.toInt policy.canonical.embargoSeconds.toInt) := by
  have purged : ∀ fold ∈ candidate.ordered,
      fold.trainEnd.nanos + policy.canonical.purgeSeconds.toInt * 1000000000 ≤ fold.testStart.nanos := by
    intro fold member
    obtain ⟨shown, accepted⟩ := exists_checked_fold checked member
    have valid := accepted.valid
    simp only [foldInvalid, Bool.or_eq_false_iff, Instant.after, Instant.add, decide_eq_false_iff_not, not_lt, purge]
      at valid
    exact valid.2
  -- What is checked of neighbours passes over the test window of the fold between them.
  have chained : candidate.ordered.Pairwise fun earlier later => earlier.testEnd.nanos ≤ later.testStart.nanos ∧
      earlier.testEnd.nanos + policy.canonical.embargoSeconds.toInt * 1000000000 ≤ later.trainStart.nanos := by
    refine pairwise_of_chain (fun fold : Fold => fold.testStart.nanos < fold.testEnd.nanos) ?_ ?_ windows
    · rintro first second third window ⟨tests, _⟩ ⟨tests', embargoed⟩
      omega
    · refine checked.follows.imp fun earlier later follows => ?_
      simp only [followsBadly, Bool.or_eq_false_iff, Instant.after, Instant.add, decide_eq_false_iff_not, not_lt, embargo]
        at follows
      exact follows
  refine List.Pairwise.imp_of_mem (fun {earlier later} inside _ apart => ?_) chained
  have own := purged earlier inside
  have window := windows earlier inside
  exact ⟨apart.1, apart.2, own, by omega⟩

end Augr.Robustness
