import Augr.Robustness.Gates

/-! What is known of the folds of an accepted assessment. -/

set_option autoImplicit false

namespace Augr.Robustness

open Foundation
open Evaluation (Report)
open Experimentrun (ExperimentMode formatTime)

variable {assessment : Assessment} {input : AssessmentInput} {fold : Fold} {sources stored : List Report} {index : Nat}
  {report : Report}

structure Window where
  (trainStart trainEnd testStart testEnd : String)
  deriving DecidableEq

def FoldEvidence.window (fold : FoldEvidence) : Window := ⟨fold.trainStart, fold.trainEnd, fold.testStart, fold.testEnd⟩

def FoldEvidence.cites (fold : FoldEvidence) : List Uuid := fold.baseline.reportID :: fold.perturbations.map (·.reportID)

def Fold.window (fold : Fold) : Window :=
  ⟨formatTime fold.trainStart, formatTime fold.trainEnd, formatTime fold.testStart, formatTime fold.testEnd⟩

def Fold.cited (fold : Fold) : List Report := fold.baseline :: fold.perturbations.filterMap (·.report)

def FoldInput.ready (fold : FoldInput) : Option Fold :=
  fold.baseline.map fun baseline => ⟨fold.trainStart, fold.trainEnd, baseline, fold.perturbations⟩

def CandidateInput.ready (candidate : CandidateInput) : List Fold := candidate.folds.filterMap FoldInput.ready

def CandidateInput.ordered (candidate : CandidateInput) : List Fold := sortFolds candidate.ready

def AssessmentInput.cited (input : AssessmentInput) : List Report :=
  input.candidates.flatMap fun candidate => candidate.ready.flatMap Fold.cited

theorem require_ok_iff {fold : FoldInput} {ready : Fold} : fold.require = .ok ready ↔ fold.ready = some ready := by
  cases given : fold.baseline <;>
    simp [FoldInput.require, FoldInput.ready, given, required, bind, Except.bind, pure, Except.pure]

theorem requires_ok {folds : List FoldInput} {ready : List Fold} (ok : folds.mapM FoldInput.require = .ok ready) :
    folds.filterMap FoldInput.ready = ready ∧ ready.length = folds.length := by
  rw [mapM_ok_iff] at ok
  induction ok with
  | nil => simp
  | cons first _ ih => simp [require_ok_iff.mp first, ih.1, ih.2]

section Checks

variable {policy : Policy} {mode : ExperimentMode}

theorem addScenarios_ok {entries : List (ScenarioInput × String)} {final : List Report}
    {evidence : List ScenarioEvidence} (ok : addScenarios mode fold sources entries = .ok (evidence, final)) :
    (∀ entry ∈ entries, ∃ report, entry.1.report = some report ∧ scenarioInvalid mode fold report = false) ∧
      evidence.map (·.reportID) = (entries.filterMap (·.1.report)).map (·.id) := by
  induction entries generalizing sources evidence with
  | nil =>
    cases ok
    simp
  | cons entry rest ih =>
    simp only [addScenarios, addScenario, returns_iff] at ok
    obtain ⟨⟨first, stored⟩, ⟨_, report, given, valid, built⟩, ⟨others, last⟩, follow, made⟩ := ok
    cases built
    cases made
    obtain ⟨each, ids⟩ := ih follow
    refine ⟨List.forall_mem_cons.mpr ⟨⟨report, given, valid⟩, each⟩, ?_⟩
    simp [given, ids]

structure FoldChecked (policy : Policy) (mode : ExperimentMode) (fold : Fold) (evidence : FoldEvidence) : Prop where
  valid : foldInvalid policy mode fold = false
  window : evidence.window = fold.window
  scenarios : ∀ scenario ∈ fold.perturbations, ∃ report, scenario.report = some report ∧
    scenarioInvalid mode fold report = false
  cites : evidence.cites.Perm (fold.cited.map (·.id))

theorem addFold_ok {prior : Option Fold} {evidence : FoldEvidence}
    (ok : addFold policy mode prior index sources fold = .ok (evidence, stored)) :
    FoldChecked policy mode fold evidence ∧ ∀ last, prior = some last → followsBadly policy last fold = false := by
  simp only [addFold, returns_iff] at ok
  obtain ⟨valid, follows, _, complete, ⟨scenarios, final⟩, isScenarios, built⟩ := ok
  cases built
  obtain ⟨each, ids⟩ := addScenarios_ok isScenarios
  have sorted : (sortScenarios fold.perturbations).Perm fold.perturbations := perm_sortedBy _ _
  have firsts : ((sortScenarios fold.perturbations).zip policy.canonical.requiredPerturbations).map Prod.fst =
      sortScenarios fold.perturbations := by
    refine List.map_fst_zip ?_
    rw [sorted.length_eq, bne_eq_false_iff_eq.mp complete]
  refine ⟨⟨valid, rfl, fun scenario member => ?_, ?_⟩, fun last isLast => ?_⟩
  · have listed := sorted.mem_iff.mpr member
    rw [← firsts] at listed
    obtain ⟨entry, among, rfl⟩ := List.mem_map.mp listed
    exact each entry among
  · have same : ((sortScenarios fold.perturbations).zip policy.canonical.requiredPerturbations).filterMap (·.1.report) =
        (sortScenarios fold.perturbations).filterMap (·.report) := by
      rw [← firsts, List.filterMap_map, firsts]
      rfl
    simp only [FoldEvidence.cites, Fold.cited, List.map_cons, ids, same]
    exact ((sorted.filterMap _).map _).cons _
  · subst isLast
    simpa using follows

theorem addFolds_ok {prior : Option Fold} {folds : List Fold} {evidence : List FoldEvidence}
    (ok : addFolds policy mode prior index sources folds = .ok (evidence, stored)) :
    List.Forall₂ (FoldChecked policy mode) folds evidence ∧
      (prior.toList ++ folds).IsChain fun earlier later => followsBadly policy earlier later = false := by
  induction folds generalizing prior index sources evidence with
  | nil =>
    cases ok
    cases prior <;> simp
  | cons fold rest ih =>
    simp only [addFolds, bind_ok_iff] at ok
    obtain ⟨⟨first, between⟩, isFirst, ⟨others, last⟩, isRest, built⟩ := ok
    cases built
    obtain ⟨checked, follows⟩ := addFold_ok isFirst
    obtain ⟨all, chain⟩ := ih isRest
    refine ⟨.cons checked all, ?_⟩
    cases prior with
    | none => exact chain
    | some earlier => exact .cons_cons (follows earlier rfl) chain

end Checks

structure CandidateChecked (policy : Policy) (mode : ExperimentMode) (candidate : CandidateInput)
    (evidence : List FoldEvidence) : Prop where
  folds : List.Forall₂ (FoldChecked policy mode) candidate.ordered evidence
  follows : candidate.ordered.IsChain fun earlier later => followsBadly policy earlier later = false

section Candidates

variable {policy : Policy} {mode : ExperimentMode}

theorem addCandidate_ok {entry : CandidateInput × Uuid} {evidence : CandidateEvidence}
    (ok : addCandidate policy mode index sources entry = .ok (evidence, stored)) :
    CandidateChecked policy mode entry.1 evidence.folds := by
  simp only [addCandidate, returns_iff] at ok
  obtain ⟨_, folds, isReady, ⟨made, final⟩, isMade, built⟩ := ok
  cases built
  have ready : entry.1.ready = folds := (requires_ok isReady).1
  subst ready
  obtain ⟨all, chain⟩ := addFolds_ok isMade
  exact ⟨all, chain⟩

theorem addCandidates_ok {entries : List (CandidateInput × Uuid)} {evidence : List CandidateEvidence}
    (ok : addCandidates policy mode index sources entries = .ok (evidence, stored)) :
    List.Forall₂ (CandidateChecked policy mode) (entries.map Prod.fst) (evidence.map (·.folds)) := by
  induction entries generalizing index sources evidence with
  | nil =>
    cases ok
    exact .nil
  | cons entry rest ih =>
    simp only [addCandidates, bind_ok_iff] at ok
    obtain ⟨⟨first, between⟩, isFirst, ⟨others, last⟩, isRest, built⟩ := ok
    cases built
    exact .cons (addCandidate_ok isFirst) (ih isRest)

theorem newAssessment_checked {F : Type} [Float64 F] [Elementary F] (ok : newAssessment F input = .ok assessment)
    (given : input.policy = some policy) :
    List.Forall₂ (CandidateChecked policy input.mode) (sortCandidates input.candidates)
        (assessment.canonical.candidates.map (·.folds)) ∧ assessment.canonical.mode = input.mode := by
  obtain ⟨family, policy', checked, sources, _, isPolicy, isChecked, sameMode, folds, _⟩ := newAssessment_ok ok
  cases Option.some.inj (given.symm.trans isPolicy)
  simp only [canonicalCandidates, returns_iff, bne_eq_false_iff_eq] at isChecked
  have all := addCandidates_ok isChecked.2
  have sorted : (sortCandidates input.candidates).Perm input.candidates := perm_sortedBy _ _
  rw [List.map_fst_zip (by rw [sorted.length_eq, isChecked.1])] at all
  exact ⟨folds ▸ all, sameMode⟩

theorem checked_of_mem {F : Type} [Float64 F] [Elementary F] (ok : newAssessment F input = .ok assessment)
    (given : input.policy = some policy) {candidate : CandidateInput} (member : candidate ∈ input.candidates) :
    ∃ evidence, CandidateChecked policy input.mode candidate evidence := by
  have sorted : (sortCandidates input.candidates).Perm input.candidates := perm_sortedBy _ _
  obtain ⟨index, inside, rfl⟩ := List.mem_iff_getElem.mp (sorted.mem_iff.mpr member)
  have all := (newAssessment_checked ok given).1
  exact ⟨_, all.get inside (all.length_eq ▸ inside)⟩

end Candidates

theorem mem_cited_ordered (cited : report ∈ input.cited) :
    ∃ candidate ∈ input.candidates, ∃ fold ∈ candidate.ordered, report ∈ fold.cited := by
  simp only [AssessmentInput.cited, List.mem_flatMap] at cited
  obtain ⟨candidate, member, fold, ready, among⟩ := cited
  have sorted : candidate.ordered.Perm candidate.ready := perm_sortedBy _ _
  exact ⟨candidate, member, fold, sorted.mem_iff.mpr ready, among⟩

theorem FoldChecked.cited_valid {policy : Policy} {mode : ExperimentMode} {evidence : FoldEvidence}
    (checked : FoldChecked policy mode fold evidence) (cited : report ∈ fold.cited) :
    report.mode = mode ∧ report.canonical.policyID = fold.baseline.canonical.policyID := by
  have valid := checked.valid
  simp only [foldInvalid, Bool.or_eq_false_iff, bne_eq_false_iff_eq] at valid
  rcases List.mem_cons.mp cited with rfl | perturbation
  · exact ⟨valid.1.2, rfl⟩
  · obtain ⟨scenario, member, given⟩ := List.mem_filterMap.mp perturbation
    obtain ⟨other, isOther, accepted⟩ := checked.scenarios scenario member
    cases Option.some.inj (given.symm.trans isOther)
    simp only [scenarioInvalid, Bool.or_eq_false_iff, bne_eq_false_iff_eq] at accepted
    exact ⟨accepted.1.1.1, accepted.2⟩

theorem exists_checked_fold {policy : Policy} {mode : ExperimentMode} {candidate : CandidateInput}
    {evidence : List FoldEvidence} (checked : CandidateChecked policy mode candidate evidence)
    (member : fold ∈ candidate.ordered) : ∃ shown, FoldChecked policy mode fold shown := by
  obtain ⟨index, inside, rfl⟩ := List.mem_iff_getElem.mp member
  exact ⟨_, checked.folds.get inside (checked.folds.length_eq ▸ inside)⟩

theorem cited_mode {F : Type} [Float64 F] [Elementary F] (ok : newAssessment F input = .ok assessment)
    (cited : report ∈ input.cited) : report.mode = assessment.canonical.mode := by
  obtain ⟨_, policy, _, _, _, given, _, sameMode, _⟩ := newAssessment_ok ok
  obtain ⟨candidate, member, fold, ordered, among⟩ := mem_cited_ordered cited
  obtain ⟨evidence, checked⟩ := checked_of_mem ok given member
  obtain ⟨shown, accepted⟩ := exists_checked_fold checked ordered
  exact (accepted.cited_valid among).1.trans sameMode.symm

end Augr.Robustness
