import Augr.Robustness.Assessment

/-! The gates of an assessed candidate: which ones there are, and that the overall one stands for all. -/

set_option autoImplicit false

namespace Augr.Robustness

open Foundation
open Evaluation (Report)

def gateNames : List String :=
  ["bootstrap_positive_mean", "return_concentration", "perturbation_stability", "multiple_testing_adjustment",
    "overall_robustness"]

/-- Every gate is there once, and the overall gate passes only if all pass. -/
structure CandidateEvidence.Gated (candidate : CandidateEvidence) : Prop where
  names : candidate.gates.map (·.name) = gateNames
  overall : ∀ gate ∈ candidate.gates, gate.name = "overall_robustness" → gate.state = .pass →
    ∀ other ∈ candidate.gates, other.state = .pass

theorem ofBool_eq_pass (passes : Bool) : GateState.ofBool passes = .pass ↔ passes = true := by
  cases passes <;> simp [GateState.ofBool]

section Candidate

variable {F : Type} [Float64 F] [Elementary F] {policy : Policy} {sources : List Report}

theorem bootstrapGate_name {lower : F} {scale : Int} {gate : Gate} (ok : bootstrapGate lower scale = .ok gate) :
    gate.name = "bootstrap_positive_mean" := by
  simp only [bootstrapGate, bind_ok_iff] at ok
  obtain ⟨_, _, built⟩ := ok
  cases built
  rfl

theorem concentrationGate_name {shares : Concentration F} {scale : Int} {gate : Gate}
    (ok : concentrationGate policy shares scale = .ok gate) : gate.name = "return_concentration" := by
  simp only [concentrationGate, bind_ok_iff] at ok
  obtain ⟨_, _, _, _, _, _, _, _, built⟩ := ok
  cases built
  rfl

theorem stabilityGate_name {state : Stability F} {gate : Gate} (ok : stabilityGate policy state = .ok gate) :
    gate.name = "perturbation_stability" := by
  simp only [stabilityGate, bind_ok_iff] at ok
  obtain ⟨_, _, built⟩ := ok
  cases built
  rfl

theorem assessReturns_names {version : Uuid} {folds : Nat} {rows : List (FoldReturns F)}
    {calculation : CandidateCalculation} {statistics : List Statistic} {gates : List Gate}
    (ok : assessReturns F policy version folds rows = .ok (calculation, statistics, gates)) :
    gates.map (·.name) = gateNames.take 3 := by
  simp only [assessReturns, returns_iff] at ok
  obtain ⟨_, _, _, _, _, _, _, _, _, _, first, isFirst, second, isSecond, _, _, third, isThird, _, _, _, _, built⟩ := ok
  cases built
  simp [gateNames, bootstrapGate_name isFirst, concentrationGate_name isSecond, stabilityGate_name isThird]

theorem calculateCandidate_ok {candidate evidence : CandidateEvidence} {calculation : CandidateCalculation}
    (ok : calculateCandidate F policy sources candidate = .ok (calculation, evidence)) :
    evidence.gates.map (·.name) = gateNames.take 3 ∧ evidence.versionID = candidate.versionID ∧
      evidence.folds = candidate.folds := by
  simp only [calculateCandidate, bind_ok_iff] at ok
  obtain ⟨rows, _, ⟨result, statistics, gates⟩, isAssessed, built⟩ := ok
  cases built
  exact ⟨assessReturns_names isAssessed, rfl, rfl⟩

end Candidate

theorem applyAdjusted_gated {policy : Policy} {alpha adjusted : Decimal} {candidate : CandidateEvidence}
    (first : candidate.gates.map (·.name) = gateNames.take 3) : (applyAdjusted policy alpha adjusted candidate).Gated := by
  constructor
  · simp [applyAdjusted, first, gateNames, Gate.decided, overallGate]
  · intro gate member isOverall passes
    simp only [applyAdjusted, List.mem_append, List.mem_singleton] at member
    have named : ∀ other ∈ candidate.gates, other.name ≠ "overall_robustness" := by
      intro other among same
      have listed : other.name ∈ gateNames.take 3 := first ▸ List.mem_map_of_mem among
      rw [same] at listed
      revert listed
      decide
    rcases member with (early | rfl) | rfl
    · exact absurd isOverall (named gate early)
    · exact absurd isOverall (by simp [Gate.decided])
    · -- The overall gate was decided from the gates before it.
      simp only [overallGate, ofBool_eq_pass, List.all_eq_true, beq_iff_eq] at passes
      intro other among
      simp only [applyAdjusted, List.mem_append, List.mem_singleton] at among
      rcases among with among | rfl
      · exact passes other (by simpa using among)
      · rw [overallGate, ofBool_eq_pass, List.all_eq_true]
        exact fun gate member => beq_iff_eq.mpr (passes gate member)

theorem calculate_ok {F : Type} [Float64 F] [Elementary F] {policy : Policy} {checked candidates : List CandidateEvidence}
    {sources : List Report} (ok : calculate F policy checked sources = .ok candidates) :
    candidates.map (·.folds) = checked.map (·.folds) ∧ candidates.map (·.versionID) = checked.map (·.versionID) ∧
      ∀ candidate ∈ candidates, candidate.Gated := by
  simp only [calculate, applyHolm, bind_ok_iff, mapM_ok_iff] at ok
  obtain ⟨rows, related, alpha, _, built⟩ := ok
  cases built
  have kept : rows.map (·.2.folds) = checked.map (·.folds) ∧ rows.map (·.2.versionID) = checked.map (·.versionID) ∧
      ∀ row ∈ rows, row.2.gates.map (·.name) = gateNames.take 3 := by
    clear * - related
    induction related with
    | nil => simp
    | cons first _ ih =>
      obtain ⟨gates, version, folds⟩ := calculateCandidate_ok first
      simpa [folds, version, gates] using ih
  refine ⟨?_, ?_, ?_⟩
  · rw [← kept.1, List.map_map, ← List.zipIdx_map_fst 0 rows, List.map_map]
    simp [applyAdjusted, Function.comp_def]
  · rw [← kept.2.1, List.map_map, ← List.zipIdx_map_fst 0 rows, List.map_map]
    simp [applyAdjusted, Function.comp_def]
  · intro candidate member
    obtain ⟨⟨row, index⟩, among, rfl⟩ := List.mem_map.mp member
    exact applyAdjusted_gated (kept.2.2 row (List.fst_mem_of_mem_zipIdx among))

theorem newAssessment_ok {F : Type} [Float64 F] [Elementary F] {input : AssessmentInput} {assessment : Assessment}
    (ok : newAssessment F input = .ok assessment) :
    ∃ family policy checked sources, input.family = some family ∧ input.policy = some policy ∧
      canonicalCandidates family policy input.mode input.candidates = .ok (checked, sources) ∧
      assessment.canonical.mode = input.mode ∧
      assessment.canonical.candidates.map (·.folds) = checked.map (·.folds) ∧
      ∀ candidate ∈ assessment.canonical.candidates, candidate.Gated := by
  simp only [newAssessment, returns_iff] at ok
  obtain ⟨family, isFamily, policy, isPolicy, _, ⟨checked, sources⟩, isChecked, candidates, isCalculated, built⟩ := ok
  cases built
  obtain ⟨folds, _, gated⟩ := calculate_ok isCalculated
  exact ⟨family, policy, checked, sources, isFamily, isPolicy, isChecked, rfl, folds, gated⟩

end Augr.Robustness
