import Augr.Promotion.Chains
import Augr.Robustness.Comparability

/-! Promotions: the mode of the evidence behind one, and what a chain of decisions amounts to. -/

set_option autoImplicit false

namespace Augr.Promotion

open Foundation
open Evaluation (Report ReportInput newReport newReport_ok)
open Experimentrun (ExperimentMode Plan PlanInput Result ResultInput newPlan newResult newResult_mode)
open Robustness (Assessment AssessmentInput CandidateEvidence Gate GateState gateNames newAssessment newAssessment_ok cited_mode
  extremeInput extremeInput_accepted extremeInput_issued scoredPair scoredPair_accepted scoredPair_issued version)

section Lineage

variable (F : Type) [Float64 F] [Elementary F]

def ReportedFrom (report : Report) (result : Result) : Prop :=
  ∃ input : ReportInput, newReport F input = .ok report ∧ input.result = some result

def ReplayedFrom (result : Result) (plan : Plan) : Prop :=
  ∃ input : ResultInput, newResult input = .ok result ∧ input.plan = some plan ∧ ∃ given : PlanInput, newPlan given = .ok plan

/-- The assessment and every report, result and plan behind it are scored. -/
structure AllScored (input : AssessmentInput) (assessment : Assessment) : Prop where
  assessment : assessment.canonical.mode = .paperScored
  reports : ∀ report ∈ input.cited, report.mode = .paperScored
  results : ∀ report ∈ input.cited, ∀ result, ReportedFrom F report result → result.canonical.mode = .paperScored
  plans : ∀ report ∈ input.cited, ∀ result, ReportedFrom F report result → ∀ plan, ReplayedFrom result plan →
    plan.canonical.mode = .paperScored

/-- An approved decision on a deployment, with the assessment it cites; everything was built by its constructor. -/
structure Promotes (loadLocation : String → Option String) (proposal : DeploymentInput) (input : AssessmentInput)
    (assessment : Assessment) (decision : Decision) : Prop where
  assessed : newAssessment F input = .ok assessment
  issued : input.Issued F
  decided : ∃ deployment policy prior, newDeployment loadLocation proposal = .ok deployment ∧
    (∃ given, newPolicy given = .ok policy) ∧
    newDecision ⟨some deployment, some assessment, some policy, prior⟩ = .ok decision
  approved : decision.canonical.outcome = .approved

variable {F}

theorem ReportedFrom.mode {report : Report} {result : Result} (reported : ReportedFrom F report result) :
    report.mode = result.canonical.mode := by
  obtain ⟨input, made, given⟩ := reported
  obtain ⟨result', _, given', _, sameMode, _⟩ := newReport_ok made
  cases Option.some.inj (given.symm.trans given')
  exact sameMode

theorem ReplayedFrom.mode {result : Result} {plan : Plan} (replayed : ReplayedFrom result plan) :
    result.canonical.mode = plan.canonical.mode := by
  obtain ⟨input, made, given, _⟩ := replayed
  obtain ⟨plan', given', sameMode, _⟩ := newResult_mode made
  cases Option.some.inj (given.symm.trans given')
  exact sameMode

theorem newDeployment_ok {loadLocation : String → Option String} {proposal : DeploymentInput} {deployment : Deployment}
    (ok : newDeployment loadLocation proposal = .ok deployment) :
    deployment.canonical = proposal ∧ deployment.state = .proposed := by
  simp only [newDeployment, bind_ok_iff] at ok
  obtain ⟨_, _, _, _, built⟩ := ok
  cases built
  exact ⟨rfl, rfl⟩

theorem allScored_iff {input : AssessmentInput} {assessment : Assessment} (assessed : newAssessment F input = .ok assessment) :
    AllScored F input assessment ↔ assessment.canonical.mode = .paperScored := by
  constructor
  · exact AllScored.assessment
  · intro scored
    have reports : ∀ report ∈ input.cited, report.mode = .paperScored :=
      fun report cited => (cited_mode assessed cited).trans scored
    have results : ∀ report ∈ input.cited, ∀ result, ReportedFrom F report result →
        result.canonical.mode = .paperScored :=
      fun report cited result reported => reported.mode.symm.trans (reports report cited)
    exact ⟨scored, reports, results, fun report cited result reported plan replayed =>
      replayed.mode.symm.trans (results report cited result reported)⟩

theorem promotion_scored_iff {loadLocation : String → Option String} {proposal : DeploymentInput} {input : AssessmentInput}
    {assessment : Assessment} {decision : Decision}
    (promotes : Promotes F loadLocation proposal input assessment decision) :
    AllScored F input assessment ↔ proposal.mode = .paperScored := by
  obtain ⟨deployment, policy, prior, deployed, _, decided⟩ := promotes.decided
  have sameMode := (newDecision_ok decided).sameMode
  rw [(newDeployment_ok deployed).1] at sameMode
  rw [allScored_iff promotes.assessed, sameMode]

end Lineage

def overallPolicyInput : PolicyInput := ⟨"v1", ["overall_robustness"], .hold⟩

def overallPolicy : Policy where
  canonical := overallPolicyInput
  bytes := overallPolicyInput.marshal
  digest := sha256Hex overallPolicyInput.marshal
  id := deterministicUUID "promotion-policy" [policySchemaV1 ++ "@sha256:" ++ sha256Hex overallPolicyInput.marshal]

theorem overallPolicy_made : newPolicy overallPolicyInput = .ok overallPolicy := rfl

def stressProposal : DeploymentInput where
  versionID := version
  accountID := Uuid.ofByte 3
  capitalBindingID := Uuid.ofByte 9
  budget := "1000"
  scheduleCron := "0 9 * * 1-5"
  timezone := "UTC"
  riskPolicyVersion := "risk-v1"
  mode := .paperStress

def stressDeployment : Deployment where
  canonical := stressProposal
  state := .proposed
  bytes := stressProposal.marshal .proposed
  digest := sha256Hex (stressProposal.marshal .proposed)
  id := deterministicUUID "strategy-deployment"
    [deploymentSchemaV1 ++ "@sha256:" ++ sha256Hex (stressProposal.marshal .proposed)]

def onlyUTC (zone : String) : Option String := if zone = "UTC" then some zone else none

theorem stressDeployment_made : newDeployment onlyUTC stressProposal = .ok stressDeployment := rfl

def scoredProposal : DeploymentInput := { stressProposal with mode := .paperScored }

theorem scoredProposal_accepted : (newDeployment onlyUTC scoredProposal).toOption.isSome = true := by decide

theorem findCandidate_of_mem {candidates : List CandidateEvidence} {candidate : CandidateEvidence}
    (distinct : (candidates.map (·.versionID)).Nodup) (member : candidate ∈ candidates) :
    findCandidate candidates candidate.versionID = .ok candidate := by
  have only : candidates.filter (fun other => other.versionID == candidate.versionID) = [candidate] := by
    induction candidates with
    | nil => simp at member
    | cons first rest ih =>
      rw [List.map_cons, List.nodup_cons] at distinct
      rcases List.mem_cons.mp member with rfl | later
      · have none : rest.filter (fun other => other.versionID == candidate.versionID) = [] := by
          rw [List.filter_eq_nil_iff]
          intro other among same
          exact distinct.1 (beq_iff_eq.mp same ▸ List.mem_map_of_mem among)
        simp [none]
      · have apart : first.versionID ≠ candidate.versionID :=
          fun same => distinct.1 (same ▸ List.mem_map_of_mem later)
        rw [List.filter_cons_of_neg (by simpa using apart), ih distinct.2 later]
  rw [findCandidate, only]

/-- The verdict on a candidate that passes every gate depends on the state before it only. -/
theorem decides_of_passing {deployment : Deployment} {input : AssessmentInput} {assessment : Assessment}
    {candidate : CandidateEvidence} {prior : Option Decision} {before : Prior} (proposed : deployment.state = .proposed)
    (assessed : newAssessment Exact input = .ok assessment) (sameMode : deployment.canonical.mode = assessment.canonical.mode)
    (distinct : (assessment.canonical.candidates.map (·.versionID)).Nodup)
    (member : candidate ∈ assessment.canonical.candidates) (versioned : candidate.versionID = deployment.canonical.versionID)
    (passes : ∀ gate ∈ candidate.gates, gate.state = .pass) (follows : priorOf deployment prior = .ok before) :
    ∃ decision, newDecision ⟨some deployment, some assessment, some overallPolicy, prior⟩ = .ok decision ∧
      decision.canonical.deploymentID = deployment.id ∧
      decision.canonical.outcome = (verdictOf before.state true .hold).outcome ∧
      decision.canonical.nextState = (verdictOf before.state true .hold).nextState := by
  obtain ⟨_, _, _, _, _, _, _, _, _, gated⟩ := newAssessment_ok assessed
  have names := (gated candidate member).names
  obtain ⟨overall, named⟩ : ∃ gate, candidate.gates.find? (fun gate => gate.name == "overall_robustness") = some gate := by
    rw [← Option.isSome_iff_exists, List.find?_isSome]
    have listed : "overall_robustness" ∈ candidate.gates.map (·.name) := by
      rw [names]
      decide
    obtain ⟨gate, member, same⟩ := List.mem_map.mp listed
    exact ⟨gate, member, by simp [same]⟩
  have observed : overallPolicy.canonical.requiredGates.mapM (observeGate candidate.gates) = .ok [overall] := by
    change ["overall_robustness"].mapM (observeGate candidate.gates) = _
    simp only [List.mapM_cons, List.mapM_nil, observeGate, named, required, ok_bind]
    rfl
  have verdict : verdictOf before.state ([overall].all fun gate => gate.state == .pass) .hold =
      verdictOf before.state true .hold := by
    simp [passes overall (List.mem_of_find?_eq_some named)]
  simp only [newDecision, returns_iff]
  exact ⟨_, ⟨_, rfl, _, rfl, _, rfl, by simp [proposed, sameMode], candidate,
    versioned ▸ findCandidate_of_mem distinct member, _, (foldlM_indexGate_iff _ _).mpr ⟨rfl, by rw [names]; decide⟩, _,
    observed, before, follows, rfl⟩, rfl, congrArg Verdict.outcome verdict, congrArg Verdict.nextState verdict⟩

theorem stress_promoted : ∃ assessment decision, Promotes Exact onlyUTC stressProposal (extremeInput 0 0) assessment decision ∧
    newDecision ⟨some stressDeployment, some assessment, some overallPolicy, none⟩ = .ok decision ∧
    decision.canonical.nextState = .shadow ∧ assessment.canonical.mode = .paperStress ∧
    ∃ again, newDecision ⟨some stressDeployment, some assessment, some overallPolicy, some decision⟩ = .ok again ∧
      again.canonical.outcome = .held ∧ again.canonical.nextState = .shadow := by
  obtain ⟨assessment, candidate, assessed, mode, only, versioned, _, passes⟩ := extremeInput_accepted 0 0
  have distinct : (assessment.canonical.candidates.map (·.versionID)).Nodup := by simp [only]
  have member : candidate ∈ assessment.canonical.candidates := by simp [only]
  obtain ⟨decision, decided, deployed, approved, shadow⟩ :=
    @decides_of_passing stressDeployment _ assessment candidate none _ rfl assessed mode.symm distinct member versioned
      passes rfl
  have follows : priorOf stressDeployment (some decision) = .ok ⟨.shadow, decision.id.toText, decision.digest⟩ := by
    simp only [priorOf, returns_iff]
    exact ⟨by simp [deployed], by rw [shadow]; rfl⟩
  obtain ⟨again, redecided, _, held, stays⟩ :=
    @decides_of_passing stressDeployment _ assessment candidate _ _ rfl assessed mode.symm distinct member versioned
      passes follows
  exact ⟨assessment, decision,
    ⟨assessed, extremeInput_issued 0 0, ⟨_, _, _, stressDeployment_made, ⟨_, overallPolicy_made⟩, decided⟩, approved⟩,
    decided, shadow, mode, again, redecided, held, stays⟩

theorem promotion_scored_pair : ∃ assessment decision,
    Promotes Exact onlyUTC scoredProposal scoredPair assessment decision ∧ AllScored Exact scoredPair assessment := by
  obtain ⟨assessment, assessed, mode, versions, passes⟩ := scoredPair_accepted
  have distinct : (assessment.canonical.candidates.map (·.versionID)).Nodup := by
    rw [versions]
    decide
  obtain ⟨candidate, member, versioned⟩ : ∃ candidate ∈ assessment.canonical.candidates, candidate.versionID = version :=
    List.mem_map.mp (versions ▸ List.mem_cons_self)
  have deployed := ok_returned _ scoredProposal_accepted
  have built := newDeployment_ok deployed
  obtain ⟨decision, decided, _, approved, _⟩ := @decides_of_passing _ _ assessment candidate none _ built.2 assessed
    (by rw [built.1, mode]; rfl) distinct member (by rw [built.1, versioned]; rfl) (passes candidate member) rfl
  rw [built.2] at approved
  have promotes : Promotes Exact onlyUTC scoredProposal scoredPair assessment decision :=
    ⟨assessed, scoredPair_issued, ⟨_, _, _, deployed, ⟨_, overallPolicy_made⟩, decided⟩, approved⟩
  exact ⟨assessment, decision, promotes, (promotion_scored_iff promotes).mpr rfl⟩

theorem stress_evidence_promotes : ∃ assessment decision,
    Promotes Exact onlyUTC stressProposal (extremeInput 0 0) assessment decision ∧
      assessment.canonical.mode = .paperStress ∧ ¬ AllScored Exact (extremeInput 0 0) assessment := by
  obtain ⟨assessment, decision, promotes, _, _, mode, _⟩ := stress_promoted
  refine ⟨assessment, decision, promotes, mode, fun scored => ?_⟩
  have both := mode.symm.trans scored.assessment
  cases both

theorem promotion_chain_sound {F : Type} [Float64 F] [Elementary F] {deployment : Deployment} {links : List Link}
    (chain : Chain F deployment links) :
    (links.filter Link.approves).length ≤ 1 ∧
      (reached links = .shadow → ∃ link ∈ links, link.decision.canonical.assessmentID = link.assessment.id ∧
        link.AllPassed deployment.canonical.versionID) ∧
      links.Pairwise fun earlier later => earlier.next = .retired → later.next = .retired := by
  have sound := chain.sound
  refine ⟨sound.once, fun shadow => ?_, sound.final⟩
  obtain ⟨link, member, _, cites, passed⟩ := sound.earned shadow
  exact ⟨link, member, cites, passed⟩

theorem promotion_chain_stress : ∃ links, Chain Exact stressDeployment links ∧ links.length = 2 ∧ reached links = .shadow ∧
    (links.filter Link.approves).length ≤ 1 ∧
    ∃ link ∈ links, link.decision.canonical.assessmentID = link.assessment.id ∧ link.AllPassed version := by
  obtain ⟨assessment, decision, promotes, decided, _, _, again, redecided, _, stays⟩ := stress_promoted
  have chain : Chain Exact stressDeployment [⟨assessment, overallPolicy, decision⟩] :=
    @Chain.extend Exact _ _ stressDeployment [] ⟨assessment, overallPolicy, decision⟩ .start
      ⟨⟨_, overallPolicy_made⟩, _, promotes.assessed⟩ decided
  have longer := @Chain.extend Exact _ _ stressDeployment _ ⟨assessment, overallPolicy, again⟩ chain
    ⟨⟨_, overallPolicy_made⟩, _, promotes.assessed⟩ redecided
  have sound := promotion_chain_sound longer
  exact ⟨_, longer, rfl, stays, sound.1, sound.2.1 stays⟩

end Augr.Promotion
