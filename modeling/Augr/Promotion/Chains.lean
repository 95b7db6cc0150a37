import Augr.Promotion.Decision

/-! What holds along a chain of decisions on one deployment. -/

set_option autoImplicit false

namespace Augr.Promotion

open Foundation
open Robustness (Assessment AssessmentInput CandidateEvidence Gate newAssessment newAssessment_ok)

theorem foldlM_indexGate_iff (gates indexed : List Gate) :
    gates.foldlM indexGate [] = .ok indexed ↔ indexed = gates ∧ (gates.map Gate.name).Nodup := by
  have loop := @foldlM_checked_iff _ _ indexGate (fun _ => True) (fun earlier later => earlier.name ≠ later.name) id gates
    (fun sofar gate _ next => by
      simp only [indexGate, returns_iff, List.any_eq_false, beq_iff_eq, true_and]
      exact and_comm.trans (and_congr_left' eq_comm)) indexed
  simpa [List.Nodup, List.pairwise_map] using loop

theorem findCandidate_ok {candidates : List CandidateEvidence} {version : Uuid} {candidate : CandidateEvidence}
    (ok : findCandidate candidates version = .ok candidate) :
    candidate ∈ candidates ∧ candidate.versionID = version ∧
      ∀ other ∈ candidates, other.versionID = version → other = candidate := by
  have only : candidates.filter (fun candidate => candidate.versionID == version) = [candidate] := by
    revert ok
    rw [findCandidate]
    split <;> simp_all
  have listed : ∀ other, other ∈ candidates.filter (fun candidate => candidate.versionID == version) ↔
      other = candidate := by simp [only]
  simp only [List.mem_filter, beq_iff_eq] at listed
  have self := (listed candidate).mpr rfl
  exact ⟨self.1, self.2, fun other member same => (listed other).mp ⟨member, same⟩⟩

theorem observed_passes {gates observed : List Gate} {names : List String}
    (ok : names.mapM (observeGate gates) = .ok observed) (passes : (observed.all fun gate => gate.state == .pass) = true)
    {name : String} (member : name ∈ names) : ∃ gate ∈ gates, gate.name = name ∧ gate.state = .pass := by
  rw [mapM_ok_iff] at ok
  induction ok with
  | nil => simp at member
  | cons first _ ih =>
    simp only [List.all_cons, Bool.and_eq_true, beq_iff_eq] at passes
    rcases List.mem_cons.mp member with rfl | later
    · simp only [observeGate, required_ok_iff] at first
      exact ⟨_, List.mem_of_find?_eq_some first, beq_iff_eq.mp (List.find?_some first :), passes.1⟩
    · exact ih passes.2 later

/-- All a decision says: it follows its prior state, and it approves on gates of the one candidate it found. -/
structure Decides (deployment : Deployment) (assessment : Assessment) (policy : Policy) (prior : Option Decision)
    (decision : Decision) : Prop where
  proposed : deployment.state = .proposed
  sameMode : deployment.canonical.mode = assessment.canonical.mode
  cites : decision.canonical.assessmentID = assessment.id
  verdict : ∃ candidate passes, candidate ∈ assessment.canonical.candidates ∧
    candidate.versionID = deployment.canonical.versionID ∧
    (∀ other ∈ assessment.canonical.candidates, other.versionID = deployment.canonical.versionID → other = candidate) ∧
    (passes = true → ∀ name ∈ policy.canonical.requiredGates, ∃ gate ∈ candidate.gates, gate.name = name ∧ gate.state = .pass) ∧
    decision.canonical.outcome = (verdictOf ((prior.map (·.canonical.nextState)).getD .proposed) passes
      policy.canonical.failureAction).outcome ∧
    decision.canonical.nextState = (verdictOf ((prior.map (·.canonical.nextState)).getD .proposed) passes
      policy.canonical.failureAction).nextState

theorem newDecision_ok {deployment : Deployment} {assessment : Assessment} {policy : Policy} {prior : Option Decision}
    {decision : Decision} (ok : newDecision ⟨some deployment, some assessment, some policy, prior⟩ = .ok decision) :
    Decides deployment assessment policy prior decision := by
  simp only [newDecision, returns_iff, Option.some.injEq] at ok
  obtain ⟨_, rfl, _, rfl, _, rfl, parents, candidate, isCandidate, gates, isGates, observed, isObserved, before, isBefore,
    rfl⟩ := ok
  simp only [Bool.or_eq_false_iff, bne_eq_false_iff_eq] at parents
  obtain ⟨member, version, only⟩ := findCandidate_ok isCandidate
  have whole := ((foldlM_indexGate_iff _ _).mp isGates).1
  have state : before.state = (prior.map (·.canonical.nextState)).getD .proposed := by
    cases prior with
    | none =>
      cases isBefore
      exact parents.1
    | some last =>
      simp only [priorOf, bind_ok_iff] at isBefore
      obtain ⟨_, _, made⟩ := isBefore
      cases made
      rfl
  refine ⟨parents.1, parents.2, rfl, candidate, observed.all fun gate => gate.state == .pass, member, version, only, ?_, ?_, ?_⟩
  · intro passes name listed
    exact whole ▸ observed_passes isObserved passes listed
  · rw [← state]
    rfl
  · rw [← state]
    rfl

theorem newPolicy_overall {input : PolicyInput} {policy : Policy} (ok : newPolicy input = .ok policy) :
    "overall_robustness" ∈ policy.canonical.requiredGates := by
  simp only [newPolicy, returns_iff] at ok
  obtain ⟨_, _, listed, built⟩ := ok
  cases built
  simpa using listed

theorem verdictOf_approved {prior : DeploymentState} {passes : Bool} {action : FailureAction}
    (approved : (verdictOf prior passes action).outcome = .approved) : prior = .proposed ∧ passes = true := by
  revert approved
  rw [verdictOf]
  split <;> rename_i test
  · simpa using test
  · split <;> simp

theorem verdictOf_next (prior : DeploymentState) (passes : Bool) (action : FailureAction) :
    (verdictOf prior passes action).outcome = .approved ∧ (verdictOf prior passes action).nextState = .shadow ∨
      (verdictOf prior passes action).outcome ≠ .approved ∧ (verdictOf prior passes action).nextState = .retired ∨
      (verdictOf prior passes action).outcome ≠ .approved ∧ (verdictOf prior passes action).nextState = prior := by
  rw [verdictOf]
  split
  · simp
  · split <;> simp

structure Link where
  assessment : Assessment
  policy : Policy
  decision : Decision

section Chain

variable (F : Type) [Float64 F] [Elementary F]

def Link.Issued (link : Link) : Prop :=
  (∃ input, newPolicy input = .ok link.policy) ∧ ∃ input : AssessmentInput, newAssessment F input = .ok link.assessment

/-- Decisions on one deployment, the oldest first; each names the one before it. -/
inductive Chain (deployment : Deployment) : List Link → Prop where
  | start : Chain deployment []
  | extend {links : List Link} {link : Link} (chain : Chain deployment links) (issued : link.Issued F)
      (decided : newDecision ⟨some deployment, some link.assessment, some link.policy,
        links.getLast?.map (·.decision)⟩ = .ok link.decision) : Chain deployment (links ++ [link])

end Chain

def Link.next (link : Link) : DeploymentState := link.decision.canonical.nextState

def Link.approves (link : Link) : Bool := link.decision.canonical.outcome = .approved

def reached (links : List Link) : DeploymentState := (links.getLast?.map Link.next).getD .proposed

/-- The assessment has the version once, and every gate of it passed. -/
def Link.AllPassed (link : Link) (version : Uuid) : Prop :=
  ∃ candidate ∈ link.assessment.canonical.candidates, candidate.versionID = version ∧
    (∀ other ∈ link.assessment.canonical.candidates, other.versionID = version → other = candidate) ∧
    ∀ gate ∈ candidate.gates, gate.state = .pass

variable {F : Type} [Float64 F] [Elementary F] {deployment : Deployment} {links : List Link} {link : Link}

theorem link_cases (issued : link.Issued F)
    (decided : newDecision ⟨some deployment, some link.assessment, some link.policy,
      links.getLast?.map (·.decision)⟩ = .ok link.decision) :
    link.approves = true ∧ reached links = .proposed ∧ link.next = .shadow ∧
        link.decision.canonical.assessmentID = link.assessment.id ∧ link.AllPassed deployment.canonical.versionID ∨
      link.approves = false ∧ (link.next = .retired ∨ link.next = reached links) := by
  obtain ⟨⟨policyInput, isPolicy⟩, input, isAssessment⟩ := issued
  have decides := newDecision_ok decided
  obtain ⟨candidate, passes, member, version, only, required, outcome, next⟩ := decides.verdict
  have before : ((links.getLast?.map (·.decision)).map (·.canonical.nextState)).getD .proposed = reached links := by
    cases last : links.getLast? <;> simp [reached, last, Link.next]
  rw [before] at outcome next
  rcases verdictOf_next (reached links) passes link.policy.canonical.failureAction with ⟨approved, shadow⟩ | rest | rest
  · obtain ⟨proposed, passed⟩ := verdictOf_approved approved
    refine .inl ⟨by simp [Link.approves, outcome, approved], proposed, next.trans shadow, decides.cites,
      candidate, member, version, only, ?_⟩
    obtain ⟨_, _, _, _, _, _, _, _, _, gated⟩ := newAssessment_ok isAssessment
    obtain ⟨gate, among, named, passes⟩ := required passed _ (newPolicy_overall isPolicy)
    exact (gated candidate member).overall gate among named passes
  · exact .inr ⟨by simp [Link.approves, outcome, rest.1], .inl (next.trans rest.2)⟩
  · exact .inr ⟨by simp [Link.approves, outcome, rest.1], .inr (next.trans rest.2)⟩

theorem reached_append : reached (links ++ [link]) = link.next := by simp [reached]

/-- Along a chain: nothing is approved while the deployment is proposed, and nothing twice; a deployment in
shadow was approved on gates that all passed; and retirement is final. -/
structure Sound (deployment : Deployment) (links : List Link) : Prop where
  once : (links.filter Link.approves).length ≤ 1
  waiting : reached links = .proposed → (links.filter Link.approves).length = 0
  earned : reached links = .shadow → ∃ link ∈ links, link.approves = true ∧
    link.decision.canonical.assessmentID = link.assessment.id ∧ link.AllPassed deployment.canonical.versionID
  final : links.Pairwise fun earlier later => earlier.next = .retired → later.next = .retired
  ended : ∀ link ∈ links, link.next = .retired → reached links = .retired

theorem Chain.sound (chain : Chain F deployment links) : Sound deployment links := by
  induction chain with
  | start => exact ⟨by simp, by simp, by simp [reached], .nil, by simp⟩
  | @extend links link _ issued decided ih =>
    have counts : ((links ++ [link]).filter Link.approves).length =
        (links.filter Link.approves).length + if link.approves then 1 else 0 := by
      cases approves : link.approves <;> simp [approves]
    have later : ∀ earlier ∈ links, earlier.next = .retired → link.next = .retired := by
      intro earlier member retired
      have ended := ih.ended earlier member retired
      rcases link_cases issued decided with ⟨_, proposed, _⟩ | ⟨_, next | next⟩
      · rw [ended] at proposed
        cases proposed
      · exact next
      · exact next.trans ended
    have final : (links ++ [link]).Pairwise fun earlier later => earlier.next = .retired → later.next = .retired := by
      refine List.pairwise_append.mpr ⟨ih.final, List.pairwise_singleton _ _, fun earlier member other last => ?_⟩
      rw [List.mem_singleton.mp last]
      exact later earlier member
    have ended : ∀ earlier ∈ links ++ [link], earlier.next = .retired → reached (links ++ [link]) = .retired := by
      rw [reached_append]
      exact forall_mem_concat later id
    rcases link_cases issued decided with ⟨approves, proposed, shadow, cites, passed⟩ | ⟨refused, next⟩
    · have none := ih.waiting proposed
      refine ⟨by simp [none, approves], fun waits => ?_, fun _ => ?_, final, ended⟩
      · rw [reached_append, shadow] at waits
        cases waits
      · exact ⟨link, by simp, approves, cites, passed⟩
    · refine ⟨by simpa [counts, refused] using ih.once, fun waits => ?_, fun shadow => ?_, final, ended⟩
      · rw [reached_append] at waits
        rcases next with next | next
        · rw [next] at waits
          cases waits
        · simpa [counts, refused] using ih.waiting (next.symm.trans waits)
      · rw [reached_append] at shadow
        rcases next with next | next
        · rw [next] at shadow
          cases shadow
        · obtain ⟨earlier, member, rest⟩ := ih.earned (next.symm.trans shadow)
          exact ⟨earlier, List.mem_append_left _ member, rest⟩

end Augr.Promotion
