import Augr.Evidenceprogram.Campaign
import Augr.Evidenceprogram.Restore

/-! Readiness and the campaigns behind it.

A program holds the assessments that the assessors, the campaign builder and the restore path
gave it, each call being handed assessments already held. An assessor looks at the outcome of
the assessment it is handed and not at its campaign; the restore path looks at both. -/

set_option autoImplicit false

namespace Augr.Evidenceprogram

open Foundation

variable {a parent : Assessment} {values : List (Option Assessment)}

inductive Call where
  | assess (request : Request)
  | campaign (recorded : Option ShadowCampaign) (days : List (Option ShadowDay))
  | restore (id : Uuid) (digest : String) (raw : RawMessage) (assessmentParents : List (Option Assessment))

def Call.run : Call → Outcome Assessment
  | .assess request => request.assess
  | .campaign recorded days => buildShadowAssessment recorded days
  | .restore id digest raw assessmentParents => assessmentFromCanonical id digest raw assessmentParents

def Request.handed : Request → Option Assessment
  | .shadow _ => none
  | .paper input => input.shadow
  | .portfolio input => input.paper
  | .readiness input => input.portfolio

def Call.handed : Call → List (Option Assessment)
  | .assess request => [request.handed]
  | .campaign _ _ => []
  | .restore _ _ _ assessmentParents => assessmentParents

/-- The assessments held after any composition of the admitted calls. -/
inductive Obtained (admits : Call → Prop) : Assessment → Prop where
  | call {call : Call} {a : Assessment} (admitted : admits call)
      (held : ∀ parent, some parent ∈ call.handed → Obtained admits parent) (returns : call.run = .ok a) : Obtained admits a

def Request.preceding : Request → Option Campaign
  | .shadow _ => none
  | .paper _ => some .shadow
  | .portfolio _ => some .paper
  | .readiness _ => some .portfolio

/-- A qualified assessment is handed only to the assessor of the campaign after its own. -/
def Request.InOrder (request : Request) : Prop :=
  ∀ parent, request.handed = some parent → parent.outcome = .qualified → some parent.campaign = request.preceding

def Call.InOrder : Call → Prop
  | .assess request => request.InOrder
  | _ => True

section
variable (held : Assessment → Prop)

/-- A parent of the assessment, held by the program. -/
def Rests (passed : Assessment → Prop) (a : Assessment) : Prop :=
  ∃ parent, held parent ∧ parent.reference ∈ a.parents ∧ passed parent

structure ShadowPassed (a : Assessment) : Prop where
  campaign : a.campaign = .shadow
  qualified : a.outcome = .qualified
  clear : a.blockers = []

structure PaperPassed (a : Assessment) : Prop where
  campaign : a.campaign = .paper
  qualified : a.outcome = .qualified
  shadow : Rests held ShadowPassed a

structure PortfolioPassed (a : Assessment) : Prop where
  campaign : a.campaign = .portfolio
  qualified : a.outcome = .qualified
  paper : Rests held (PaperPassed held) a

def CapabilitiesPassed (a : Assessment) : Prop :=
  ∃ capabilities, a.capabilities = some capabilities ∧
    ∀ name ∈ requiredCapabilities, ∃ capability ∈ capabilities, capability.name = name ∧ capability.passed = true

structure Earned (a : Assessment) : Prop where
  portfolio : Rests held (PortfolioPassed held) a
  capabilities : CapabilitiesPassed a

end

theorem blocks_eq_nil {condition : Bool} {blocker : String} : blocks condition blocker = [] ↔ condition = false := by
  cases condition <;> simp [blocks]

theorem normalizeParents_ok {values parents : List EvidenceRef} (normal : normalizeParents values = .ok parents)
    {ref : EvidenceRef} (member : ref ∈ values) : ref ∈ parents := by
  obtain ⟨_, _, result⟩ := bind_ok_iff.mp normal
  cases result
  exact (perm_sortedBy _ values).mem_iff.mpr member

section
variable {campaign : Campaign} {start stop : Instant} {pass fail : AssessmentOutcome} {facts : RawMessage}
  {blockers : List String} {parents : List EvidenceRef}

theorem build_unblocked (passed : (build campaign start stop pass fail facts blockers parents).outcome ≠ fail) :
    blockers = [] := by
  by_contra some
  apply passed
  change (if blockers.isEmpty then pass else fail) = fail
  rw [if_neg (by simpa using some)]

end

theorem assessShadow_ok {input : ShadowInput} (assessed : assessShadow input = .ok a) :
    a.campaign = .shadow ∧ (a.outcome = .qualified → a.blockers = []) := by
  simp only [assessShadow, returns_iff] at assessed
  obtain ⟨parents, _, _, rfl⟩ := assessed
  refine ⟨rfl, fun qualified => ?_⟩
  have clear := build_unblocked (by rw [qualified]; decide)
  change sortedBy byteOrder (input.blockers _) = []
  rw [clear]
  rfl

/-- What a later assessment keeps of the one it was handed. -/
structure Follows (campaign : Campaign) (pass : AssessmentOutcome) (parent a : Assessment) : Prop where
  campaign : a.campaign = campaign
  listed : parent.reference ∈ a.parents
  qualified : a.outcome = pass → parent.outcome = .qualified

theorem assessPaper_ok {input : PaperInput} (assessed : assessPaper input = .ok a) :
    ∃ shadow, input.shadow = some shadow ∧ Follows .paper .qualified shadow a := by
  simp only [assessPaper, returns_iff] at assessed
  obtain ⟨shadow, given, parents, normal, _, rfl⟩ := assessed
  refine ⟨shadow, given, rfl, normalizeParents_ok normal (by simp), fun qualified => ?_⟩
  have clear := build_unblocked (by rw [qualified]; decide)
  simp only [PaperInput.blockers, List.append_eq_nil_iff, blocks_eq_nil, bne_eq_false_iff_eq] at clear
  exact clear.1.1.1.1

theorem assessPortfolio_ok {input : PortfolioInput} (assessed : assessPortfolio input = .ok a) :
    ∃ paper, input.paper = some paper ∧ Follows .portfolio .qualified paper a := by
  simp only [assessPortfolio, returns_iff] at assessed
  obtain ⟨paper, given, parents, normal, combined, _, best, _, rfl⟩ := assessed
  refine ⟨paper, given, rfl, normalizeParents_ok normal (by simp), fun qualified => ?_⟩
  have clear := build_unblocked (by rw [qualified]; decide)
  simp only [PortfolioInput.blockers, List.append_eq_nil_iff, blocks_eq_nil, bne_eq_false_iff_eq] at clear
  exact clear.1.1

theorem passed_of_unblocked {capabilities : List Capability} {name : String}
    (clear : capabilityBlockers capabilities name = []) :
    ∃ capability ∈ capabilities, capability.name = name ∧ capability.passed = true := by
  rw [capabilityBlockers] at clear
  split at clear
  · simp at clear
  · rename_i capability found
    refine ⟨capability, List.mem_of_find?_eq_some found, by simpa using List.find?_some found, ?_⟩
    simpa [blocks_eq_nil] using clear

theorem assessReadiness_ok {input : ReadinessInput} (assessed : assessReadiness input = .ok a) :
    ∃ portfolio, input.portfolio = some portfolio ∧ Follows .readiness .ready portfolio a ∧
      (a.outcome = .ready → CapabilitiesPassed a) := by
  simp only [assessReadiness, returns_iff] at assessed
  obtain ⟨portfolio, given, parents, normal, _, _, rfl⟩ := assessed
  have apart : (if portfolio.outcome = .held then AssessmentOutcome.blocked else .notReady) ≠ .ready := by
    split <;> decide
  refine ⟨portfolio, given, ⟨rfl, normalizeParents_ok normal (by simp), fun ready => ?_⟩, fun ready => ?_⟩
  all_goals
    have clear := build_unblocked (by rw [ready]; exact apart.symm)
    simp only [readinessBlockers, List.append_eq_nil_iff, blocks_eq_nil, bne_eq_false_iff_eq, List.flatMap_eq_nil_iff]
      at clear
  · exact clear.1
  · exact ⟨_, capabilities_eq rfl, fun name member => passed_of_unblocked (clear.2 name member)⟩

theorem onlyParent_eq {campaign : Campaign} (only : onlyParent campaign values = some parent) :
    some parent ∈ values ∧ parent.campaign = campaign := by
  rw [onlyParent.eq_def] at only
  split at only
  · split at only
    · cases only
      exact ⟨List.mem_singleton_self _, by assumption⟩
    · cases only
  · cases only

theorem exactAssessmentParent_ok {refs other : List EvidenceRef} {campaign : Campaign}
    (exact : (exactAssessmentParent refs values campaign).toOption = some (parent, other)) :
    some parent ∈ values ∧ some parent.campaign = some campaign := by
  have made := ok_of_toOption exact
  simp only [exactAssessmentParent, returns_iff, Prod.mk.injEq] at made
  obtain ⟨_, only, _, _, _, rfl, _⟩ := made
  obtain ⟨member, same⟩ := onlyParent_eq only
  exact ⟨member, congrArg some same⟩

/-- A request that the restore path makes is handed the supplied parent, which is of the campaign before. -/
theorem requestOf_ok {value : Restored} {start stop : Instant} {request : Request}
    (made : requestOf value start stop values = .ok request) :
    ∀ parent, request.handed = some parent → some parent ∈ values ∧ some parent.campaign = request.preceding := by
  intro parent handed
  simp only [requestOf] at made
  split at made
  · rw [required_ok_iff] at made
    simp only [shadowRequest, bind, Option.bind_eq_some_iff, pure] at made
    obtain ⟨_, _, _, _, _, _, made⟩ := made
    cases made
    cases handed
  split at made
  · rw [required_ok_iff] at made
    simp only [paperRequest, bind, Option.bind_eq_some_iff, pure] at made
    obtain ⟨⟨found, other⟩, exact, _, _, _, _, _, _, made⟩ := made
    cases made
    cases handed
    exact exactAssessmentParent_ok exact
  split at made
  · rw [required_ok_iff] at made
    simp only [portfolioRequest, bind, Option.bind_eq_some_iff, pure] at made
    obtain ⟨⟨found, other⟩, exact, _, _, _, _, _, _, _, _, _, _, made⟩ := made
    cases made
    cases handed
    exact exactAssessmentParent_ok exact
  split at made
  · rw [required_ok_iff] at made
    simp only [readinessRequest, bind, Option.bind_eq_some_iff, pure] at made
    obtain ⟨⟨found, other⟩, exact, _, _, _, _, made⟩ := made
    cases made
    cases handed
    exact exactAssessmentParent_ok exact
  · cases made

theorem assessmentFromCanonical_ok {id : Uuid} {digest : String} {raw : RawMessage}
    (restored : assessmentFromCanonical id digest raw values = .ok a) :
    ∃ request : Request, request.assess = .ok a ∧
      ∀ parent, request.handed = some parent → some parent ∈ values ∧ some parent.campaign = request.preceding := by
  simp only [assessmentFromCanonical, returns_iff] at restored
  obtain ⟨_, value, _, _, ⟨start, stop⟩, _, request, made, rebuilt⟩ := restored
  rw [Option.filter_eq_some_iff] at rebuilt
  exact ⟨request, ok_of_toOption rebuilt.1, requestOf_ok made⟩

theorem Call.run_ok {call : Call} (ordered : call.InOrder) (returns : call.run = .ok a) :
    ∃ request : Request, request.assess = .ok a ∧ request.InOrder ∧
      ∀ parent, request.handed = some parent → some parent ∈ call.handed := by
  cases call with
  | assess request => exact ⟨request, returns, ordered, fun parent handed => handed ▸ List.mem_singleton_self _⟩
  | campaign recorded days =>
    obtain ⟨campaign, _, assessed⟩ := bind_ok_iff.mp returns
    refine ⟨.shadow _, assessed, ?_, ?_⟩
    all_goals
      intro parent handed
      cases handed
  | restore id digest raw values =>
    obtain ⟨request, assessed, exact⟩ := assessmentFromCanonical_ok returns
    exact ⟨request, assessed, fun parent handed _ => (exact parent handed).2, fun parent handed => (exact parent handed).1⟩

def Standing (held : Assessment → Prop) (a : Assessment) : Prop :=
  match a.campaign with
  | .shadow => a.outcome = .qualified → ShadowPassed a
  | .paper => a.outcome = .qualified → PaperPassed held a
  | .portfolio => a.outcome = .qualified → PortfolioPassed held a
  | .readiness => a.outcome = .ready → Earned held a

/-- One request in order keeps the standing, given the standing of the assessment it is handed. -/
theorem Request.standing {held : Assessment → Prop} {request : Request} (ordered : request.InOrder)
    (assessed : request.assess = .ok a)
    (before : ∀ parent, request.handed = some parent → held parent ∧ Standing held parent) : Standing held a := by
  -- The handed assessment is qualified, so it is of the campaign before and its own standing applies.
  cases request with
  | shadow input =>
    obtain ⟨same, clear⟩ := assessShadow_ok assessed
    simp only [Standing, same]
    exact fun qualified => ⟨same, qualified, clear qualified⟩
  | paper input =>
    obtain ⟨shadow, given, follows⟩ := assessPaper_ok assessed
    obtain ⟨isHeld, standing⟩ := before shadow given
    simp only [Standing, follows.campaign]
    intro qualified
    have passed := follows.qualified qualified
    have same : shadow.campaign = .shadow := Option.some.inj (ordered shadow given passed)
    simp only [Standing, same] at standing
    exact ⟨follows.campaign, qualified, shadow, isHeld, follows.listed, standing passed⟩
  | portfolio input =>
    obtain ⟨paper, given, follows⟩ := assessPortfolio_ok assessed
    obtain ⟨isHeld, standing⟩ := before paper given
    simp only [Standing, follows.campaign]
    intro qualified
    have passed := follows.qualified qualified
    have same : paper.campaign = .paper := Option.some.inj (ordered paper given passed)
    simp only [Standing, same] at standing
    exact ⟨follows.campaign, qualified, paper, isHeld, follows.listed, standing passed⟩
  | readiness input =>
    obtain ⟨portfolio, given, follows, capabilities⟩ := assessReadiness_ok assessed
    obtain ⟨isHeld, standing⟩ := before portfolio given
    simp only [Standing, follows.campaign]
    intro ready
    have passed := follows.qualified ready
    have same : portfolio.campaign = .portfolio := Option.some.inj (ordered portfolio given passed)
    simp only [Standing, same] at standing
    exact ⟨⟨portfolio, isHeld, follows.listed, standing passed⟩, capabilities ready⟩

theorem Obtained.standing (obtained : Obtained Call.InOrder a) : Standing (Obtained Call.InOrder) a := by
  induction obtained with
  | call ordered held returns ih =>
    obtain ⟨request, assessed, inOrder, handed⟩ := Call.run_ok ordered returns
    exact request.standing inOrder assessed fun parent given =>
      ⟨held parent (handed parent given), ih parent (handed parent given)⟩

/-- In every history in which a qualified assessment only goes to the next campaign, readiness
has the whole chain of campaigns behind it. -/
theorem ready_earned {a : Assessment} (obtained : Obtained Call.InOrder a) (campaign : a.campaign = .readiness)
    (ready : a.outcome = .ready) : Earned (Obtained Call.InOrder) a := by
  have standing := obtained.standing
  simp only [Standing, campaign] at standing
  exact standing ready

def sampleTime (days : Int) : Instant := ⟨(63902822400 + days * 86400) * 1000000000, true⟩

def shadowCandidates : List CandidateShadow := ["alpha", "beta"].map fun key => ⟨key, 30, 0, 1, 1, true, "0"⟩

def shadowInput : ShadowInput := ⟨sampleTime 0, sampleTime 30, true, shadowCandidates, []⟩

def shadowDigest : String := "07bb6e4a66cf841dc78673dfa9ff0680493a71a83c9a3bd102a5501417a805fe"

def shadowReference : EvidenceRef :=
  ⟨"shadow_30_day", ⟨[81, 30, 122, 214, 59, 41, 220, 136, 217, 201, 203, 188, 50, 116, 186, 128], rfl⟩, shadowDigest⟩

def paperInput (shadow : Assessment) : PaperInput :=
  ⟨some shadow, sampleTime 30, sampleTime 90, [⟨"alpha", 1, "1", true, true, true⟩], []⟩

def portfolioInput (paper : Assessment) : PortfolioInput :=
  ⟨some paper, sampleTime 30, sampleTime 90, "1", "1", true, true, []⟩

def portfolioDigest : String := "6eae56478b22a7241db03813f31f84b9125a52270f18cb188a6a000a390a4063"

def portfolioReference : EvidenceRef :=
  ⟨"portfolio_paper", ⟨[77, 66, 101, 100, 97, 103, 165, 15, 223, 96, 134, 232, 59, 211, 93, 129], rfl⟩, portfolioDigest⟩

def sampleCapabilities : List Capability :=
  (sortedBy byteOrder requiredCapabilities).map fun name => ⟨name, true, shadowReference⟩

def sampleReadiness (parent : EvidenceRef) : Assessment :=
  build .readiness .zero .zero .ready .notReady (readinessFacts sampleCapabilities) [] [parent]

/-- The campaigns in order, and readiness assessed on the first of them at once. -/
def sampleChain : Outcome (Assessment × Assessment × Assessment × Assessment × Assessment) := do
  let shadow ← assessShadow shadowInput
  let paper ← assessPaper (paperInput shadow)
  let portfolio ← assessPortfolio (portfolioInput paper)
  let ready ← assessReadiness ⟨some portfolio, sampleCapabilities, []⟩
  let early ← assessReadiness ⟨some shadow, sampleCapabilities, []⟩
  pure (shadow, paper, portfolio, ready, early)

theorem sampleChain_evaluated : (sampleChain.toOption.any fun (shadow, paper, portfolio, ready, early) =>
    shadow.campaign == .shadow && paper.campaign == .paper && portfolio.campaign == .portfolio &&
      ready == sampleReadiness portfolioReference && early == sampleReadiness shadowReference) = true := by
  decide +kernel

theorem Obtained.assess {admits : Call → Prop} (request : Request) (admitted : admits (.assess request))
    (held : ∀ parent, request.handed = some parent → Obtained admits parent) (returns : request.assess = .ok a) :
    Obtained admits a :=
  @Obtained.call admits (.assess request) a admitted (fun parent handed => held parent (List.mem_singleton.mp handed).symm)
    returns

theorem Obtained.next (request : Request) (given : request.handed = some parent)
    (precedes : some parent.campaign = request.preceding) (held : Obtained Call.InOrder parent)
    (returns : request.assess = .ok a) : Obtained Call.InOrder a := by
  refine .assess request (fun other handed _ => ?_) (fun other handed => ?_) returns
  all_goals cases given.symm.trans handed
  exacts [precedes, held]

theorem sampleChain_obtained : Obtained Call.InOrder (sampleReadiness portfolioReference) := by
  obtain ⟨_, run, tested⟩ := ok_of_evaluated sampleChain_evaluated
  simp only [sampleChain, returns_iff] at run
  obtain ⟨shadow, isShadow, paper, isPaper, portfolio, isPortfolio, ready, isReady, _, _, rfl⟩ := run
  simp only [Bool.and_eq_true, beq_iff_eq] at tested
  obtain ⟨⟨⟨⟨inShadow, inPaper⟩, inPortfolio⟩, rfl⟩, _⟩ := tested
  have first : Obtained Call.InOrder shadow := .assess (.shadow _) (by rintro _ ⟨⟩) (by rintro _ ⟨⟩) isShadow
  have second : Obtained Call.InOrder paper := .next (.paper _) rfl (congrArg some inShadow) first isPaper
  have third : Obtained Call.InOrder portfolio := .next (.portfolio _) rfl (congrArg some inPaper) second isPortfolio
  exact .next (.readiness _) rfl (congrArg some inPortfolio) third isReady

theorem ready_earned_sample : Earned (Obtained Call.InOrder) (sampleReadiness portfolioReference) :=
  ready_earned sampleChain_obtained rfl rfl

/-- A qualified shadow assessment handed in as the portfolio gives readiness without a paper
and without a portfolio campaign. -/
theorem shadow_gives_ready : ∃ a : Assessment, Obtained (fun _ => True) a ∧ a.campaign = .readiness ∧ a.outcome = .ready ∧
    ¬ Earned (fun _ => True) a := by
  refine ⟨sampleReadiness shadowReference, ?_, rfl, rfl, ?_⟩
  · obtain ⟨_, run, tested⟩ := ok_of_evaluated sampleChain_evaluated
    simp only [sampleChain, returns_iff] at run
    obtain ⟨shadow, isShadow, _, _, _, _, _, _, early, isEarly, rfl⟩ := run
    simp only [Bool.and_eq_true, beq_iff_eq] at tested
    have first : Obtained (fun _ => True) shadow := .assess (.shadow _) trivial (by rintro _ ⟨⟩) isShadow
    refine tested.2 ▸ .assess (.readiness _) trivial (fun parent handed => ?_) isEarly
    cases handed
    exact first
  · -- Its only parent is of the shadow kind, and the kind of a reference is the campaign.
    rintro ⟨⟨portfolio, _, listed, passed⟩, _⟩
    have same : portfolio.reference = shadowReference := List.mem_singleton.mp listed
    have kind : portfolio.campaign.text = "shadow_30_day" := congrArg EvidenceRef.kind same
    rw [passed.campaign] at kind
    exact absurd kind (by decide)

end Augr.Evidenceprogram
