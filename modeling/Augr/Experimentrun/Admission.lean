import Augr.Capital.Totals
import Augr.Experimentrun.Preflight
import Mathlib.Data.List.ReduceOption

/-! What the capital preflight admits, taken over all the steps of a plan. -/

set_option autoImplicit false

namespace Augr.Capital

open Foundation

section
variable {input : AssessmentInput} {a : Assessment}

theorem validateAssessmentInput_found {policy : Policy} {state : State}
    (ok : validateAssessmentInput input = .ok (policy, state)) : input.policy = some policy ∧ input.state = some state := by
  simp only [validateAssessmentInput, returns_iff, Prod.mk.injEq] at ok
  obtain ⟨_, found, _, given, _, _, _, _, _, _, _, _, _, rfl, rfl⟩ := ok
  exact ⟨found, given⟩

theorem validateAssessmentInput_positive {policy : Policy} {state : State}
    (ok : validateAssessmentInput input = .ok (policy, state)) : 0 < input.proposedNotional.toRat := by
  simp only [validateAssessmentInput, returns_iff, Prod.mk.injEq] at ok
  obtain ⟨_, _, _, _, _, _, _, _, _, _, direction, _⟩ := ok
  simp only [Bool.or_eq_false_iff, Bool.not_eq_false', Decimal.isPositive_iff] at direction
  exact direction.1.2

theorem assess_finite {profile : Profile} (ok : assess input = .ok a)
    (found : Policy.profileOf input.policy input.binding.profile = some profile) (finite : profile.unlimited = false) :
    ∃ policy state, validateAssessmentInput input = .ok (policy, state) ∧
      a = (finiteAssessment input policy state profile).sealed := by
  simp only [assess, returns_iff, Prod.exists, sealAssessment, found, Option.getD_some, finite, Bool.false_eq_true,
    if_false] at ok
  obtain ⟨policy, state, valid, _, rfl⟩ := ok
  exact ⟨policy, state, valid, rfl⟩

theorem finiteAssessment_notional (policy : Policy) (state : State) (profile : Profile) :
    (finiteAssessment input policy state profile).proposedNotional = input.proposedNotional := by
  unfold finiteAssessment
  dsimp only
  split
  · rfl
  · split
    · rfl
    · split <;> rfl

theorem finiteAssessment_requested {policy : Policy} {state : State} {profile : Profile}
    (admitted : (finiteAssessment input policy state profile).decision = .admitted) :
    (finiteAssessment input policy state profile).requestedInitialMargin =
      roundCapitalUp (input.proposedNotional.mul (initialRatio profile input.direction)) policy.scale := by
  revert admitted
  unfold finiteAssessment
  dsimp only
  split
  · intro admitted
    cases admitted
  · intro _
    split
    · rfl
    · split <;> rfl

end

theorem newPolicy_nonneg {input : PolicyInput} {policy : Policy} (made : newPolicy input = .ok policy) {name : MarginProfile}
    {profile : Profile} (found : Policy.profileOf (some policy) name = some profile) :
    ∀ value ∈ profile.amounts, 0 ≤ value.toRat := by
  simp only [newPolicy, returns_iff] at made
  obtain ⟨_, _, _, _, _, four, checked, rfl⟩ := made
  have member : profile ∈ input.profiles.insertionSort fun left right => ¬ right.name.text < left.name.text :=
    List.mem_of_find?_eq_some found
  have sized : (input.profiles.insertionSort fun left right => ¬ right.name.text < left.name.text).length ≤
      reviewedProfiles.length := by
    have four : input.profiles.length = 4 := by simpa using four
    rw [List.length_insertionSort, four]
    rfl
  rw [← List.map_fst_zip sized, ← List.zipIdx_map_fst 0 (List.zip _ _), List.map_map, List.mem_map] at member
  obtain ⟨entry, inside, rfl⟩ := member
  rw [forEach_ok_iff] at checked
  have valid := checked entry inside
  simp only [returns_iff, validateProfile, forEach_ok_iff] at valid
  intro value amount
  have here := valid.1.2 value amount
  simp only [Bool.or_eq_false_iff, Decimal.isNegative_eq_false_iff] at here
  exact here.2

end Augr.Capital

namespace Augr.Experimentrun

open Foundation Capital

/-- Each demand is met from what the demands before it leave of the two stocks. -/
def FitsInTurn (margin gross : ℚ) : List (ℚ × ℚ) → Prop
  | [] => True
  | demand :: rest => demand.1 ≤ margin ∧ demand.2 ≤ gross ∧ FitsInTurn (margin - demand.1) (gross - demand.2) rest

theorem fitsInTurn_iff {margin gross : ℚ} {demands : List (ℚ × ℚ)} (someMargin : 0 ≤ margin) (someGross : 0 ≤ gross)
    (nonneg : ∀ demand ∈ demands, 0 ≤ demand.1 ∧ 0 ≤ demand.2) :
    FitsInTurn margin gross demands ↔
      (demands.map Prod.fst).sum ≤ margin ∧ (demands.map Prod.snd).sum ≤ gross := by
  induction demands generalizing margin gross with
  | nil => simp [FitsInTurn, someMargin, someGross]
  | cons demand rest ih =>
    rw [List.forall_mem_cons] at nonneg
    obtain ⟨⟨first, second⟩, others⟩ := nonneg
    have restFirst : 0 ≤ (rest.map Prod.fst).sum := List.sum_nonneg (by
      simp only [List.mem_map]
      rintro _ ⟨other, member, rfl⟩
      exact (others other member).1)
    have restSecond : 0 ≤ (rest.map Prod.snd).sum := List.sum_nonneg (by
      simp only [List.mem_map]
      rintro _ ⟨other, member, rfl⟩
      exact (others other member).2)
    simp only [FitsInTurn, List.map_cons, List.sum_cons]
    constructor
    · rintro ⟨inMargin, inGross, fits⟩
      obtain ⟨total, sum⟩ := (ih (sub_nonneg.mpr inMargin) (sub_nonneg.mpr inGross) others).mp fits
      exact ⟨by linarith, by linarith⟩
    · rintro ⟨total, sum⟩
      have inMargin : demand.1 ≤ margin := by linarith
      have inGross : demand.2 ≤ gross := by linarith
      refine ⟨inMargin, inGross, ?_⟩
      exact (ih (sub_nonneg.mpr inMargin) (sub_nonneg.mpr inGross) others).mpr ⟨by linarith, by linarith⟩

section
variable (g : CompleteGraph) (plan : Plan) (materials : List ObservationMaterial)

def executing (entries : List (StepInput × Nat)) : List AssessmentInput :=
  entries.filterMap fun entry =>
    if entry.1.action = .execute then (stepAssessmentInput g plan materials entry).toOption else none

end

/-- The initial margin at the ratio of the direction, rounded up, and the notional. -/
def demand (profile : Profile) (scale : Nat) (input : AssessmentInput) : ℚ × ℚ :=
  ((⌈input.proposedNotional.toRat * (initialRatio profile input.direction).toRat * 10 ^ scale⌉ : ℚ) / 10 ^ scale,
    input.proposedNotional.toRat)

section
variable {g : CompleteGraph} {plan : Plan} {materials : List ObservationMaterial}

theorem stepAssessmentInput_context {entry : StepInput × Nat} {input : AssessmentInput}
    (ok : stepAssessmentInput g plan materials entry = .ok input) :
    input.policy = some g.capitalPolicy ∧ input.state = some g.capitalState ∧ input.binding = g.capitalBinding := by
  simp only [stepAssessmentInput, returns_iff] at ok
  obtain ⟨_, _, _, _, _, _, _, _, _, _, _, _, rfl⟩ := ok
  exact ⟨rfl, rfl, rfl⟩

theorem preflightStep_ok {entry : StepInput × Nat} {result : Option Assessment}
    (ok : preflightStep g plan materials entry = .ok result) :
    entry.1.action ≠ .execute ∧ result = none ∨
      entry.1.action = .execute ∧ ∃ input a, stepAssessmentInput g plan materials entry = .ok input ∧
        assess input = .ok a ∧ a.decision = .admitted ∧ result = some a := by
  by_cases executes : entry.1.action = .execute
  · right
    simp only [preflightStep, executes, ne_eq, not_true_eq_false, if_false, returns_iff] at ok
    obtain ⟨input, read, a, assessed, admitted, rfl⟩ := ok
    exact ⟨executes, input, a, read, assessed, by simpa using admitted, rfl⟩
  · left
    simp only [preflightStep, executes, ne_eq, not_false_eq_true, if_true, pure_ok_iff] at ok
    exact ⟨executes, ok.symm⟩

section
variable {profile : Profile} {policyInput : PolicyInput} (made : newPolicy policyInput = .ok g.capitalPolicy)
  (found : Policy.profileOf (some g.capitalPolicy) g.capitalBinding.profile = some profile) (finite : profile.unlimited = false)
include made found finite

theorem admitted_demand {entry : StepInput × Nat} {input : AssessmentInput} {a : Assessment}
    (read : stepAssessmentInput g plan materials entry = .ok input) (assessed : assess input = .ok a)
    (admitted : a.decision = .admitted) :
    (a.requestedInitialMargin.toRat, a.proposedNotional.toRat) = demand profile g.capitalPolicy.scale input ∧
      0 ≤ (demand profile g.capitalPolicy.scale input).1 ∧ 0 ≤ (demand profile g.capitalPolicy.scale input).2 := by
  obtain ⟨policy, state, binding⟩ := stepAssessmentInput_context read
  obtain ⟨weighedPolicy, weighedState, valid, rfl⟩ := assess_finite assessed (by rw [policy, binding, found]) finite
  obtain ⟨samePolicy, sameState⟩ := validateAssessmentInput_found valid
  obtain rfl := Option.some.inj (policy.symm.trans samePolicy)
  have positive := validateAssessmentInput_positive valid
  have ratio : 0 ≤ (initialRatio profile input.direction).toRat := by
    have amounts := newPolicy_nonneg made found
    unfold initialRatio
    split
    · exact amounts _ (by simp [Profile.amounts])
    · exact amounts _ (by simp [Profile.amounts])
    · simp
  have requested := finiteAssessment_requested (show (finiteAssessment input _ weighedState profile).decision = .admitted
    from admitted)
  have notional := @finiteAssessment_notional input g.capitalPolicy weighedState profile
  refine ⟨?_, ?_, positive.le⟩
  · change ((finiteAssessment input g.capitalPolicy weighedState profile).requestedInitialMargin.toRat,
      (finiteAssessment input g.capitalPolicy weighedState profile).proposedNotional.toRat) = _
    rw [requested, notional, demand, Prod.mk.injEq, eq_div_iff (by positivity), roundCapitalUp, Decimal.toRat_roundCeil,
      Decimal.toRat_mul]
    exact ⟨rfl, rfl⟩
  · apply div_nonneg _ (by positivity)
    exact_mod_cast Int.ceil_nonneg (by positivity)

/-- The assessments list what each executing step demands. -/
theorem preflight_demands {entries : List (StepInput × Nat)} {assessments : List (Option Assessment)}
    (ok : entries.mapM (preflightStep g plan materials) = .ok assessments) :
    (assessments.reduceOption.map fun a => (a.requestedInitialMargin.toRat, a.proposedNotional.toRat)) =
        (executing g plan materials entries).map (demand profile g.capitalPolicy.scale) ∧
      ∀ d ∈ (executing g plan materials entries).map (demand profile g.capitalPolicy.scale), 0 ≤ d.1 ∧ 0 ≤ d.2 := by
  induction entries generalizing assessments with
  | nil =>
    cases ok
    exact ⟨rfl, List.forall_mem_nil _⟩
  | cons entry rest ih =>
    simp only [List.mapM_cons, returns_iff] at ok
    obtain ⟨result, first, others, more, rfl⟩ := ok
    obtain ⟨same, nonneg⟩ := ih more
    rcases preflightStep_ok first with ⟨skipped, rfl⟩ | ⟨executes, input, a, read, assessed, admitted, rfl⟩
    · rw [List.reduceOption_cons_of_none, executing, List.filterMap_cons_none (by rw [if_neg skipped])]
      exact ⟨same, nonneg⟩
    · obtain ⟨here, margin, notional⟩ := admitted_demand made found finite read assessed admitted
      have listed : executing g plan materials (entry :: rest) = input :: executing g plan materials rest := by
        rw [executing, List.filterMap_cons_some (b := input)]
        · rfl
        · rw [if_pos executes, read]
          rfl
      rw [listed, List.reduceOption_cons_of_some, List.map_cons, List.map_cons, same, here]
      exact ⟨rfl, List.forall_mem_cons.mpr ⟨⟨margin, notional⟩, nonneg⟩⟩

end

end

theorem toRat_nonnegative (value : Decimal) : 0 ≤ (nonnegative value).toRat := by
  unfold nonnegative
  split
  · simp
  · rename_i above
    simpa using above

/-- The steps of an accepted plan fit the headroom together exactly when each of them still
fits what the steps before it leave. The loop only asks whether each fits by itself. -/
theorem admission_joint_iff {g : CompleteGraph} {plan : Plan} {materials : List ObservationMaterial} {profile : Profile}
    {policyInput : PolicyInput} {steps : List StepInput} {assessments : List (Option Assessment)}
    (made : newPolicy policyInput = .ok g.capitalPolicy)
    (found : Policy.profileOf (some g.capitalPolicy) g.capitalBinding.profile = some profile)
    (finite : profile.unlimited = false) (accepted : preflightCapital g plan steps materials = .ok assessments) :
    ((assessments.reduceOption.map fun a => a.requestedInitialMargin.toRat).sum ≤
        (marginHeadroom profile g.capitalPolicy.scale g.capitalState).toRat ∧
      (assessments.reduceOption.map fun a => a.proposedNotional.toRat).sum ≤
        (exposureHeadroom profile g.capitalState).toRat) ↔
      FitsInTurn (marginHeadroom profile g.capitalPolicy.scale g.capitalState).toRat
        (exposureHeadroom profile g.capitalState).toRat
        ((executing g plan materials steps.zipIdx).map (demand profile g.capitalPolicy.scale)) := by
  obtain ⟨same, nonneg⟩ := preflight_demands made found finite accepted
  have someMargin : 0 ≤ (marginHeadroom profile g.capitalPolicy.scale g.capitalState).toRat := toRat_nonnegative _
  have someGross : 0 ≤ (exposureHeadroom profile g.capitalState).toRat := toRat_nonnegative _
  rw [fitsInTurn_iff someMargin someGross nonneg, ← same, List.map_map, List.map_map]
  rfl

/-- The digest of an empty object stands for every content here. -/
def sampleDigest : String := "44136fa355b3678a1146ad16f7e8649e94fb4fc21fe77e8310c060f61caaff8a"

def sampleInstrument : Instrument := { Ledger.sampleInstrument with primaryVenue := "alpaca" }

def sampleSnapshot (id : Uuid) (observationID : String) : MarketData.QuoteSnapshot :=
  { MarketData.sampleQuote id observationID with
    depth := [⟨.bid, 0, .newFromInt 9, .newFromInt 1000⟩, ⟨.ask, 0, .newFromInt 10, .newFromInt 1000⟩,
      ⟨.ask, 1, .newFromInt 11, .newFromInt 9000⟩] }

def sampleMaterial (id : Uuid) (observationID : String) : ObservationMaterial where
  partitionContentSHA256 := sampleDigest
  observationSourceKey := observationID
  observationContentSHA256 := sampleDigest
  availableAt := ⟨5000000, true⟩
  canonicalContent := emptyObject
  snapshot := sampleSnapshot id observationID

def sampleMaterials : List ObservationMaterial := [sampleMaterial (Uuid.ofByte 63) "q1", sampleMaterial (Uuid.ofByte 64) "q2"]

def samplePurchase : IntentSpecInput where
  instrumentID := Uuid.ofByte 2
  venueContractID := Uuid.ofByte 3
  side := "buy"
  orderType := "market"
  timeInForce := "ioc"
  quantity := "6000"
  limitPrice := none
  stopPrice := none
  decisionAt := ⟨6000000, true⟩
  routeAt := ⟨7000000, true⟩

def sampleStep (observationID : String) : StepInput where
  partitionContentSHA256 := sampleDigest
  observationSourceKey := observationID
  observationContentSHA256 := sampleDigest
  availableAt := ⟨5000000, true⟩
  decision := emptyObject
  action := .execute
  rejectionCode := ""
  intent := some samplePurchase

def samplePlanInput : PlanInput where
  experimentID := Uuid.ofByte 60
  programID := Uuid.ofByte 61
  accountID := Uuid.ofByte 1
  capitalStateID := Capital.sampleState.id
  capitalStateSHA256 := "30b676df30919b18709aa61230b948e9afcb8bb820f51ee3052a601f89195b79"
  capitalProjectionCheckpointID := Uuid.ofByte 20
  capitalStateBytes := sampleDraft.canonical.marshal
  manifestID := Uuid.ofByte 62
  manifestSHA256 := sampleDigest
  evaluationStart := ⟨1000000, true⟩
  evaluationEnd := ⟨9000000, true⟩
  seed := 7
  mode := .paperScored
  steps := [sampleStep "q1", sampleStep "q2"]

def sampleVenuePolicy : Simulation.Policy where
  schema := Simulation.policySchemaV1
  assets := [Simulation.freeAsset]
  canonicalBytes :=
    Simulation.CanonicalPolicy.marshal ⟨Simulation.policySchemaV1, [Simulation.canonicalAsset Simulation.freeAsset]⟩
  digest := "4d0f1f23382dcdab42a6a0eb7adbef4b735a1a587eecc2b6619967582dd8628d"
  version := "simulation-policy-v1@sha256:4d0f1f23382dcdab42a6a0eb7adbef4b735a1a587eecc2b6619967582dd8628d"
  artifactID := ⟨[192, 8, 124, 163, 168, 68, 157, 123, 72, 134, 218, 124, 88, 238, 114, 255], rfl⟩

def sampleGraph : CompleteGraph where
  experiment :=
    { id := Uuid.ofByte 60, state := experimentDeclared, versionID := Uuid.ofByte 65, accountID := Uuid.ofByte 1
      capitalBindingID := sampleBinding.id, manifestID := Uuid.ofByte 62, qualityResultID := Uuid.ofByte 66
      simulationPolicyVersion := sampleVenuePolicy.version, capitalPolicyVersion := samplePolicy.version, mode := .paperScored
      evaluationStart := ⟨1000000, true⟩, evaluationEnd := ⟨9000000, true⟩, seed := 7, datasetQuarantined := false }
  version :=
    { id := Uuid.ofByte 65, digest := sampleDigest, compilerKind := "go", compilerVersion := "1"
      sourceCommit := "0123456789abcdef0123456789abcdef01234567"
      sourceTreeSHA256 := sampleDigest, decisionContract := "v1", requiredDatasetKinds := [.quotes] }
  manifest :=
    { id := Uuid.ofByte 62, digest := sampleDigest
      partitions := [⟨.quotes, sampleDigest, [⟨"q1", "0001-01-01T00:00:00.005000Z", sampleDigest⟩,
        ⟨"q2", "0001-01-01T00:00:00.005000Z", sampleDigest⟩]⟩] }
  quality := ⟨Uuid.ofByte 66, Uuid.ofByte 62, false⟩
  account := Ledger.sampleAccount
  capitalBinding := sampleBinding
  capitalPolicy := samplePolicy
  capitalState := sampleState
  simulationPolicy := sampleVenuePolicy
  instruments := fun id => if id = Uuid.ofByte 2 then some sampleInstrument else none
  venueContracts := fun id => if id = Uuid.ofByte 3 then some Ledger.sampleContract else none
  observations := sampleMaterials

/-- The second purchase cut to what the first one leaves. -/
def smallerPlanInput : PlanInput :=
  { samplePlanInput with
    steps := [sampleStep "q1", { sampleStep "q2" with intent := some { samplePurchase with quantity := "3000" } }] }

def admitted (input : PlanInput) : Outcome (Plan × List (Option Assessment)) := do
  let plan ← newPlan input
  pure (plan, ← preflightCapital sampleGraph plan plan.steps sampleMaterials)

theorem smallerPlan_evaluated : ((admitted smallerPlanInput).toOption.any fun (plan, _) =>
    (executing sampleGraph plan sampleMaterials plan.steps.zipIdx).map (demand (reviewedProfiles.getD 0 zeroProfile) 12) ==
      [(60000, 60000), (30000, 30000)]) = true := by
  decide +kernel

theorem purchases_fit : ∃ plan assessments, newPlan smallerPlanInput = .ok plan ∧
    preflightCapital sampleGraph plan plan.steps sampleMaterials = .ok assessments ∧
    (executing sampleGraph plan sampleMaterials plan.steps.zipIdx).length = 2 ∧
    (assessments.reduceOption.map fun a => a.requestedInitialMargin.toRat).sum ≤
      (marginHeadroom (reviewedProfiles.getD 0 zeroProfile) 12 sampleState).toRat ∧
    (assessments.reduceOption.map fun a => a.proposedNotional.toRat).sum ≤
      (exposureHeadroom (reviewedProfiles.getD 0 zeroProfile) sampleState).toRat := by
  obtain ⟨⟨plan, assessments⟩, ok, demands⟩ := ok_of_evaluated smallerPlan_evaluated
  simp only [admitted, returns_iff, Prod.mk.injEq] at ok
  obtain ⟨plan, made, assessments, accepted, rfl, rfl⟩ := ok
  rw [beq_iff_eq] at demands
  have fits : FitsInTurn (marginHeadroom (reviewedProfiles.getD 0 zeroProfile) 12 sampleState).toRat
      (exposureHeadroom (reviewedProfiles.getD 0 zeroProfile) sampleState).toRat [(60000, 60000), (30000, 30000)] :=
    ⟨by decide +kernel, by decide +kernel, by decide +kernel, by decide +kernel, trivial⟩
  have two := congrArg List.length demands
  rw [List.length_map] at two
  exact ⟨plan, assessments, made, accepted, two,
    (admission_joint_iff samplePolicy_new rfl rfl accepted).mpr (demands ▸ fits)⟩

theorem samplePlan_evaluated : ((admitted samplePlanInput).toOption.any fun (plan, assessments) =>
    (plan.steps.all fun step => step.intent.any fun intent => intent.side == "buy") &&
      (assessments.reduceOption.map fun a => a.requestedInitialMargin.toRat).sum == 120000 &&
      (assessments.reduceOption.map fun a => a.proposedNotional.toRat).sum == 120000) = true := by
  decide +kernel

/-- Both are admitted, though the account cannot hold both. -/
theorem purchases_exceed_headroom : ∃ plan assessments,
    newPlan samplePlanInput = .ok plan ∧
      preflightCapital sampleGraph plan plan.steps sampleMaterials = .ok assessments ∧
      (∀ step ∈ plan.steps, ∃ intent, step.intent = some intent ∧ intent.side = "buy") ∧
      (marginHeadroom (reviewedProfiles.getD 0 zeroProfile) 12 sampleState).toRat = 99970 ∧
      (assessments.reduceOption.map fun a => a.requestedInitialMargin.toRat).sum = 120000 ∧
      (exposureHeadroom (reviewedProfiles.getD 0 zeroProfile) sampleState).toRat = 99970 ∧
      (assessments.reduceOption.map fun a => a.proposedNotional.toRat).sum = 120000 := by
  obtain ⟨⟨plan, assessments⟩, ok, seen⟩ := ok_of_evaluated samplePlan_evaluated
  simp only [admitted, returns_iff, Prod.mk.injEq] at ok
  obtain ⟨plan, made, assessments, accepted, rfl, rfl⟩ := ok
  simp only [Bool.and_eq_true, beq_iff_eq, List.all_eq_true, Option.any_eq_true] at seen
  obtain ⟨⟨buys, margins⟩, notionals⟩ := seen
  exact ⟨plan, assessments, made, accepted, buys, by decide +kernel, margins, by decide +kernel, notionals⟩

end Augr.Experimentrun
