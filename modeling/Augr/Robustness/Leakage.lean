import Augr.Robustness.Separation

/-! Which gaps an accepted assessment keeps.

Gaps that do not fit are shown by two reports of one day each, eight thousand years apart. The training windows and the
seconds of the policy are left open. -/

set_option autoImplicit false

namespace Augr.Robustness

open Foundation
open Evaluation (Report ReportInput ObservationValues newReport)
open Experimentrun (ExperimentMode Plan PlanInput Result ResultInput newPlan newResult canonicalText formatTime)

def emptyObject : Bytes := [0x7B, 0x7D]

def emptyDigest : String := "44136fa355b3678a1146ad16f7e8649e94fb4fc21fe77e8310c060f61caaff8a"

section Reports

variable (scored : Bool)

def sampleMode : ExperimentMode := if scored then .paperScored else .paperStress

def samplePlanInput : PlanInput where
  experimentID := Uuid.ofByte 1
  programID := Uuid.ofByte 2
  accountID := Uuid.ofByte 3
  capitalStateID := deterministicUUID "capital-state" [emptyDigest]
  capitalStateSHA256 := emptyDigest
  capitalProjectionCheckpointID := Uuid.ofByte 4
  capitalStateBytes := emptyObject
  manifestID := Uuid.ofByte 5
  manifestSHA256 := emptyDigest
  evaluationStart := ⟨1000000, true⟩
  evaluationEnd := ⟨9000000, true⟩
  seed := 7
  mode := sampleMode scored
  steps := [⟨emptyDigest, "q", emptyDigest, ⟨5000000, true⟩, emptyObject, .noop, "", none⟩]

def samplePlan : Plan := returned (newPlan (samplePlanInput scored)) (by cases scored <;> decide +kernel)

def sampleResultInput : ResultInput where
  plan := some (samplePlan scored)
  accountID := Uuid.ofByte 3
  qualityResultID := Uuid.ofByte 6
  simulationPolicyVersion := "simulation-policy-v1@sha256:" ++ emptyDigest
  capitalPolicyVersion := "capital-margin-policy-v1@sha256:" ++ emptyDigest
  outcomes := [⟨.noop, emptyDigest, Uuid.nil, Uuid.nil, [], [], "0", "0", "", ""⟩]

def sampleResult : Result := returned (newResult (sampleResultInput scored)) (by cases scored <;> decide +kernel)

def dailyPolicy : Evaluation.Policy := returned (Evaluation.newPolicy
  ⟨"v1", .daily, 365, "simple", "explicit_per_period", "fifo", "first_equity_at_or_above_prior_peak", 6⟩) (by decide +kernel)

def observed (equity : String) : ObservationValues where
  equity := equity
  benchmarkValue := "1"
  cashReturn := "0"
  grossExposure := "0"
  netExposure := "0"
  largestPositionWeight := "0"
  cumulativeOwnershipCost := "0"
  cumulativeTurnover := "0"
  cumulativeModeledSlippage := "0"
  cumulativeObservedSlippage := none
  evidenceID := Uuid.ofByte 7
  evidenceSHA256 := emptyDigest

inductive Day where
  | early
  | late

/-- The first of January of the year 1000, and of the year 9000. -/
def Day.start : Day → Int
  | .early => 31525372800000000000
  | .late => 283980988800000000000

def Day.finish (day : Day) : Int := day.start + 86400000000000

/-- The reports of a day differ in the lots left open. -/
def Day.input (day : Day) (lots : Nat) : ReportInput where
  result := some (sampleResult scored)
  policy := some dailyPolicy
  evaluationStart := ⟨day.start, true⟩
  evaluationEnd := ⟨day.finish, true⟩
  openLotCount := lots
  execution := ⟨"0", "0", "0", "0"⟩
  observations := [⟨observed "100", ⟨day.start, true⟩⟩, ⟨observed "101", ⟨day.finish, true⟩⟩]
  closedTrades := []

end Reports

theorem Day.stressed_accepted (day : Day) : (newReport Exact (day.input false 0)).toOption.isSome = true := by
  cases day <;> decide +kernel

/-- Every gap is tried on reports in stress mode. -/
def Day.stressed (day : Day) : Report := returned _ day.stressed_accepted

theorem Day.stressed_facts (day : Day) : day.stressed.mode = .paperStress ∧
    day.stressed.evaluationStart = ⟨day.start, true⟩ ∧ day.stressed.evaluationEnd = ⟨day.finish, true⟩ ∧
    (periodReturns day.stressed).toOption = some [Exact.finite (1 / 100)] := by
  cases day <;> decide +kernel

theorem stressed_ids_differ : Day.early.stressed.id ≠ Day.late.stressed.id := by decide +kernel

section Gaps

variable (purge embargo : Int64)

def gapPolicyInput : PolicyInput where
  version := "v1"
  foldCount := 2
  purgeSeconds := purge
  embargoSeconds := embargo
  bootstrapAlgorithm := "xorshift64star-iid-percentile-v1"
  bootstrapSeed := 1
  bootstrapIterations := 100
  confidenceLevel := "0.9"
  familyWiseAlpha := "0.05"
  maxLargestPositiveShare := "1"
  maxTopDecilePositiveShare := "1"
  maxPerturbationDegradation := "0"
  requiredPerturbations := ["costs"]
  decimalScale := 6

def gapPolicy : Policy where
  canonical := gapPolicyInput purge embargo
  bytes := (gapPolicyInput purge embargo).marshal
  digest := sha256Hex (gapPolicyInput purge embargo).marshal
  id := deterministicUUID "robustness-policy"
    [policySchemaV1 ++ "@sha256:" ++ sha256Hex (gapPolicyInput purge embargo).marshal]

variable {purge embargo}

theorem gapPolicy_made (purged : 0 ≤ purge.toInt) (embargoed : 0 ≤ embargo.toInt) :
    newPolicy (gapPolicyInput purge embargo) = .ok (gapPolicy purge embargo) := by
  have rest : (gapPolicyInput 0 0).invalid = false := by decide
  have valid : (gapPolicyInput purge embargo).invalid = false := by
    simp only [PolicyInput.invalid, Bool.or_eq_false_iff, decide_eq_false_iff_not, not_lt] at rest ⊢
    simp only [gapPolicyInput] at rest ⊢
    simpa [purged, embargoed] using rest
  have tokens : (["costs"].any (fun value => !canonicalToken value) || repeats ["costs"]) = false := by decide
  simp only [newPolicy, returns_iff]
  exact ⟨valid, tokens, rfl⟩

end Gaps

def version : Uuid := Uuid.ofByte 8

def loneFamilyInput : FamilyInput := ⟨"family", emptyDigest, [version]⟩

def loneFamily : Family where
  canonical := loneFamilyInput
  bytes := loneFamilyInput.marshal
  digest := sha256Hex loneFamilyInput.marshal
  id := deterministicUUID "robustness-search-family"
    [familySchemaV1 ++ "@sha256:" ++ sha256Hex loneFamilyInput.marshal]

theorem loneFamily_made : newFamily loneFamilyInput = .ok loneFamily := rfl

def daily : FoldReturns Exact := ⟨[.finite (1 / 100)], [("costs", [.finite (1 / 100)])]⟩

theorem daily_assessed : ∃ calculation statistics gates,
    assessReturns Exact (gapPolicy 0 0) version 2 [daily, daily] = .ok (calculation, statistics, gates) ∧
      (adjustedAt (holmAdjusted .zero [⟨0, version, calculation.rawProbability⟩]) 0).greaterThan ⟨5, -2⟩ = false ∧
      ∀ gate ∈ gates, gate.state = .pass := by
  have evaluated : (assessReturns Exact (gapPolicy 0 0) version 2 [daily, daily]).toOption.any (fun assessed =>
      !(adjustedAt (holmAdjusted .zero [⟨0, version, assessed.1.rawProbability⟩]) 0).greaterThan ⟨5, -2⟩ &&
        assessed.2.2.all fun gate => gate.state == .pass) = true := by decide +kernel
  obtain ⟨⟨calculation, statistics, gates⟩, made, holds⟩ := ok_of_evaluated evaluated
  simp only [Bool.and_eq_true, Bool.not_eq_true', List.all_eq_true, beq_iff_eq] at holds
  exact ⟨calculation, statistics, gates, made, holds.1, holds.2⟩

/-! ## Two folds

Each fold is tested by one report, which is also its perturbation. -/

structure Training where
  (start finish : Instant)

def costScenario (report : Report) : ScenarioInput := ⟨"costs", "double", some report⟩

def testFoldInput (report : Report) (training : Training) : FoldInput :=
  ⟨training.start, training.finish, some report, [costScenario report]⟩

def testFold (report : Report) (training : Training) : Fold :=
  ⟨training.start, training.finish, report, [costScenario report]⟩

def costEvidence (report : Report) : ScenarioEvidence := ⟨"costs", "double", report.id, report.digest⟩

def testEvidence (index : Nat) (report : Report) (training : Training) : FoldEvidence :=
  { sequence := index
    trainStart := formatTime training.start
    trainEnd := formatTime training.finish
    testStart := formatTime report.evaluationStart
    testEnd := formatTime report.evaluationEnd
    baseline := ⟨"baseline", "none", report.id, report.digest⟩
    perturbations := [costEvidence report] }

section Accepted

variable {purge embargo : Int64} {mode : ExperimentMode}

theorem costScenario_added {report : Report} (sameMode : report.mode = mode) (training : Training) (sources : List Report) :
    addScenarios mode (testFold report training) sources [(costScenario report, "costs")] =
      .ok ([costEvidence report], sources ++ [report]) := by
  have same : scenarioInvalid mode (testFold report training) report = false := by
    simp [scenarioInvalid, testFold, Fold.testStart, Fold.testEnd, sameMode]
  have text : canonicalText "double" 128 = true := by decide
  simp only [addScenarios, addScenario, returns_iff]
  exact ⟨_, ⟨by simp [costScenario, text], _, rfl, same, rfl⟩, _, rfl, rfl⟩

theorem testFold_added {report : Report} {training : Training} {sources : List Report} (prior : Option Fold) (index : Nat)
    (sameMode : report.mode = mode)
    (valid : foldInvalid (gapPolicy purge embargo) mode (testFold report training) = false)
    (follows : (prior.any fun last => followsBadly (gapPolicy purge embargo) last (testFold report training)) = false)
    (fresh : ∀ source ∈ sources, source.id ≠ report.id) :
    addFold (gapPolicy purge embargo) mode prior index sources (testFold report training) =
      .ok (testEvidence index report training, sources ++ [report, report]) := by
  have unknown : latest (·.id) sources report.id = none := (latest_eq_none _).mpr fresh
  have apart : conflicts sources report = false := by
    rw [conflicts, unknown]
    rfl
  have twice : sources ++ [report, report] = sources ++ [report] ++ [report] := by simp
  simp only [addFold, returns_iff, twice]
  exact ⟨valid, follows, apart, rfl, _, costScenario_added sameMode training (sources ++ [report]), rfl⟩

variable {early late : Report} {first second : Training}

def gapCandidate (early late : Report) (first second : Training) : CandidateInput :=
  ⟨version, [testFoldInput early first, testFoldInput late second]⟩

def gapInput (purge embargo : Int64) (mode : ExperimentMode) (early late : Report) (first second : Training) :
    AssessmentInput :=
  ⟨some loneFamily, some (gapPolicy purge embargo), mode, [gapCandidate early late first second]⟩

theorem gapInput_cited :
    (gapInput purge embargo mode early late first second).cited = [early, early, late, late] := rfl

theorem eq_of_gapInput_cites {report : Report}
    (cited : report ∈ (gapInput purge embargo mode early late first second).cited) : report = early ∨ report = late := by
  simpa [gapInput_cited] using cited

def gapChecked (early late : Report) (first second : Training) : CandidateEvidence :=
  ⟨0, version, [testEvidence 0 early first, testEvidence 1 late second], [], []⟩

theorem gapCandidate_ordered (later : early.evaluationStart.nanos < late.evaluationStart.nanos) :
    (gapCandidate early late first second).ordered = [testFold early first, testFold late second] := by
  have ascending : Ascending (fun (fold : Fold) => fold.testStart.nanos) [testFold early first, testFold late second] :=
    .cons_cons later (.singleton _)
  exact ascending.sortedBy_eq

theorem testEvidence_returns {sources : List Report} {report : Report} (index : Nat) (training : Training)
    (stored : latest (·.id) sources report.id = some report)
    (returns : periodReturns report = .ok [Exact.finite (1 / 100)]) :
    foldReturns sources (testEvidence index report training) = .ok daily := by
  have cited : citedReturns sources report.id = .ok [Exact.finite (1 / 100)] := by
    rw [citedReturns, stored]
    exact returns
  have perturbed : [costEvidence report].mapM (scenarioReturns sources) = .ok [("costs", [Exact.finite (1 / 100)])] := by
    simp only [List.mapM_cons, List.mapM_nil, scenarioReturns, costEvidence, cited, ok_bind]
    rfl
  simp only [foldReturns, testEvidence, cited, perturbed, ok_bind]
  rfl

theorem applyAdjusted_passes {policy : Policy} {alpha adjusted : Decimal} {candidate : CandidateEvidence}
    (small : adjusted.greaterThan alpha = false) (passes : ∀ gate ∈ candidate.gates, gate.state = .pass) :
    ∀ gate ∈ (applyAdjusted policy alpha adjusted candidate).gates, gate.state = .pass := by
  have decided : ∀ gate ∈ candidate.gates ++ [Gate.decided "multiple_testing_adjustment" (!adjusted.greaterThan alpha)
      policy.canonical.familyWiseAlpha (adjusted.round policy.canonical.decimalScale).toText
      "adjusted_probability_exceeds_family_wise_alpha"
      "holm_bonferroni_adjusted_probability_within_family_wise_alpha"], gate.state = .pass := by
    refine forall_mem_concat passes ?_
    rw [Gate.decided, ofBool_eq_pass, small]
    rfl
  refine forall_mem_concat decided ?_
  rw [overallGate, ofBool_eq_pass, List.all_eq_true]
  exact fun other among => beq_iff_eq.mpr (decided other among)

theorem gapChecked_calculated (differ : early.id ≠ late.id)
    (earlyReturns : periodReturns early = .ok [Exact.finite (1 / 100)])
    (lateReturns : periodReturns late = .ok [Exact.finite (1 / 100)]) :
    ∃ candidate, calculate Exact (gapPolicy purge embargo) [gapChecked early late first second] [early, early, late, late] =
        .ok [candidate] ∧ candidate.versionID = version ∧
      candidate.folds = (gapChecked early late first second).folds ∧ ∀ gate ∈ candidate.gates, gate.state = .pass := by
  obtain ⟨calculation, statistics, gates, assessed, small, passes⟩ := daily_assessed
  have first' : foldReturns [early, early, late, late] (testEvidence 0 early first) = .ok daily :=
    testEvidence_returns 0 first (by simp [latest, differ.symm]) earlyReturns
  have second' : foldReturns [early, early, late, late] (testEvidence 1 late second) = .ok daily :=
    testEvidence_returns 1 second (by simp [latest]) lateReturns
  have rows : (gapChecked early late first second).folds.mapM (foldReturns [early, early, late, late]) = .ok [daily, daily] := by
    simp only [gapChecked, List.mapM_cons, List.mapM_nil, first', second', ok_bind]
    rfl
  have one : calculateCandidate Exact (gapPolicy purge embargo) [early, early, late, late] (gapChecked early late first second) =
      .ok (calculation, { gapChecked early late first second with statistics := statistics, gates := gates }) := by
    have given : assessReturns Exact (gapPolicy purge embargo) (gapChecked early late first second).versionID
        (gapChecked early late first second).folds.length [daily, daily] = .ok (calculation, statistics, gates) := assessed
    simp only [calculateCandidate, rows, ok_bind, given]
    rfl
  have alpha : Experimentrun.requireFromString (gapPolicy purge embargo).canonical.familyWiseAlpha = .ok ⟨5, -2⟩ :=
    ok_of_toOption (by simp only [gapPolicy, gapPolicyInput]; decide)
  refine ⟨applyAdjusted (gapPolicy purge embargo) ⟨5, -2⟩
    (adjustedAt (holmAdjusted .zero [⟨0, version, calculation.rawProbability⟩]) 0)
    { gapChecked early late first second with statistics := statistics, gates := gates }, ?_, rfl, rfl,
    applyAdjusted_passes small passes⟩
  simp only [calculate, List.mapM_cons, List.mapM_nil, one, ok_bind, applyHolm, pure_bind, alpha]
  rfl

variable (earlyMode : early.mode = mode) (lateMode : late.mode = mode) (differ : early.id ≠ late.id)
    (later : early.evaluationStart.nanos < late.evaluationStart.nanos)
    (earlyValid : foldInvalid (gapPolicy purge embargo) mode (testFold early first) = false)
    (lateValid : foldInvalid (gapPolicy purge embargo) mode (testFold late second) = false)
    (follows : followsBadly (gapPolicy purge embargo) (testFold early first) (testFold late second) = false)
include earlyMode lateMode differ later earlyValid lateValid follows

theorem gapInput_checked :
    canonicalCandidates loneFamily (gapPolicy purge embargo) mode [gapCandidate early late first second] =
      .ok ([gapChecked early late first second], [early, early, late, late]) := by
  have fresh : ∀ source ∈ [early, early], source.id ≠ late.id := by simpa using differ
  have known : ∀ source ∈ ([] : List Report), source.id ≠ early.id := by simp
  have begins := testFold_added none 0 earlyMode earlyValid rfl known
  have ends := testFold_added (some (testFold early first)) 1 lateMode lateValid (by simpa using follows) fresh
  have ordered : sortFolds [testFold early first, testFold late second] = [testFold early first, testFold late second] :=
    gapCandidate_ordered later
  have added : addCandidate (gapPolicy purge embargo) mode 0 [] (gapCandidate early late first second, version) =
      .ok (gapChecked early late first second, [early, early, late, late]) := by
    simp only [addCandidate, returns_iff]
    refine ⟨rfl, [testFold early first, testFold late second], rfl, ?_⟩
    simp only [ordered, addFolds, returns_iff]
    exact ⟨_, ⟨_, begins, _, ⟨_, ends, _, rfl, rfl⟩, rfl⟩, rfl⟩
  have entries : (sortCandidates [gapCandidate early late first second]).zip loneFamily.canonical.candidateVersionIDs =
      [(gapCandidate early late first second, version)] := rfl
  simp only [canonicalCandidates, entries, addCandidates, returns_iff]
  exact ⟨rfl, _, added, _, rfl, rfl⟩

theorem gapInput_accepted (known : mode = .paperScored ∨ mode = .paperStress)
    (earlyReturns : periodReturns early = .ok [Exact.finite (1 / 100)])
    (lateReturns : periodReturns late = .ok [Exact.finite (1 / 100)]) :
    ∃ assessment candidate, newAssessment Exact (gapInput purge embargo mode early late first second) = .ok assessment ∧
      assessment.canonical.mode = mode ∧ assessment.canonical.candidates = [candidate] ∧ candidate.versionID = version ∧
      candidate.folds = (gapChecked early late first second).folds ∧ ∀ gate ∈ candidate.gates, gate.state = .pass := by
  have checked := gapInput_checked earlyMode lateMode differ later earlyValid lateValid follows
  obtain ⟨candidate, calculated, versioned, folds, passes⟩ :=
    @gapChecked_calculated purge embargo early late first second differ earlyReturns lateReturns
  have recognized : (mode != .paperScored && mode != .paperStress) = false := by
    rcases known with rfl | rfl <;> rfl
  refine ⟨.ofCanonical ⟨loneFamily.id, loneFamily.digest, (gapPolicy purge embargo).id, (gapPolicy purge embargo).digest,
    mode, [candidate]⟩, candidate, ?_, rfl, rfl, versioned, folds, passes⟩
  simp only [newAssessment, returns_iff]
  exact ⟨_, rfl, _, rfl, recognized, _, checked, _, calculated, rfl⟩

end Accepted

theorem secondsDuration_bounds (seconds : Int64) :
    ∃ product : Int, secondsDuration seconds = product ∧ -9223372036854775808 ≤ product ∧ product ≤ 9223372036854775807 :=
  ⟨_, rfl, Int64.le_toInt (seconds * 1000000000), Int.le_of_lt_add_one (Int64.toInt_lt (seconds * 1000000000))⟩

/-- Training that ends as late as the checked product of the purge allows. -/
def purgedTraining (start : Int) (purge : Int64) (day : Day) : Training :=
  ⟨⟨start, true⟩, Instant.truncate ⟨day.start - secondsDuration purge, true⟩⟩

/-- The first microsecond after the checked product of the embargo. -/
def embargoedStart (embargo : Int64) : Int :=
  (Instant.truncate ⟨Day.early.finish + secondsDuration embargo + 999, true⟩).nanos

def earlyTraining (purge : Int64) : Training := purgedTraining 1000 purge .early

def lateTraining (purge embargo : Int64) : Training := purgedTraining (embargoedStart embargo) purge .late

theorem purgedTraining_valid {day : Day} {start : Int} (purge embargo : Int64) (positive : 0 < start)
    (whole : start % 1000 = 0) (long : start + 9223372036854777000 < day.start) :
    foldInvalid (gapPolicy purge embargo) .paperStress (testFold day.stressed (purgedTraining start purge day)) = false := by
  obtain ⟨product, isProduct, low, high⟩ := secondsDuration_bounds purge
  have sameMode := (Day.stressed_facts day).1
  simp only [foldInvalid, testFold, purgedTraining, Fold.testStart, (Day.stressed_facts day).2.1, sameMode,
    Instant.isCanonical, Instant.isZero, Instant.equal, Instant.truncate, Instant.before, Instant.after, Instant.add,
    gapPolicy, gapPolicyInput, isProduct]
  simp
  omega

theorem lateTraining_valid (purge embargo : Int64) :
    foldInvalid (gapPolicy purge embargo) .paperStress (testFold Day.late.stressed (lateTraining purge embargo)) = false := by
  obtain ⟨gap, isGap, least, most⟩ := secondsDuration_bounds embargo
  apply purgedTraining_valid <;> simp only [embargoedStart, Instant.truncate, Day.start, Day.finish, isGap] <;> omega

theorem lateTraining_follows (purge embargo : Int64) :
    followsBadly (gapPolicy purge embargo) (testFold Day.early.stressed (earlyTraining purge))
      (testFold Day.late.stressed (lateTraining purge embargo)) = false := by
  obtain ⟨gap, isGap, least, most⟩ := secondsDuration_bounds embargo
  have early := (Day.stressed_facts .early).2.2.1
  have late := (Day.stressed_facts .late).2.1
  simp only [followsBadly, testFold, lateTraining, purgedTraining, embargoedStart, Fold.testStart, Fold.testEnd, early, late,
    Day.start, Day.finish, Instant.truncate, Instant.after, Instant.add, gapPolicy, gapPolicyInput, isGap]
  simp
  omega

def extremeInput (purge embargo : Int64) : AssessmentInput :=
  gapInput purge embargo .paperStress Day.early.stressed Day.late.stressed (earlyTraining purge) (lateTraining purge embargo)

theorem days_ordered : Day.early.stressed.evaluationStart.nanos < Day.late.stressed.evaluationStart.nanos := by
  rw [(Day.stressed_facts .early).2.1, (Day.stressed_facts .late).2.1]
  decide

theorem extremeInput_accepted (purge embargo : Int64) :
    ∃ assessment candidate, newAssessment Exact (extremeInput purge embargo) = .ok assessment ∧
      assessment.canonical.mode = .paperStress ∧ assessment.canonical.candidates = [candidate] ∧
      candidate.versionID = version ∧
      candidate.folds = (gapChecked Day.early.stressed Day.late.stressed (earlyTraining purge)
        (lateTraining purge embargo)).folds ∧ ∀ gate ∈ candidate.gates, gate.state = .pass :=
  gapInput_accepted (Day.stressed_facts .early).1 (Day.stressed_facts .late).1 stressed_ids_differ days_ordered
    (purgedTraining_valid purge embargo (by decide) rfl (by decide)) (lateTraining_valid purge embargo)
    (lateTraining_follows purge embargo) (.inr rfl) (ok_of_toOption (Day.stressed_facts .early).2.2.2)
    (ok_of_toOption (Day.stressed_facts .late).2.2.2)

theorem extremeInput_leaks {purge embargo : Int64} (long : maxSeconds < purge.toInt ∨ maxSeconds < embargo.toInt) :
    ∃ candidate ∈ (extremeInput purge embargo).candidates,
      ¬ candidate.ordered.Pairwise (Fold.ApartFrom purge.toInt embargo.toInt) := by
  refine ⟨_, List.mem_singleton.mpr rfl, ?_⟩
  rw [gapCandidate_ordered days_ordered]
  intro apart
  have pair := (List.pairwise_cons.mp apart).1 _ (List.mem_singleton.mpr rfl)
  obtain ⟨product, isProduct, low, high⟩ := secondsDuration_bounds purge
  obtain ⟨gap, isGap, least, most⟩ := secondsDuration_bounds embargo
  have purged := pair.purged
  have embargoed := pair.embargoed
  simp only [testFold, earlyTraining, lateTraining, purgedTraining, embargoedStart, Fold.testStart, Fold.testEnd,
    (Day.stressed_facts .early).2.1, (Day.stressed_facts .early).2.2.1, Day.start, Day.finish, Instant.truncate, isProduct, isGap]
    at purged embargoed
  simp only [maxSeconds] at long
  omega

/-- What an assessment is made of was built by its constructors. -/
structure AssessmentInput.Issued (F : Type) [Float64 F] [Elementary F] (input : AssessmentInput) : Prop where
  reports : ∀ report ∈ input.cited, IsIssued F report
  family : ∀ family, input.family = some family → ∃ given, newFamily given = .ok family

theorem extremeInput_issued (purge embargo : Int64) : (extremeInput purge embargo).Issued Exact where
  reports report cited := by
    rcases eq_of_gapInput_cites cited with same | same
    · rw [same]
      exact ⟨_, ok_returned ..⟩
    · rw [same]
      exact ⟨_, ok_returned ..⟩
  family family given := by
    cases Option.some.inj given
    exact ⟨_, loneFamily_made⟩

/-- Under a policy with these seconds, any two folds of any accepted candidate keep the gaps. -/
def KeepsGaps (purge embargo : Int64) : Prop :=
  ∀ (F : Type) [Float64 F] [Elementary F] (policyInput : PolicyInput) (policy : Policy) (input : AssessmentInput)
    (assessment : Assessment), newPolicy policyInput = .ok policy → policyInput.purgeSeconds = purge →
      policyInput.embargoSeconds = embargo → input.policy = some policy → input.Issued F →
      newAssessment F input = .ok assessment →
      ∀ candidate ∈ input.candidates, candidate.ordered.Pairwise (Fold.ApartFrom purge.toInt embargo.toInt)

theorem newPolicy_gaps {input : PolicyInput} {policy : Policy} (ok : newPolicy input = .ok policy) :
    policy.canonical.purgeSeconds = input.purgeSeconds ∧ policy.canonical.embargoSeconds = input.embargoSeconds := by
  simp only [newPolicy, returns_iff] at ok
  obtain ⟨_, _, built⟩ := ok
  cases built
  exact ⟨rfl, rfl⟩

theorem ordered_windows {F : Type} [Float64 F] [Elementary F] {input : AssessmentInput} (issued : input.Issued F)
    {candidate : CandidateInput} (member : candidate ∈ input.candidates) {fold : Fold} (ordered : fold ∈ candidate.ordered) :
    fold.testStart.nanos < fold.testEnd.nanos := by
  have sorted : candidate.ordered.Perm candidate.ready := perm_sortedBy _ _
  have cited : fold.baseline ∈ input.cited := by
    simp only [AssessmentInput.cited, List.mem_flatMap]
    exact ⟨candidate, member, fold, sorted.mem_iff.mp ordered, by simp [Fold.cited]⟩
  exact (issued.reports _ cited).window

theorem keepsGaps_iff {purge embargo : Int64} (purged : 0 ≤ purge.toInt) (embargoed : 0 ≤ embargo.toInt) :
    KeepsGaps purge embargo ↔ purge.toInt ≤ maxSeconds ∧ embargo.toInt ≤ maxSeconds := by
  constructor
  · intro keeps
    by_contra long
    have long : maxSeconds < purge.toInt ∨ maxSeconds < embargo.toInt := by omega
    obtain ⟨assessment, _, accepted, _⟩ := extremeInput_accepted purge embargo
    obtain ⟨candidate, member, leaks⟩ := extremeInput_leaks long
    exact leaks (keeps Exact _ _ _ assessment (gapPolicy_made purged embargoed) rfl rfl rfl
      (extremeInput_issued purge embargo) accepted candidate member)
  · rintro ⟨shortPurge, shortEmbargo⟩ F _ _ policyInput policy input assessment made rfl rfl given issued accepted candidate
      member
    obtain ⟨samePurge, sameEmbargo⟩ := newPolicy_gaps made
    obtain ⟨evidence, checked⟩ := checked_of_mem accepted given member
    have apart := ordered_apart checked (fun fold ordered => ordered_windows issued member ordered)
      (by rw [samePurge]; exact secondsDuration_of_fits purged shortPurge)
      (by rw [sameEmbargo]; exact secondsDuration_of_fits embargoed shortEmbargo)
    rwa [samePurge, sameEmbargo] at apart

theorem keepsGaps_day : KeepsGaps 86400 86400 := (keepsGaps_iff (by decide) (by decide)).mpr ⟨by decide, by decide⟩

/-- A purge of 584 years is checked as one of 290 milliseconds. -/
theorem wrapped_purge_leaks :
    newPolicy (gapPolicyInput 18446744074 0) = .ok (gapPolicy 18446744074 0) ∧
      (extremeInput 18446744074 0).Issued Exact ∧
      (∃ assessment, newAssessment Exact (extremeInput 18446744074 0) = .ok assessment) ∧
      ∃ candidate ∈ (extremeInput 18446744074 0).candidates,
        ¬ candidate.ordered.Pairwise (Fold.ApartFrom 18446744074 0) := by
  refine ⟨gapPolicy_made (by decide) (by decide), extremeInput_issued _ _, ?_, extremeInput_leaks (.inl (by decide))⟩
  obtain ⟨assessment, _, accepted, _⟩ := extremeInput_accepted 18446744074 0
  exact ⟨assessment, accepted⟩

end Augr.Robustness
