import Augr.Robustness.Model

/-! The statistics and gates of the candidates of an assessment.

As in the metrics of a report, nothing is assumed of the floating-point numbers. -/

set_option autoImplicit false

namespace Augr.Robustness

open Foundation Elementary
open Evaluation (Report)
open Experimentrun (requireFromString)

def xorshift (state : UInt64) : UInt64 :=
  let first := state ^^^ (state >>> 12)
  let second := first ^^^ (first <<< 25)
  second ^^^ (second >>> 27)

def xorshiftOutput (state : UInt64) : UInt64 := state * 2685821657736338717

def wordBytes (word : UInt64) : Bytes := (List.range 8).map fun place => UInt8.ofNat (word.toNat >>> (8 * place))

def littleEndian (bytes : Bytes) : Nat := bytes.foldr (fun byte value => value * 256 + byte.toNat) 0

def bootstrapStart (candidate : Uuid) (seed : UInt64) : UInt64 :=
  let state := UInt64.ofNat (littleEndian ((Sha256.sum (candidate.bytes ++ wordBytes seed)).take 8))
  if state = 0 then 0x9e3779b97f4a7c15 else state

section Samples

variable {F : Type} [Float64 F] [Elementary F]

open Float64

def floatBefore (x y : F) : Bool := less x y || isNaN x && !isNaN y

def sortFloats (values : List F) : List F := values.insertionSort fun left right => ¬ floatBefore right left

def sortFloatsDown (values : List F) : List F := values.insertionSort fun left right => ¬ floatBefore left right

/-- The sum of as many samples as are still to draw, and the state of the generator behind them. -/
def drawTotal (samples : List F) : Nat → UInt64 → F → F × UInt64
  | 0, state, sum => (sum, state)
  | left + 1, state, sum =>
      let next := xorshift state
      let index := (xorshiftOutput next % UInt64.ofNat samples.length).toNat
      drawTotal samples left next (sum + samples.getD index zero)

def drawMeans (samples : List F) : Nat → UInt64 → List F
  | 0, _ => []
  | left + 1, state =>
      let drawn := drawTotal samples samples.length state zero
      drawn.1 / ofNat samples.length :: drawMeans samples left drawn.2

def indexed (values : List F) (index : Int) : Outcome F :=
  if 0 ≤ index then required (.nilDereference "means") values[index.toNat]? else .error (.nilDereference "means")

structure Bootstrap (F : Type) where
  (lower upper raw : F)

def bootstrap (policy : Policy) (candidate : Uuid) (samples : List F) : Outcome (Bootstrap F) := do
  let means := drawMeans samples policy.canonical.bootstrapIterations.toNat
    (bootstrapStart candidate policy.canonical.bootstrapSeed)
  let nonpositive := (means.filter fun value => atMost value zero).length
  let sorted := sortFloats means
  let level ← requireFromString policy.canonical.confidenceLevel
  let tail : F := (const 1 - ofDecimal level) / const 2
  let last : F := ofNat (means.length - 1)
  let lower ← indexed sorted (toInt (floor (tail * last)))
  let upper ← indexed sorted (toInt (ceil ((const 1 - tail) * last)))
  pure ⟨lower, upper, ofNat (nonpositive + 1) / ofNat (means.length + 1)⟩

structure Concentration (F : Type) where
  (largest topDecile : F)
  available : Bool

def concentration (samples : List F) : Outcome (Concentration F) := do
  let positive := samples.filter fun value => less zero value
  let sum := total positive
  if positive.isEmpty || atMost sum zero then pure ⟨zero, zero, false⟩
  else
    let sorted := sortFloatsDown positive
    let share : F := ofNat positive.length * const (1 / 10)
    let count := toInt (ceil share)
    failIf (count < 0 || (positive.length : Int) < count) (.nilDereference "positive")
    let largest ← indexed sorted 0
    pure ⟨largest / sum, total (sorted.take count.toNat) / sum, true⟩

/-- A text that is not a number counts as the unset decimal. -/
def equityValue (text : String) : Decimal := (Decimal.newFromString text).toOption.getD .unset

def periodReturns (report : Report) : Outcome (List F) :=
  let equities := report.canonical.observations.map fun row => equityValue row.equity
  let values : List F := (equities.zip equities.tail).map fun pair => ofDecimal ((pair.2.div pair.1).sub (.newFromInt 1))
  if values.all finite then .ok values else .error (.errorf "evaluation period return numeric range exceeded" [])

/-- The returns of a cited report, which is the one stored last under its identity. -/
def citedReturns (sources : List Report) (id : Uuid) : Outcome (List F) :=
  match latest (·.id) sources id with
  | none => .error (.errorf "evaluation report is required" [])
  | some report => periodReturns report

structure FoldReturns (F : Type) where
  baseline : List F
  perturbed : List (String × List F)

def scenarioReturns (sources : List Report) (scenario : ScenarioEvidence) : Outcome (String × List F) := do
  let values ← citedReturns sources scenario.reportID
  pure (scenario.kind, values)

def foldReturns (sources : List Report) (fold : FoldEvidence) : Outcome (FoldReturns F) := do
  let baseline ← citedReturns sources fold.baseline.reportID
  let perturbed ← fold.perturbations.mapM (scenarioReturns sources)
  pure ⟨baseline, perturbed⟩

/-- The returns under one kind of perturbation, fold by fold. -/
def perturbedReturns (rows : List (FoldReturns F)) (kind : String) : List F :=
  rows.flatMap fun row => (row.perturbed.filter fun entry => entry.1 == kind).flatMap (·.2)

end Samples

def availableStatistic (name value unit description : String) : Statistic :=
  ⟨name, .available, value, unit, "", description⟩

def unavailableStatistic (name unit reason description : String) : Statistic :=
  ⟨name, .unavailable, "", unit, reason, description⟩

structure CandidateCalculation where
  (rawProbability baselineMean : Decimal)

def GateState.ofBool (passes : Bool) : GateState := if passes then .pass else .fail

/-- A gate has a reason only where it fails. -/
def Gate.decided (name : String) (passes : Bool) (threshold observed reason description : String) : Gate :=
  ⟨name, .ofBool passes, threshold, observed, if passes then "" else reason, description⟩

section Candidate

variable {F : Type} [Float64 F] [Elementary F]

open Float64

def baselineStatistics (folds : Nat) (returns : List F) (drawn : Bootstrap F) (scale : Int) : Outcome (List Statistic) := do
  let average ← number (mean returns) scale
  let lower ← number drawn.lower scale
  let upper ← number drawn.upper scale
  let raw ← number drawn.raw scale
  pure [
    availableStatistic "fold_count" (Text.itoa folds) "count" "ordered_purged_walk_forward_test_folds",
    availableStatistic "out_of_sample_return_count" (Text.itoa returns.length) "count"
      "combined_baseline_out_of_sample_period_returns",
    availableStatistic "baseline_mean_return" average "ratio_per_period" "mean_combined_out_of_sample_baseline_return",
    availableStatistic "bootstrap_lower_confidence_bound" lower "ratio_per_period"
      "deterministic_percentile_bootstrap_lower_bound",
    availableStatistic "bootstrap_upper_confidence_bound" upper "ratio_per_period"
      "deterministic_percentile_bootstrap_upper_bound",
    availableStatistic "raw_nonpositive_mean_probability" raw "probability"
      "empirical_bootstrap_probability_mean_is_nonpositive_with_plus_one_correction"]

def shareStatistics (shares : Concentration F) (scale : Int) : Outcome (List Statistic) :=
  let largest := "largest_positive_period_return_over_total_positive_period_returns"
  let decile := "top_ceil_ten_percent_positive_period_returns_over_total_positive_period_returns"
  if shares.available then do
    let first ← number shares.largest scale
    let second ← number shares.topDecile scale
    pure [availableStatistic "largest_positive_period_share" first "ratio" largest,
      availableStatistic "top_decile_positive_period_share" second "ratio" decile]
  else
    pure [unavailableStatistic "largest_positive_period_share" "ratio" "no_positive_out_of_sample_periods" largest,
      unavailableStatistic "top_decile_positive_period_share" "ratio" "no_positive_out_of_sample_periods" decile]

def bootstrapGate (lower : F) (scale : Int) : Outcome Gate := do
  let observed ← number lower scale
  pure (.decided "bootstrap_positive_mean" (less zero lower) "0" observed "lower_confidence_bound_not_positive"
    "lower_confidence_bound_must_be_strictly_positive")

def concentrationGate (policy : Policy) (shares : Concentration F) (scale : Int) : Outcome Gate := do
  let largestLimit ← requireFromString policy.canonical.maxLargestPositiveShare
  let decileLimit ← requireFromString policy.canonical.maxTopDecilePositiveShare
  let first ← number shares.largest scale
  let second ← number shares.topDecile scale
  pure (.decided "return_concentration"
    (shares.available && atMost shares.largest (ofDecimal largestLimit) && atMost shares.topDecile (ofDecimal decileLimit))
    (policy.canonical.maxLargestPositiveShare ++ "/" ++ policy.canonical.maxTopDecilePositiveShare)
    (first ++ "/" ++ second)
    (if shares.available then "positive_return_concentration_exceeds_policy" else "no_positive_out_of_sample_periods")
    "largest_and_top_decile_positive_return_shares_within_policy")

structure Stability (F : Type) where
  passes : Bool
  worst : F
  statistics : List Statistic

def Stability.step (policy : Policy) (baseline : List F) (rows : List (FoldReturns F)) (state : Stability F)
    (kind : String) : Outcome (Stability F) := do
  let values := perturbedReturns rows kind
  failIf (values.length != baseline.length) (.errorf "perturbation %s sample count diverges" [kind])
  let perturbedMean := mean values
  let degradation := mean baseline - perturbedMean
  let text ← number perturbedMean policy.canonical.decimalScale
  let limit ← requireFromString policy.canonical.maxPerturbationDegradation
  pure
    { passes := state.passes &&
        !(!finite perturbedMean || atMost perturbedMean zero || less (ofDecimal limit) degradation)
      worst := Float64.max state.worst degradation
      statistics := state.statistics ++ [availableStatistic ("perturbation_" ++ kind ++ "_mean_return") text
        "ratio_per_period" "combined_out_of_sample_perturbation_mean_return"] }

def stabilityGate (policy : Policy) (state : Stability F) : Outcome Gate := do
  let observed ← number state.worst policy.canonical.decimalScale
  pure (.decided "perturbation_stability" state.passes policy.canonical.maxPerturbationDegradation observed
    "perturbation_nonpositive_or_degradation_exceeds_policy"
    "all_required_perturbations_positive_and_within_maximum_mean_degradation")

end Candidate

section Calculate

variable (F : Type) [Float64 F] [Elementary F]

open Float64

def assessReturns (policy : Policy) (version : Uuid) (folds : Nat) (rows : List (FoldReturns F)) :
    Outcome (CandidateCalculation × List Statistic × List Gate) := do
  let baseline := rows.flatMap (·.baseline)
  failIf (baseline.length < 2) (.errorf "candidate requires at least two out-of-sample returns" [])
  failIf (!baseline.all finite) (.errorf "candidate return numeric range exceeded" [])
  let scale := policy.canonical.decimalScale
  let drawn ← bootstrap policy version baseline
  let shares ← concentration baseline
  let base ← baselineStatistics folds baseline drawn scale
  let share ← shareStatistics shares scale
  let first ← bootstrapGate drawn.lower scale
  let second ← concentrationGate policy shares scale
  let start : Stability F := ⟨true, zero - inf, []⟩
  let stability ← policy.canonical.requiredPerturbations.foldlM (Stability.step policy baseline rows) start
  let third ← stabilityGate policy stability
  let raw ← newFromFloat drawn.raw
  let average ← newFromFloat (mean baseline)
  pure (⟨raw, average⟩, base ++ share ++ stability.statistics, [first, second, third])

def calculateCandidate (policy : Policy) (sources : List Report) (candidate : CandidateEvidence) :
    Outcome (CandidateCalculation × CandidateEvidence) := do
  let rows : List (FoldReturns F) ← candidate.folds.mapM (foldReturns sources)
  let (calculation, statistics, gates) ← assessReturns F policy candidate.versionID candidate.folds.length rows
  pure (calculation, { candidate with statistics := statistics, gates := gates })

end Calculate

structure Ranked where
  index : Nat
  id : Uuid
  raw : Decimal

def Ranked.before (left right : Ranked) : Bool :=
  left.raw.lessThan right.raw || left.raw.equal right.raw && decide (uuidOrder left.id < uuidOrder right.id)

/-- The adjusted probabilities in rank order, each with its candidate; the last one is the running maximum. -/
def holmAdjusted : Decimal → List Ranked → List (Nat × Decimal)
  | _, [] => []
  | running, value :: rest =>
      let scaled := value.raw.mul (.newFromInt (rest.length + 1))
      let capped := if scaled.greaterThan (.newFromInt 1) then .newFromInt 1 else scaled
      let adjusted := if capped.lessThan running then running else capped
      (value.index, adjusted) :: holmAdjusted adjusted rest

def adjustedAt (adjusted : List (Nat × Decimal)) (index : Nat) : Decimal :=
  ((adjusted.find? fun entry => entry.1 == index).map (·.2)).getD .unset

def overallGate (gates : List Gate) : Gate :=
  let passes := gates.all fun gate => gate.state == .pass
  ⟨"overall_robustness", .ofBool passes, "all_required_gates_pass", (GateState.ofBool passes).text,
    if passes then "" else "one_or_more_required_robustness_gates_failed",
    "evidence_only_not_promotion_or_deployment_authority"⟩

def applyAdjusted (policy : Policy) (alpha adjusted : Decimal) (candidate : CandidateEvidence) : CandidateEvidence :=
  let text := (adjusted.round policy.canonical.decimalScale).toText
  let gates := candidate.gates ++ [Gate.decided "multiple_testing_adjustment" (!adjusted.greaterThan alpha)
    policy.canonical.familyWiseAlpha text "adjusted_probability_exceeds_family_wise_alpha"
    "holm_bonferroni_adjusted_probability_within_family_wise_alpha"]
  { candidate with
    statistics := candidate.statistics ++ [availableStatistic "holm_adjusted_nonpositive_mean_probability" text
      "probability" "family_wide_holm_bonferroni_adjusted_probability"]
    gates := gates ++ [overallGate gates] }

def applyHolm (policy : Policy) (rows : List (CandidateCalculation × CandidateEvidence)) :
    Outcome (List CandidateEvidence) := do
  let ranked := rows.zipIdx.map fun entry => (⟨entry.2, entry.1.2.versionID, entry.1.1.rawProbability⟩ : Ranked)
  let ordered := ranked.insertionSort fun left right => ¬ right.before left
  let adjusted := holmAdjusted .zero ordered
  let alpha ← requireFromString policy.canonical.familyWiseAlpha
  pure (rows.zipIdx.map fun entry => applyAdjusted policy alpha (adjustedAt adjusted entry.2) entry.1.2)

def calculate (F : Type) [Float64 F] [Elementary F] (policy : Policy) (candidates : List CandidateEvidence)
    (sources : List Report) : Outcome (List CandidateEvidence) := do
  let rows ← candidates.mapM (calculateCandidate F policy sources)
  applyHolm policy rows

end Augr.Robustness
