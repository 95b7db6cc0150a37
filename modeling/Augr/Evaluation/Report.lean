import Augr.Evaluation.Calculator

/-! The report on one result: the window it covers, what was observed there and the metrics. -/

set_option autoImplicit false

namespace Augr.Evaluation

open Foundation Json
open Experimentrun (ExperimentMode Result formatTime parseTime marshalOptional marshalUuids)

variable {rows : List ObservationCanonical}

def reportSchemaV1 : String := "trade-portfolio-evaluation-v1"

structure ReportInput where
  result : Option Result
  policy : Option Policy
  (evaluationStart evaluationEnd : Instant)
  openLotCount : Int
  execution : ExecutionInput
  observations : List ObservationInput
  closedTrades : List ClosedTradeInput

/-- The canonical record keeps identities as they are and times as their text. -/
structure ReportCanonical where
  resultID : Uuid
  resultSHA256 : String
  (experimentID programID planID accountID manifestID qualityResultID : Uuid)
  mode : ExperimentMode
  policyID : Uuid
  (policySHA256 evaluationStart evaluationEnd : String)
  openLotCount : Int
  execution : ExecutionInput
  observations : List ObservationCanonical
  closedTrades : List TradeCanonical
  metrics : List Metric
  deriving DecidableEq

/-- The fields are private to the package: a report comes from `newReport`. -/
structure Report where
  canonical : ReportCanonical
  bytes : RawMessage
  digest : String
  id : Uuid
  deriving DecidableEq

def ExecutionInput.marshal (c : ExecutionInput) : Bytes :=
  encodeObject [
    ("AttemptedOrders", quote c.attemptedOrders),
    ("FilledOrders", quote c.filledOrders),
    ("AttemptedQuantity", quote c.attemptedQuantity),
    ("FilledQuantity", quote c.filledQuantity)]

def ObservationCanonical.marshal (c : ObservationCanonical) : Bytes :=
  encodeObject [
    ("sequence", encodeInt c.sequence),
    ("observed_at", quote c.observedAt),
    ("equity", quote c.equity),
    ("benchmark_value", quote c.benchmarkValue),
    ("cash_return", quote c.cashReturn),
    ("gross_exposure", quote c.grossExposure),
    ("net_exposure", quote c.netExposure),
    ("largest_position_weight", quote c.largestPositionWeight),
    ("cumulative_ownership_cost", quote c.cumulativeOwnershipCost),
    ("cumulative_turnover", quote c.cumulativeTurnover),
    ("cumulative_modeled_slippage", quote c.cumulativeModeledSlippage),
    ("cumulative_observed_slippage", marshalOptional c.cumulativeObservedSlippage),
    ("evidence_id", quote c.evidenceID.toText),
    ("evidence_sha256", quote c.evidenceSHA256)]

def TradeCanonical.marshal (c : TradeCanonical) : Bytes :=
  encodeObject [
    ("sequence", encodeInt c.sequence),
    ("instrument_id", quote c.instrumentID.toText),
    ("side", quote c.side.text),
    ("quantity", quote c.quantity),
    ("entry_fill_ids", marshalUuids c.entryFillIDs),
    ("exit_fill_ids", marshalUuids c.exitFillIDs),
    ("entry_at", quote c.entryAt),
    ("exit_at", quote c.exitAt),
    ("entry_price", quote c.entryPrice),
    ("exit_price", quote c.exitPrice),
    ("entry_fees", quote c.entryFees),
    ("exit_fees", quote c.exitFees),
    ("other_ownership_cost", quote c.otherOwnershipCost),
    ("gross_pnl", quote c.grossPnL),
    ("after_cost_pnl", quote c.afterCostPnL)]

def Metric.marshal (c : Metric) : Bytes :=
  encodeObject [
    ("section", quote c.group),
    ("name", quote c.name),
    ("state", quote c.state.text),
    ("value", quote c.value),
    ("unit", quote c.unit),
    ("reason", quote c.reason),
    ("description", quote c.description)]

def ReportCanonical.marshal (c : ReportCanonical) : Bytes :=
  encodeObject [
    ("schema", quote reportSchemaV1),
    ("state", quote "completed"),
    ("result_id", quote c.resultID.toText),
    ("result_sha256", quote c.resultSHA256),
    ("experiment_id", quote c.experimentID.toText),
    ("program_id", quote c.programID.toText),
    ("plan_id", quote c.planID.toText),
    ("account_id", quote c.accountID.toText),
    ("manifest_id", quote c.manifestID.toText),
    ("quality_result_id", quote c.qualityResultID.toText),
    ("mode", quote c.mode.text),
    ("policy_id", quote c.policyID.toText),
    ("policy_sha256", quote c.policySHA256),
    ("evaluation_start", quote c.evaluationStart),
    ("evaluation_end", quote c.evaluationEnd),
    ("open_lot_count", encodeInt c.openLotCount),
    ("execution", c.execution.marshal),
    ("observations", encodeArray (c.observations.map ObservationCanonical.marshal)),
    ("closed_trades", encodeArray (c.closedTrades.map TradeCanonical.marshal)),
    ("metrics", encodeArray (c.metrics.map Metric.marshal))]

def newReport (F : Type) [Float64 F] [Elementary F] (input : ReportInput) : Outcome Report := do
  let refused := Fault.errorf "evaluation report identity is invalid" []
  let result ← required refused input.result
  let policy ← required refused input.policy
  failIf (input.openLotCount < 0 || !input.evaluationStart.isCanonical || !input.evaluationEnd.isCanonical ||
      !input.evaluationStart.before input.evaluationEnd ||
      result.canonical.mode != .paperScored && result.canonical.mode != .paperStress)
    refused
  let observations ← canonicalObservations input.observations input.evaluationStart input.evaluationEnd
  validateFrequency policy observations
  let trades ← canonicalTrades input.closedTrades input.evaluationStart input.evaluationEnd
  let (metrics, execution) ← calculate F policy observations trades input.openLotCount input.execution
    input.evaluationStart input.evaluationEnd
  let canonical : ReportCanonical :=
    { resultID := result.id
      resultSHA256 := result.digest
      experimentID := result.canonical.experimentID
      programID := result.canonical.programID
      planID := result.canonical.planID
      accountID := result.canonical.accountID
      manifestID := result.canonical.manifestID
      qualityResultID := result.canonical.qualityResultID
      mode := result.canonical.mode
      policyID := policy.id
      policySHA256 := policy.digest
      evaluationStart := formatTime input.evaluationStart
      evaluationEnd := formatTime input.evaluationEnd
      openLotCount := input.openLotCount
      execution := execution
      observations := observations
      closedTrades := trades
      metrics := metrics }
  let encoded := canonical.marshal
  let digest := sha256Hex encoded
  pure ⟨canonical, encoded, digest,
    deterministicUUID "trade-portfolio-evaluation" [reportSchemaV1 ++ "@sha256:" ++ digest]⟩

namespace Report

def mode (r : Report) : ExperimentMode := r.canonical.mode

def evaluationStart (r : Report) : Instant := parseTime r.canonical.evaluationStart

def evaluationEnd (r : Report) : Instant := parseTime r.canonical.evaluationEnd

end Report

theorem daysFromCivil_next_month {year month day : Int} (low : 1 ≤ month) (high : month ≤ 12) :
    Instant.daysFromCivil year month day <
      if month = 12 then Instant.daysFromCivil (year + 1) 1 day else Instant.daysFromCivil year (month + 1) day := by
  rcases eq_or_ne month 12 with rfl | inside
  · simp only [Instant.daysFromCivil, if_true]
    omega
  · rw [if_neg inside]
    rcases lt_trichotomy month 2 with early | rfl | late
    · have first : month = 1 := by omega
      subst first
      simp only [Instant.daysFromCivil]
      omega
    · simp only [Instant.daysFromCivil]
      omega
    · have spring : ¬ month ≤ 2 ∧ ¬ month + 1 ≤ 2 := by omega
      have pattern : (month + 9) % 12 = month - 3 ∧ (month + 1 + 9) % 12 = month - 2 := by omega
      simp only [Instant.daysFromCivil, spring.1, spring.2, if_false, pattern.1, pattern.2]
      omega

theorem before_addMonth (t : Instant) : t.nanos < (addMonth t).nanos := by
  have back := Instant.daysFromCivil_civil (t.nanos / 1000000000 / Instant.secondsPerDay)
  simp only [addMonth]
  generalize Instant.civil (t.nanos / 1000000000 / Instant.secondsPerDay) = date at *
  obtain ⟨year, month, day⟩ := date
  have later : Instant.daysFromCivil year month day <
      if month = 12 then Instant.daysFromCivil (year + 1) 1 day else Instant.daysFromCivil year (month + 1) day :=
    daysFromCivil_next_month back.2.1 back.2.2.1
  rw [back.1] at later
  generalize (if month = 12 then Instant.daysFromCivil (year + 1) 1 day
    else Instant.daysFromCivil year (month + 1) day) = next at *
  simp only [Instant.secondsPerDay] at *
  omega

theorem Frequency.next_after {frequency : Frequency} {prior next : Instant} (follows : frequency.next prior = some next) :
    prior.nanos < next.nanos := by
  cases frequency with
  | monthly => cases follows; exact before_addMonth prior
  | unrecognized text => cases follows
  | _ =>
    cases follows
    simp [Instant.add, secondNanos]

theorem followsFrequency_after {frequency : Frequency} {prior current : ObservationCanonical}
    (follows : followsFrequency frequency prior current = true) :
    (parseTime prior.observedAt).nanos < (parseTime current.observedAt).nanos := by
  simp only [followsFrequency, Option.any_eq_true, Instant.equal, beq_iff_eq] at follows
  obtain ⟨next, isNext, same⟩ := follows
  rw [same]
  exact Frequency.next_after isNext

theorem validateFrequencyFrom_ascending {frequency : Frequency} {index : Nat}
    (ok : validateFrequencyFrom frequency index rows = .ok ()) :
    rows.IsChain fun prior current => (parseTime prior.observedAt).nanos < (parseTime current.observedAt).nanos := by
  induction rows generalizing index with
  | nil => exact .nil
  | cons prior rest ih =>
    cases rest with
    | nil => exact .singleton prior
    | cons current rest =>
      simp only [validateFrequencyFrom, returns_iff, Bool.not_eq_false'] at ok
      exact .cons_cons (followsFrequency_after ok.1) (ih ok.2)

theorem observationsFrom_times {start finish : Instant} {prior : Option ObservationInput} {index : Nat}
    {values : List ObservationInput} (ok : observationsFrom start finish prior index values = .ok rows) :
    rows.map (·.observedAt) = values.map fun value => formatTime value.observedAt := by
  induction values generalizing prior index rows with
  | nil => cases ok; rfl
  | cons value rest ih =>
    simp only [observationsFrom, bind_ok_iff] at ok
    obtain ⟨row, isRow, tail, isTail, built⟩ := ok
    cases built
    simp only [canonicalObservation, bind_ok_iff] at isRow
    obtain ⟨_, _, _, _, _, _, made⟩ := isRow
    cases made
    simp [ih isTail]

theorem formatTime_of_equal {left right : Instant} (same : left.equal right = true) :
    formatTime left = formatTime right := by
  simp only [Instant.equal, beq_iff_eq] at same
  simp [formatTime, Instant.format, same]

/-- The rows span the window: the first is at its start, the last at its end, and there are two at least. -/
theorem canonicalObservations_span {values : List ObservationInput} {start finish : Instant}
    (ok : canonicalObservations values start finish = .ok rows) :
    ∃ first last between, rows = first :: (between ++ [last]) ∧ first.observedAt = formatTime start ∧
      last.observedAt = formatTime finish := by
  simp only [canonicalObservations, returns_iff] at ok
  obtain ⟨size, made, isMade, ends, built⟩ := ok
  cases built
  have times := observationsFrom_times isMade
  have long : rows.length = values.length := by simpa using congrArg List.length times
  simp only [Bool.or_eq_false_iff, decide_eq_false_iff_not, Bool.not_eq_false', Option.any_eq_true] at size ends
  obtain ⟨⟨head, isHead, atStart⟩, tail, isTail, atEnd⟩ := ends
  obtain ⟨first, rest, rfl⟩ : ∃ first rest, rows = first :: rest := List.exists_cons_of_length_pos (by omega)
  have nonempty : rest ≠ [] := by
    rintro rfl
    simp only [List.length_cons, List.length_nil] at long
    omega
  obtain ⟨between, last, rfl⟩ : ∃ between last, rest = between ++ [last] :=
    ⟨rest.dropLast, rest.getLast nonempty, (List.dropLast_append_getLast nonempty).symm⟩
  have heads := congrArg List.head? times
  have lasts := congrArg List.getLast? times
  simp only [List.head?_map, List.getLast?_map, isHead, isTail] at heads lasts
  refine ⟨first, last, between, rfl, ?_, ?_⟩
  · exact (Option.some.inj heads).trans (formatTime_of_equal atStart)
  · have last' : (first :: (between ++ [last])).getLast? = some last := by
      rw [← List.cons_append, List.getLast?_append_of_ne_nil _ (by simp)]
      rfl
    rw [last'] at lasts
    exact (Option.some.inj lasts).trans (formatTime_of_equal atEnd)

theorem newReport_ok {F : Type} [Float64 F] [Elementary F] {input : ReportInput} {report : Report}
    (ok : newReport F input = .ok report) :
    ∃ result policy, input.result = some result ∧ input.policy = some policy ∧
      report.mode = result.canonical.mode ∧ report.canonical.policyID = policy.id ∧
      report.canonical.resultID = result.id ∧
      report.evaluationStart.nanos < report.evaluationEnd.nanos := by
  simp only [newReport, returns_iff] at ok
  obtain ⟨result, isResult, policy, isPolicy, _, rows, isRows, regular, trades, _, ⟨metrics, execution⟩, _, built⟩ := ok
  cases built
  refine ⟨result, policy, isResult, isPolicy, rfl, rfl, rfl, ?_⟩
  obtain ⟨first, last, between, rfl, atStart, atEnd⟩ := canonicalObservations_span isRows
  have ascending := validateFrequencyFrom_ascending regular
  simp only [Report.evaluationStart, Report.evaluationEnd, ← atStart, ← atEnd]
  have pairs := List.isChain_iff_pairwise.mp ascending
  exact (List.pairwise_cons.mp pairs).1 last (by simp)

end Augr.Evaluation
