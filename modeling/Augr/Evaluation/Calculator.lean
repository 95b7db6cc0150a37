import Augr.Evaluation.Model
import Augr.Foundation.Elementary

/-! The metrics of a report.

Returns are floating-point numbers, on which nothing is assumed; a total, a quantity or a cost stays a decimal. -/

set_option autoImplicit false

namespace Augr.Evaluation

open Foundation Elementary Text
open Experimentrun (parseTime requireFromString)

inductive MetricState where
  | available
  | unavailable
  | positiveInfinity
  deriving DecidableEq

def MetricState.text : MetricState → String
  | .available => "available"
  | .unavailable => "unavailable"
  | .positiveInfinity => "positive_infinity"

structure Metric where
  (group name : String)
  state : MetricState
  (value unit reason description : String)
  deriving DecidableEq

/-- A metric before it is known whether it has a value. -/
structure MetricName where
  (group name unit description : String)

def MetricName.add (m : MetricName) (value : String) : Metric :=
  ⟨m.group, m.name, .available, value, m.unit, "", m.description⟩

def MetricName.unavailable (m : MetricName) (reason : String) : Metric :=
  ⟨m.group, m.name, .unavailable, "", m.unit, reason, m.description⟩

def MetricName.infinity (m : MetricName) : Metric := ⟨m.group, m.name, .positiveInfinity, "", m.unit, "", m.description⟩

structure ExecutionInput where
  (attemptedOrders filledOrders attemptedQuantity filledQuantity : String)
  deriving DecidableEq

def canonicalNonnegative (value : String) : Outcome Decimal :=
  match Decimal.newFromString value with
  | .ok d =>
      if validDecimal value && !d.isNegative then .ok d
      else .error (.errorf "canonical nonnegative decimal is required" [])
  | .error _ => .error (.errorf "canonical nonnegative decimal is required" [])

/-- Truncation drops the places behind the point. -/
def isWhole (d : Decimal) : Bool := d.exp ≥ 0 || d.equal (d.rescale 0)

def canonicalCount (value : String) : Outcome Decimal :=
  match canonicalNonnegative value with
  | .ok d => if isWhole d then .ok d else .error (.errorf "canonical integer count is required" [])
  | .error _ => .error (.errorf "canonical integer count is required" [])

def decimalSeries (select : ObservationCanonical → String) (rows : List ObservationCanonical) : Outcome (List Decimal) :=
  rows.mapM fun row => requireFromString (select row)

def quantize (value : Decimal) (scale : Int) : String := (value.round scale).toText

def decimalMean (values : List Decimal) : Decimal := (values.foldl Decimal.add .zero).div (.newFromInt values.length)

def decimalMax : List Decimal → Decimal
  | [] => .zero
  | first :: rest => rest.foldl (fun result value => if value.greaterThan result then value else result) first

section Returns

variable {F : Type} [Float64 F] [Elementary F]

open Float64

def returns (values : List Decimal) : List F :=
  (values.zip values.tail).map fun pair => ofDecimal ((pair.2.div pair.1).sub (.newFromInt 1))

def subtract (left right : List F) : List F := (left.zip right).map fun pair => pair.1 - pair.2

def sampleStd (values : List F) : F :=
  if values.length < 2 then zero
  else
    let average := mean values
    Elementary.sqrt (total (values.map fun value => (value - average) * (value - average)) / ofNat (values.length - 1))

def downsideDeviation (values : List F) : F :=
  let below := values.filter fun value => less value zero
  if below.isEmpty then zero else Elementary.sqrt (total (below.map fun value => value * value) / ofNat below.length)

def hours (span : Duration) : F :=
  const (span.tdiv (3600 * secondNanos)) + const (span.tmod (3600 * secondNanos)) / const (60 * 60 * 1000000000)

def MetricName.measured (m : MetricName) (value : F) (scale : Int) : Outcome Metric :=
  if finite value then do
    let text ← number value scale
    pure (m.add text)
  else pure (m.unavailable "numeric_range_exceeded")

/-- A ratio, which needs a denominator above zero. -/
def MetricName.ratioOver (m : MetricName) (denominator value : F) (missing : String) (scale : Int) : Outcome Metric :=
  if atMost denominator zero then pure (m.unavailable missing) else m.measured value scale

end Returns

def portfolio (name unit description : String) : MetricName := ⟨"portfolio", name, unit, description⟩

def trackingError : MetricName :=
  portfolio "tracking_error" "ratio_per_year" "annualized_sample_standard_deviation_of_active_returns"

def informationRatio : MetricName :=
  portfolio "information_ratio" "ratio" "annualized_active_return_information_ratio"

def sharpeRatio : MetricName :=
  portfolio "sharpe_ratio" "ratio" "annualized_excess_cash_return_over_sample_volatility"

def sortinoRatio : MetricName :=
  portfolio "sortino_ratio" "ratio" "annualized_excess_cash_return_over_downside_deviation"

def annualizedReturn : MetricName :=
  portfolio "after_cost_annualized_return" "ratio_per_year" "calendar_time_annualized_after_cost_return"

def recoveryPeriods : MetricName :=
  portfolio "maximum_drawdown_recovery_periods" "periods" "first_equity_at_or_above_prior_peak"

def calmarRatio : MetricName :=
  portfolio "calmar_ratio" "ratio" "annualized_after_cost_return_over_maximum_drawdown"

def growth (values : List Decimal) : Decimal :=
  (values.getLast?.getD .zero).div (values.head?.getD .zero)

def totalReturns (equity benchmark : List Decimal) (scale : Int) : List Metric :=
  let totalReturn := (growth equity).sub (.newFromInt 1)
  let benchmarkTotal := (growth benchmark).sub (.newFromInt 1)
  [(portfolio "after_cost_total_return" "ratio" "equity_return_after_declared_ownership_costs").add
      (quantize totalReturn scale),
    (portfolio "benchmark_total_return" "ratio" "declared_benchmark_total_return").add (quantize benchmarkTotal scale),
    (portfolio "benchmark_excess_return" "ratio" "after_cost_return_minus_benchmark_return").add
      (quantize (totalReturn.sub benchmarkTotal) scale)]

structure Drawdown where
  (peak deepest : Decimal)
  trough : Option Nat
  peakAtMax : Decimal

def Drawdown.step (state : Drawdown) (entry : Decimal × Nat) : Drawdown :=
  let peak := if entry.1.greaterThan state.peak then entry.1 else state.peak
  let depth := (peak.sub entry.1).div peak
  if depth.greaterThan state.deepest then ⟨peak, depth, some entry.2, peak⟩ else { state with peak := peak }

/-- The deepest fall from a peak, and how many periods later that peak was reached again, if it was. -/
def drawdown (values : List Decimal) : Decimal × Option Nat :=
  let start : Drawdown := ⟨values.head?.getD .zero, .zero, none, .zero⟩
  let reached := values.zipIdx.foldl Drawdown.step start
  match reached.trough with
  | none => (.zero, some 0)
  | some trough =>
      (reached.deepest,
        ((values.zipIdx.drop (trough + 1)).find? fun entry => !entry.1.lessThan reached.peakAtMax).map fun entry =>
          entry.2 - trough)

def drawdownMetrics (equity : List Decimal) (scale : Int) : List Metric :=
  let (deepest, recovery) := drawdown equity
  [(portfolio "maximum_drawdown" "ratio" "maximum_peak_to_trough_equity_drawdown").add (quantize deepest scale),
    match recovery with
    | some periods => recoveryPeriods.add (itoa periods)
    | none => recoveryPeriods.unavailable "drawdown_unrecovered"]

/-- The annualized return is the one already written, if it was. -/
def calmar (deepest : Decimal) (annual : Option String) (scale : Int) : Outcome Metric :=
  if !deepest.isPositive then pure (calmarRatio.unavailable "zero_maximum_drawdown")
  else match annual with
    | none => pure (calmarRatio.unavailable "annualized_return_unavailable")
    | some text => do
        let value ← requireFromString text
        pure (calmarRatio.add (quantize (value.div deepest) scale))

def metricValue (metrics : List Metric) (group name : String) : Option String :=
  (metrics.find? fun m => m.group == group && m.name == name && m.state == .available).map (·.value)

section Portfolio

variable (F : Type) [Float64 F] [Elementary F]

open Float64

def annualized (equity : List Decimal) (span : Duration) (scale : Int) : Outcome (List Metric) :=
  let years : F := hours span / const (24 * 365.25)
  if less zero years then do
    let yearly : F := Elementary.pow (ofDecimal (growth equity)) (const 1 / years) - const 1
    let metric ← annualizedReturn.measured yearly scale
    pure [metric]
  else pure []

/-- The square root of the periods of a year, by which a ratio of one period becomes one of a year. -/
def yearly (policy : Policy) : F := Elementary.sqrt (const policy.canonical.periodsPerYear)

def activeMetrics (policy : Policy) (strategy benchmark : List F) (scale : Int) : Outcome (List Metric) :=
  let active := subtract strategy benchmark
  if active.length < 2 then
    pure [trackingError.unavailable "insufficient_return_samples",
      informationRatio.unavailable "insufficient_return_samples"]
  else do
    let tracking := sampleStd active
    let error ← trackingError.measured (tracking * yearly F policy) scale
    let information ← informationRatio.ratioOver tracking (mean active / tracking * yearly F policy)
      "zero_tracking_error" scale
    pure [error, information]

def cashMetrics (policy : Policy) (strategy cash : List F) (scale : Int) : Outcome (List Metric) :=
  let excess := subtract strategy cash
  if excess.length < 2 then
    pure [sharpeRatio.unavailable "insufficient_return_samples", sortinoRatio.unavailable "insufficient_return_samples"]
  else do
    let volatility := sampleStd excess
    let sharpe ← sharpeRatio.ratioOver volatility (mean excess / volatility * yearly F policy) "zero_volatility" scale
    let down := downsideDeviation excess
    let sortino ← sortinoRatio.ratioOver down (mean excess / down * yearly F policy) "zero_downside_deviation" scale
    pure [sharpe, sortino]

end Portfolio

def addSpan (left right : Duration) : Duration := (left + right).bmod (2 ^ 64)

structure TradeTotals where
  (wins losses breakeven : Nat)
  (grossProfit grossLoss pnlTotal : Decimal)
  holdTotal : Duration

def TradeTotals.add (totals : TradeTotals) (trade : TradeCanonical) : Outcome TradeTotals := do
  let pnl ← requireFromString trade.afterCostPnL
  let counted := { totals with
    pnlTotal := totals.pnlTotal.add pnl
    holdTotal := addSpan totals.holdTotal ((parseTime trade.exitAt).sub (parseTime trade.entryAt)) }
  if pnl.isPositive then
    pure { counted with wins := counted.wins + 1, grossProfit := counted.grossProfit.add pnl }
  else if pnl.isNegative then
    pure { counted with losses := counted.losses + 1, grossLoss := counted.grossLoss.add pnl.abs }
  else pure { counted with breakeven := counted.breakeven + 1 }

def trade (name unit description : String) : MetricName := ⟨"trade", name, unit, description⟩

def perTrade (count : Nat) (m : MetricName) (value : Decimal) (scale : Int) : Metric :=
  if count = 0 then m.unavailable "no_closed_trades" else m.add (quantize (value.div (.newFromInt count)) scale)

def profitFactor (totals : TradeTotals) (scale : Int) : Metric :=
  let m := trade "profit_factor" "ratio" "gross_positive_after_cost_pnl_over_gross_negative_after_cost_pnl"
  if 0 < totals.losses then m.add (quantize (totals.grossProfit.div totals.grossLoss) scale)
  else if 0 < totals.wins then
    (trade "profit_factor" "ratio" "gross_positive_after_cost_pnl_with_no_losing_trade").infinity
  else m.unavailable "no_winning_and_losing_closed_trades"

def tradeMetrics (totals : TradeTotals) (count : Nat) (openLots : Int) (scale : Int) : List Metric :=
  let held := (Decimal.newFromInt (totals.holdTotal.tdiv 1000)).div (.newFromInt 1000000)
  [(trade "closed_trade_count" "count" "fifo_closed_trade_round_trips").add (itoa count),
    (trade "open_lot_count" "count" "unclosed_fifo_lots_excluded_from_trade_outcomes").add (itoa openLots.natAbs),
    (trade "winning_trade_count" "count" "closed_trades_with_positive_after_cost_pnl").add (itoa totals.wins),
    (trade "losing_trade_count" "count" "closed_trades_with_negative_after_cost_pnl").add (itoa totals.losses),
    (trade "breakeven_trade_count" "count" "closed_trades_with_zero_after_cost_pnl").add (itoa totals.breakeven),
    perTrade count (trade "win_rate" "ratio" "closed_trade_after_cost_win_rate_not_bar_return_rate")
      (.newFromInt totals.wins) scale,
    perTrade count (trade "expectancy" "currency_per_trade" "mean_closed_trade_after_cost_pnl") totals.pnlTotal scale,
    perTrade count (trade "mean_holding_seconds" "seconds" "mean_fifo_closed_trade_holding_time") held scale,
    profitFactor totals scale]

def diagnostics (observations positive returnCount : Nat) (scale : Int) : List Metric :=
  [(⟨"curve_diagnostics", "bar_positive_return_rate", "ratio", "descriptor_only_not_trade_win_rate"⟩ : MetricName).add
      (quantize ((Decimal.newFromInt positive).div (.newFromInt returnCount)) scale),
    (⟨"sample", "portfolio_observation_count", "count", "ordered_point_in_time_portfolio_observations"⟩ :
      MetricName).add (itoa observations),
    (⟨"sample", "return_sample_count", "count", "simple_return_periods"⟩ : MetricName).add (itoa returnCount)]

def fillRatio (m : MetricName) (filled attempted : Decimal) (missing : String) (scale : Int) : Metric :=
  if attempted.isPositive then m.add (quantize (filled.div attempted) scale) else m.unavailable missing

def cost (name unit description : String) : MetricName := ⟨"cost", name, unit, description⟩

def costMetrics (last : ObservationCanonical) : List Metric :=
  let observed := cost "observed_slippage" "currency" "cumulative_observed_execution_slippage"
  [(cost "total_ownership_cost" "currency" "cumulative_declared_fees_spread_impact_financing_and_other_cost").add
      last.cumulativeOwnershipCost,
    (cost "turnover" "ratio" "cumulative_traded_notional_over_average_equity").add last.cumulativeTurnover,
    (cost "modeled_slippage" "currency" "cumulative_modeled_execution_slippage").add last.cumulativeModeledSlippage,
    match last.cumulativeObservedSlippage with
    | some slippage => observed.add slippage
    | none => observed.unavailable "observed_slippage_not_available"]

def exposure (name unit description : String) : MetricName := ⟨"exposure", name, unit, description⟩

def exposureMetrics (observations : List ObservationCanonical) (scale : Int) : Outcome (List Metric) := do
  let gross ← decimalSeries (·.grossExposure) observations
  let net ← decimalSeries (·.netExposure) observations
  let concentration ← decimalSeries (·.largestPositionWeight) observations
  pure [(exposure "mean_gross_exposure" "currency" "mean_gross_exposure_across_observations").add
      (quantize (decimalMean gross) scale),
    (exposure "mean_absolute_net_exposure" "currency" "mean_absolute_net_exposure_across_observations").add
      (quantize (decimalMean (net.map Decimal.abs)) scale),
    (exposure "maximum_largest_position_weight" "ratio" "maximum_largest_position_weight_across_observations").add
      (quantize (decimalMax concentration) scale)]

structure ExecutionTotals where
  (attemptedOrders filledOrders attemptedQuantity filledQuantity : Decimal)

def ExecutionInput.read (execution : ExecutionInput) : Outcome ExecutionTotals := do
  let attemptedOrders ← wrapping "attempted orders: %w" [] (canonicalCount execution.attemptedOrders)
  let ordersInvalid := Fault.errorf "filled orders are invalid" []
  let filledOrders ← required ordersInvalid (canonicalCount execution.filledOrders).toOption
  failIf (filledOrders.greaterThan attemptedOrders) ordersInvalid
  let attemptedQuantity ← canonicalNonnegative execution.attemptedQuantity
  let quantityInvalid := Fault.errorf "filled quantity is invalid" []
  let filledQuantity ← required quantityInvalid (canonicalNonnegative execution.filledQuantity).toOption
  failIf (filledQuantity.greaterThan attemptedQuantity) quantityInvalid
  pure ⟨attemptedOrders, filledOrders, attemptedQuantity, filledQuantity⟩

def ExecutionTotals.canonical (totals : ExecutionTotals) : ExecutionInput where
  attemptedOrders := totals.attemptedOrders.toText
  filledOrders := totals.filledOrders.toText
  attemptedQuantity := totals.attemptedQuantity.toText
  filledQuantity := totals.filledQuantity.toText

def executionMetrics (totals : ExecutionTotals) (scale : Int) : List Metric :=
  [fillRatio ⟨"execution", "order_fill_ratio", "ratio", "filled_orders_over_attempted_orders"⟩ totals.filledOrders
      totals.attemptedOrders "no_attempted_orders" scale,
    fillRatio ⟨"execution", "quantity_fill_ratio", "ratio", "filled_quantity_over_attempted_quantity"⟩
      totals.filledQuantity totals.attemptedQuantity "no_attempted_quantity" scale]

section Calculate

variable (F : Type) [Float64 F] [Elementary F]

open Float64

def portfolioMetrics (policy : Policy) (observations : List ObservationCanonical) (span : Duration) :
    Outcome (List Metric × List F) := do
  let scale := policy.canonical.decimalScale
  let equity ← decimalSeries (·.equity) observations
  let benchmark ← decimalSeries (·.benchmarkValue) observations
  let cash ← decimalSeries (·.cashReturn) observations.tail
  let strategy : List F := returns equity
  let yearlyReturn ← annualized F equity span scale
  let active ← activeMetrics F policy strategy (returns benchmark) scale
  let excess ← cashMetrics F policy strategy (cash.map ofDecimal) scale
  let ratio ← calmar (drawdown equity).1 (metricValue yearlyReturn "portfolio" "after_cost_annualized_return") scale
  pure (totalReturns equity benchmark scale ++ yearlyReturn ++ active ++ excess ++ drawdownMetrics equity scale ++ [ratio],
    strategy)

def calculate (policy : Policy) (observations : List ObservationCanonical) (trades : List TradeCanonical)
    (openLots : Int) (execution : ExecutionInput) (start finish : Instant) : Outcome (List Metric × ExecutionInput) := do
  let totals ← execution.read
  let scale := policy.canonical.decimalScale
  let (measured, strategy) ← portfolioMetrics F policy observations (finish.sub start)
  let traded ← trades.foldlM TradeTotals.add ⟨0, 0, 0, .zero, .zero, .zero, 0⟩
  let rising := (strategy.filter fun value => less zero value).length
  let exposed ← exposureMetrics observations scale
  let last ← required (.nilDereference "observations") observations.getLast?
  pure (measured ++ tradeMetrics traded trades.length openLots scale ++
      diagnostics observations.length rising strategy.length scale ++ executionMetrics totals scale ++ costMetrics last ++
      exposed,
    totals.canonical)

end Calculate

end Augr.Evaluation
