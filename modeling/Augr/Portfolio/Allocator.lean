import Augr.Domain
import Augr.Foundation.Float64
import Augr.Foundation.Instant
import Augr.Foundation.Keyed

/-! The allocator: opportunities are scored, ranked and sized against the state of the portfolio. -/

set_option autoImplicit false

namespace Augr.Portfolio

open Foundation Domain Text Float64
open scoped Foundation.Float64

inductive AllocatorMode where
  | diagnostics
  | queue
  | shadow
  | paper
  | unset
  | unrecognized (text : String)
  deriving DecidableEq

inductive OpportunityStatus where
  | queued
  | selected
  | rejected
  | expired
  | executed
  | unrecognized (text : String)
  deriving DecidableEq

def OpportunityStatus.text : OpportunityStatus → String
  | .queued => "queued"
  | .selected => "selected"
  | .rejected => "rejected"
  | .expired => "expired"
  | .executed => "executed"
  | .unrecognized text => text

inductive AllocationDecisionAction where
  | shadowSelected
  | shadowRejected
  | paperOrderIntent
  | executionRejected
  | executed
  deriving DecidableEq

section
variable (F : Type)

structure Opportunity where
  (id strategyID : Uuid)
  pipelineRunID : Option Uuid
  marketType : MarketType
  ticker : String
  side : OrderSide
  predictionSide : String
  signal : PipelineSignal
  status : OpportunityStatus
  (confidence edgePct maxLossPct entryPrice liquidityUSD marketCapUSD spreadPct proposedNotional : F)
  (expiresAt createdAt : Instant)
  dedupeKey : String

structure AllocationDecision where
  (opportunityID strategyID : Option Uuid)
  mode : AllocatorMode
  action : AllocationDecisionAction
  (score notionalUSD quantity : F)
  reasons : List String
  createdOrderID : Option Uuid

abbrev MarketMap := List (MarketType × F)

/-- A map that is not given is no value. -/
structure AllocatorConfig where
  mode : AllocatorMode
  paperOnly : Bool
  (targetGrossExposurePct hardGrossExposurePct cashReservePct : F)
  (maxNewOrdersPerRun maxNewOrdersPerDay : Int)
  (maxPerPositionPct maxPerMarketPct minScoreByMarket minEdgePctByMarket : Option (MarketMap F))
  (minLiquidityUSD maxSpreadPct : Option (MarketMap F))
  /-- What the clock shows, if the configuration has one. -/
  now : Option Instant

structure PortfolioState where
  (equity buyingPower grossExposure : F)
  marketExposure : MarketMap F
  openTickers : List String
  newOrdersToday : Int

/-- The counts by reason and by market are kept as what was counted. -/
structure AllocationSummary where
  (evaluated eligible selected rejected : Nat)
  rejectedByReason : List String
  selectedByMarket : List MarketType
  selectedNotional : F

structure AllocationResult where
  decisions : List (AllocationDecision F)
  summary : AllocationSummary F

structure ScoredOpportunity where
  opp : Opportunity F
  score : F
  reasons : List String
  notional : F
  action : AllocationDecisionAction

end

section
variable {F : Type} [Float64 F]

/-- The default clock is the system clock. -/
def defaultAllocatorConfig (clock : Instant) : AllocatorConfig F where
  mode := .shadow
  paperOnly := true
  targetGrossExposurePct := const 0.35
  hardGrossExposurePct := const 0.50
  cashReservePct := const 0.20
  maxNewOrdersPerRun := 2
  maxNewOrdersPerDay := 5
  maxPerPositionPct := some [(.stock, const 0.02), (.crypto, const 0.01), (.kalshi, const 0.01),
    (.polymarket, const 0.01), (.options, const 0)]
  maxPerMarketPct := some [(.stock, const 0.50), (.crypto, const 0.05), (.kalshi, const 0.10),
    (.polymarket, const 0.05), (.options, const 0)]
  minScoreByMarket := some [(.stock, const 65), (.crypto, const 70), (.kalshi, const 70),
    (.polymarket, const 75), (.options, const 100)]
  minEdgePctByMarket := some [(.stock, const 0.015), (.crypto, const 0.03),
    (.kalshi, const 0.04), (.polymarket, const 0.05), (.options, const 1)]
  minLiquidityUSD := some [(.stock, const 500000), (.crypto, const 100000), (.kalshi, const 1000),
    (.polymarket, const 2500), (.options, inf)]
  maxSpreadPct := some [(.stock, const 0.01), (.crypto, const 0.02), (.kalshi, const 0.08),
    (.polymarket, const 0.08), (.options, const 0)]
  now := some clock

def isZeroAllocatorConfig (cfg : AllocatorConfig F) : Bool :=
  cfg.mode == .unset && !cfg.paperOnly && equal cfg.targetGrossExposurePct zero &&
    equal cfg.hardGrossExposurePct zero && equal cfg.cashReservePct zero &&
    cfg.maxNewOrdersPerRun == 0 && cfg.maxNewOrdersPerDay == 0 && cfg.maxPerPositionPct.isNone &&
    cfg.maxPerMarketPct.isNone && cfg.minScoreByMarket.isNone && cfg.minEdgePctByMarket.isNone &&
    cfg.minLiquidityUSD.isNone && cfg.maxSpreadPct.isNone && cfg.now.isNone

def mergeMarketMap (provided defaults : Option (MarketMap F)) : Option (MarketMap F) :=
  some (provided.getD [] ++ defaults.getD [])

def applyAllocatorDefaults (cfg : AllocatorConfig F) (clock : Instant) : AllocatorConfig F :=
  let defaults : AllocatorConfig F := defaultAllocatorConfig clock
  let orDefault (value default : F) : F := if equal value zero then default else value
  if isZeroAllocatorConfig cfg then defaults
  else
    { mode := if cfg.mode = .unset then defaults.mode else cfg.mode
      paperOnly := cfg.paperOnly
      targetGrossExposurePct := orDefault cfg.targetGrossExposurePct defaults.targetGrossExposurePct
      hardGrossExposurePct := orDefault cfg.hardGrossExposurePct defaults.hardGrossExposurePct
      cashReservePct := orDefault cfg.cashReservePct defaults.cashReservePct
      maxNewOrdersPerRun := if cfg.maxNewOrdersPerRun = 0 then defaults.maxNewOrdersPerRun else cfg.maxNewOrdersPerRun
      maxNewOrdersPerDay := if cfg.maxNewOrdersPerDay = 0 then defaults.maxNewOrdersPerDay else cfg.maxNewOrdersPerDay
      maxPerPositionPct := mergeMarketMap cfg.maxPerPositionPct defaults.maxPerPositionPct
      maxPerMarketPct := mergeMarketMap cfg.maxPerMarketPct defaults.maxPerMarketPct
      minScoreByMarket := mergeMarketMap cfg.minScoreByMarket defaults.minScoreByMarket
      minEdgePctByMarket := mergeMarketMap cfg.minEdgePctByMarket defaults.minEdgePctByMarket
      minLiquidityUSD := mergeMarketMap cfg.minLiquidityUSD defaults.minLiquidityUSD
      maxSpreadPct := mergeMarketMap cfg.maxSpreadPct defaults.maxSpreadPct
      now := if cfg.now.isNone then defaults.now else cfg.now }

def lookupMarket (map : MarketMap F) (market : MarketType) : F :=
  ((map.find? fun entry => entry.1 == market).map Prod.snd).getD zero

def lookup (map : Option (MarketMap F)) (market : MarketType) : F := lookupMarket (map.getD []) market

def isExpired (expiresAt now : Instant) : Bool := !expiresAt.isZero && !now.before expiresAt

def clamp01 (v : F) : F :=
  if isNaN v then zero
  else if less v zero then zero
  else if less (const 1) v then const 1
  else v

def clampScore (v : F) : F :=
  if isNaN v then zero
  else if less v zero then zero
  else if less (const 100) v then const 100
  else v

def ratioScore (value threshold : F) : F :=
  if atMost threshold zero then const 100
  else clamp01 (value / threshold) * const 100

def isOpenTicker (open_ : List String) (ticker : String) : Bool :=
  let ticker := trimSpace ticker
  ticker != "" && (open_.contains ticker || open_.contains (toUpper ticker) || open_.contains (toLower ticker))

def uniqueStrings (values : List String) : List String :=
  (values.map trimSpace).foldl (fun out value => if value = "" then out else keepOnce out value) []

def isInf (v : F) : Bool := equal v inf || equal v (zero - inf)

def liquidityScore (opp : Opportunity F) (liqMin : F) : F :=
  if !isInf liqMin && less zero liqMin then ratioScore opp.liquidityUSD liqMin
  else if less zero opp.liquidityUSD then const 100
  else const 0

def diversificationScore (opp : Opportunity F) (state : PortfolioState F) (marketCapPct : F) : F :=
  let score : F := const 100
  let score := if isOpenTicker state.openTickers opp.ticker then score - const 40 else score
  if less zero state.equity && less zero marketCapPct then
    let pressure := lookupMarket state.marketExposure opp.marketType / state.equity / marketCapPct
    if less (const 0.8) pressure then
      score - const 30 * clamp01 ((pressure - const 0.8) / const 0.2)
    else score
  else score

def freshnessScore (opp : Opportunity F) (now : Instant) : F :=
  if !opp.createdAt.isZero && !opp.expiresAt.isZero && opp.expiresAt.after opp.createdAt && !now.before opp.createdAt then
    let ttl : F := const (opp.expiresAt.sub opp.createdAt)
    let age : F := const (now.sub opp.createdAt)
    clamp01 (const 1 - age / ttl) * const 100
  else const 100

/-- The penalties, each with the reason it is given for. -/
def penalties (opp : Opportunity F) (state : PortfolioState F) (cfg : AllocatorConfig F) : F × List String :=
  let duplicate := isOpenTicker state.openTickers opp.ticker
  let none_ : F × List String := (const 0, [])
  let first := if duplicate then (none_.1 + const 14, ["duplicate_ticker"]) else none_
  let second :=
    if less zero opp.marketCapUSD then
      let base := state.equity * lookup cfg.maxPerPositionPct opp.marketType
      let base := if atMost base zero then opp.proposedNotional else base
      let pressure := clamp01 (base / opp.marketCapUSD)
      if less (const 0.01) pressure then
        (first.1 + const 20 * clamp01 (pressure / const 0.02), first.2 ++ ["near_market_cap"])
      else first
    else first
  if less zero state.buyingPower && less zero state.equity then
    let reserve := state.equity * cfg.cashReservePct
    if less state.buyingPower (reserve * const 1.25) then
      (second.1 + const 8 * clamp01 (const 1 - state.buyingPower / reserve),
        second.2 ++ ["cash_reserve_pressure"])
    else second
  else second

def scoreOpportunity (opp : Opportunity F) (state : PortfolioState F) (cfg : AllocatorConfig F) (now : Instant) :
    F × List String :=
  let market := opp.marketType
  let marketCapPct := lookup cfg.maxPerMarketPct market
  let marketCapPct := if less marketCapPct zero then zero else marketCapPct
  let edgeScore := ratioScore opp.edgePct (lookup cfg.minEdgePctByMarket market)
  let confidenceScore := clamp01 opp.confidence * const 100
  let spreadMax := lookup cfg.maxSpreadPct market
  let spreadScore :=
    if less zero spreadMax then clamp01 (const 1 - opp.spreadPct / spreadMax) * const 100
    else const 100
  let score := edgeScore * const 0.35 + confidenceScore * const 0.20 +
    liquidityScore opp (lookup cfg.minLiquidityUSD market) * const 0.15 + spreadScore * const 0.10 +
    diversificationScore opp state marketCapPct * const 0.10 + freshnessScore opp now * const 0.10
  let (penalty, reasons) := penalties opp state cfg
  (clampScore (score - penalty), uniqueStrings reasons)

def scoreMultiplier (score : F) : F :=
  if atMost (const 85) score then const 1
  else if atMost (const 75) score then const 0.75
  else if atMost (const 65) score then const 0.5
  else const 0

/-- The least of the values, or nothing if one of them is not positive. -/
def minPositive (values : List F) : F :=
  if values.any fun v => atMost v zero || isNaN v then zero
  else
    let minimum := values.foldl (fun minimum v => if less v minimum then v else minimum) inf
    if equal minimum inf then zero else minimum

def sizeOpportunity (opp : Opportunity F) (score : F) (state : PortfolioState F) (cfg : AllocatorConfig F) :
    F × List String :=
  let market := opp.marketType
  let multiplier := scoreMultiplier score
  let base := state.equity * lookup cfg.maxPerPositionPct market * multiplier
  let base := if market = .kalshi ∨ market = .polymarket then Float64.min base (const 25) else base
  let remainingTarget := state.equity * cfg.targetGrossExposurePct - state.grossExposure
  let remainingHard := state.equity * cfg.hardGrossExposurePct - state.grossExposure
  let remainingMarket := state.equity * lookup cfg.maxPerMarketPct market - lookupMarket state.marketExposure market
  let remainingBuyingPower := state.buyingPower - state.equity * cfg.cashReservePct
  if atMost multiplier zero then (zero, ["below_min_score"])
  else if atMost remainingTarget zero then (zero, ["target_gross_exposure_exceeded"])
  else if atMost remainingHard zero then (zero, ["hard_gross_exposure_exceeded"])
  else if atMost remainingMarket zero then (zero, ["market_exposure_exceeded"])
  else if atMost remainingBuyingPower zero then (zero, ["cash_reserve_insufficient"])
  else
    let marketCapCap := opp.marketCapUSD * const 0.02
    let base :=
      if less zero opp.marketCapUSD && less zero marketCapCap then
        Float64.min base marketCapCap
      else base
    let final := minPositive [base, remainingTarget, remainingHard, remainingMarket, remainingBuyingPower]
    if atMost final zero then (zero, ["sizing_zero"])
    else (final, if less final base then ["budget_clamped"] else [])

/-- A new item moves forward past the items it is before. -/
def insertBack {α : Type} (before : α → α → Bool) (sorted : List α) (item : α) : List α :=
  let later := sorted.reverse.takeWhile fun other => before item other
  (sorted.reverse.drop later.length).reverse ++ item :: later.reverse

def sortStable {α : Type} (before : α → α → Bool) (items : List α) : List α := items.foldl (insertBack before) []

def byTicker (left right : Opportunity F) : Bool :=
  if left.ticker ≠ right.ticker then byteOrder (toLower left.ticker) < byteOrder (toLower right.ticker)
  else byteOrder left.id.toText < byteOrder right.id.toText

def rankedBefore (left right : ScoredOpportunity F) : Bool :=
  if !equal left.score right.score then less right.score left.score else byTicker left.opp right.opp

def reportedBefore (left right : ScoredOpportunity F) : Bool :=
  if !equal left.score right.score then less right.score left.score
  else if left.action ≠ right.action then left.action = .shadowSelected
  else byTicker left.opp right.opp

def AllocationSummary.reject (summary : AllocationSummary F) (reasons : List String) : AllocationSummary F :=
  { summary with rejected := summary.rejected + 1, rejectedByReason := summary.rejectedByReason ++ reasons }

/-- What the loop over the opportunities carries: the eligible ones, the decisions made and the counts. -/
structure Screening (F : Type) where
  (eligible decisions : List (ScoredOpportunity F))
  summary : AllocationSummary F

/-- The reasons against an opportunity that is queued and not expired. -/
def screenReasons (opp : Opportunity F) (state : PortfolioState F) (cfg : AllocatorConfig F) (now : Instant) :
    List String :=
  let (score, reasons) := scoreOpportunity opp state cfg now
  let maxSpread := lookup cfg.maxSpreadPct opp.marketType
  reasons ++ (if opp.marketType = .options then ["options_disabled"] else []) ++
    (if less score (lookup cfg.minScoreByMarket opp.marketType) then ["below_min_score"] else []) ++
    (if less opp.edgePct (lookup cfg.minEdgePctByMarket opp.marketType) then ["below_min_edge"] else []) ++
    (if less opp.liquidityUSD (lookup cfg.minLiquidityUSD opp.marketType) then ["below_min_liquidity"] else []) ++
    (if less zero maxSpread && less maxSpread opp.spreadPct then ["above_max_spread"] else [])

def Screening.reject (screening : Screening F) (opp : Opportunity F) (score : F) (reasons : List String) : Screening F :=
  { screening with
    decisions := screening.decisions ++
      [{ opp := opp, score := score, reasons := reasons, notional := zero, action := .shadowRejected }]
    summary := screening.summary.reject reasons }

def screen (state : PortfolioState F) (cfg : AllocatorConfig F) (now : Instant) (sofar : Screening F)
    (opp : Opportunity F) : Screening F :=
  let screening := { sofar with summary := { sofar.summary with evaluated := sofar.summary.evaluated + 1 } }
  if toLower opp.status.text ≠ "queued" then screening.reject opp (const (-1)) ["not_queued"]
  else if isExpired opp.expiresAt now then screening.reject opp (const (-1)) ["expired"]
  else
    let screening := { screening with summary := { screening.summary with eligible := screening.summary.eligible + 1 } }
    let score := (scoreOpportunity opp state cfg now).1
    let reasons := screenReasons opp state cfg now
    if reasons.isEmpty then
      { screening with eligible := screening.eligible ++
          [{ opp := opp, score := score, reasons := [], notional := zero, action := .shadowRejected }] }
    else screening.reject opp score (uniqueStrings reasons)

/-- What the loop over the ranked opportunities carries. -/
structure Selection (F : Type) where
  selectedCount : Nat
  decisions : List (ScoredOpportunity F)
  summary : AllocationSummary F

def limitReasons (state : PortfolioState F) (cfg : AllocatorConfig F) (selectedCount : Nat) : List String :=
  (if 0 < cfg.maxNewOrdersPerRun ∧ cfg.maxNewOrdersPerRun ≤ selectedCount then ["max_orders_per_run"] else []) ++
    (if 0 < cfg.maxNewOrdersPerDay ∧ cfg.maxNewOrdersPerDay ≤ state.newOrdersToday + selectedCount then
      ["max_orders_per_day"] else [])

def Selection.select (selection : Selection F) (item : ScoredOpportunity F) (notional : F) (reasons : List String) :
    Selection F where
  selectedCount := selection.selectedCount + 1
  decisions := selection.decisions ++ [{ item with
    notional := notional
    action := .shadowSelected
    reasons := ["score=" ++ fixed 1 item.score, "multiplier=" ++ fixed 2 (scoreMultiplier item.score)] ++
      reasons }]
  summary := { selection.summary with
    selected := selection.summary.selected + 1
    selectedNotional := selection.summary.selectedNotional + notional
    selectedByMarket := selection.summary.selectedByMarket ++ [item.opp.marketType] }

def Selection.reject (selection : Selection F) (item : ScoredOpportunity F) (reasons : List String) : Selection F :=
  { selection with
    decisions := selection.decisions ++
      [{ item with reasons := uniqueStrings reasons, notional := zero, action := .shadowRejected }]
    summary := selection.summary.reject (uniqueStrings reasons) }

def selectItem (state : PortfolioState F) (cfg : AllocatorConfig F) (sofar : Selection F) (item : ScoredOpportunity F) :
    Selection F :=
  let reasons := limitReasons state cfg sofar.selectedCount
  if reasons.isEmpty then
    let (notional, sizing) := sizeOpportunity item.opp item.score state cfg
    if less zero notional then sofar.select item notional sizing
    else sofar.reject item (sizing ++ ["sizing_zero"])
  else sofar.reject item reasons

def toAllocationDecision (item : ScoredOpportunity F) : AllocationDecision F where
  opportunityID := if item.opp.id = Uuid.nil then none else some item.opp.id
  strategyID := if item.opp.strategyID = Uuid.nil then none else some item.opp.strategyID
  mode := .shadow
  action := item.action
  score := clampScore item.score
  notionalUSD := item.notional
  quantity := zero
  reasons := item.reasons
  createdOrderID := none

def emptySummary : AllocationSummary F := ⟨0, 0, 0, 0, [], [], zero⟩

def allocateShadow (opportunities : List (Opportunity F)) (state : PortfolioState F) (given : AllocatorConfig F)
    (clock : Instant) : AllocationResult F :=
  let cfg := applyAllocatorDefaults given clock
  let now := cfg.now.getD clock
  let screening := opportunities.foldl (screen state cfg now) ⟨[], [], emptySummary⟩
  let ranked := sortStable rankedBefore screening.eligible
  let selection := ranked.foldl (selectItem state cfg) ⟨0, screening.decisions, screening.summary⟩
  { decisions := (sortStable reportedBefore selection.decisions).map toAllocationDecision
    summary := selection.summary }

end

end Augr.Portfolio
