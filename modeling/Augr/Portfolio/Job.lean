import Augr.Foundation.Program
import Augr.Portfolio.Allocator

/-! One run of the portfolio allocator job, as the calls it makes on the repositories and the order processor. -/

set_option autoImplicit false

namespace Augr.Portfolio

open Foundation Domain Text Float64
open scoped Foundation.Float64

section
variable (F : Type)

structure Position where
  marketType : MarketType
  ticker : String
  (quantity avgEntry : F)
  currentPrice : Option F

structure Balance where
  (equity buyingPower : F)

inductive PipelineStatus where
  | completed
  | other (text : String)
  deriving DecidableEq

structure PipelineRun where
  status : PipelineStatus
  strategyID : Uuid
  signal : PipelineSignal
  deriving DecidableEq

structure Strategy where
  id : Uuid
  marketType : MarketType
  isPaper : Bool
  status : String
  deriving DecidableEq

structure TradingPlan where
  action : PipelineSignal
  marketType : MarketType
  (ticker entryType : String)
  (entryPrice positionSize stopLoss confidence : F)
  (rationale side : String)

structure PaperOrderRequest where
  signal : PipelineSignal
  confidence : F
  plan : TradingPlan F
  (strategyID runID : Uuid)
  notionalUSD : F

structure PaperOrderResult where
  orderID : Option Uuid
  skipped : Bool
  reason : String

/-- A lookup that finds nothing answers with no value. An order names the opportunity it is made for, which the
processor does not see. -/
inductive Request where
  | now
  | newUUID
  | contextErr
  | expireQueuedBefore (before : Instant)
  | listQueuedForAllocation (asOf : Instant)
  | listAllOpenPositions
  | getAccountBalance
  | getRun (id : Uuid)
  | updateStatus (id : Uuid) (status : OpportunityStatus) (rejectReason : String)
  | getStrategy (id : Uuid)
  | processPaperOrder (opportunity : Uuid) (request : PaperOrderRequest F)
  | createDecision (decision : AllocationDecision F)

def Request.Answer : Request F → Type
  | .now => Instant
  | .newUUID => Uuid
  | .contextErr => Option Fault
  | .expireQueuedBefore _ => Outcome Nat
  | .listQueuedForAllocation _ => Outcome (List (Opportunity F))
  | .listAllOpenPositions => Outcome (List (Position F))
  | .getAccountBalance => Outcome (Balance F)
  | .getRun _ => Outcome (Option PipelineRun)
  | .updateStatus .. => Outcome Unit
  | .getStrategy _ => Outcome (Option Strategy)
  | .processPaperOrder .. => Outcome PaperOrderResult
  | .createDecision _ => Outcome Unit

def interface : Interface := ⟨Request F, Request.Answer F⟩

structure Deps where
  (opportunityRepo allocationDecisionRepo runRepo positionRepo accountBalance strategyRepo : Bool)
  paperProcessor : Bool
  mode : AllocatorMode

structure JobSummary where
  (expired queuedLoaded evaluated eligible selected rejected executed executionRejected : Nat)
  (sourceRejected persistedDecisions : Nat)
  warnings : List String

end

section
variable {F : Type} [Float64 F]

def ask (request : Request F) : Program (interface F) (request.Answer F) := Program.ask (i := interface F) request

/-- Make the call, and stop with its fault under the given format. -/
def attempt {α : Type} (format : String) (request : Request F) (same : Request.Answer F request = Outcome α) :
    Script (interface F) α :=
  .mk do
    let answer ← ask request
    pure (wrapping format [] (cast same answer))

def Deps.allocatorMode (deps : Deps) : AllocatorMode := if deps.mode = .unset then .shadow else deps.mode

def positionPrice (position : Position F) : Option F :=
  if position.currentPrice.all fun price => atMost price zero then
    if less zero position.avgEntry then some position.avgEntry else position.currentPrice
  else position.currentPrice

def portfolioPositionExposure (position : Position F) : F :=
  match positionPrice position with
  | none => zero
  | some price =>
      if atMost price zero || atMost position.quantity zero then zero
      else position.quantity * price

def addExposure (exposures : MarketMap F) (market : MarketType) (exposure : F) : MarketMap F :=
  (market, lookupMarket exposures market + exposure) :: exposures

def withPosition (state : PortfolioState F) (position : Position F) : PortfolioState F :=
  let exposure := portfolioPositionExposure position
  let ticker := trimSpace position.ticker
  { state with
    grossExposure := state.grossExposure + exposure
    marketExposure := addExposure state.marketExposure position.marketType exposure
    openTickers :=
      if ticker = "" then state.openTickers
      else state.openTickers ++ [ticker, toUpper ticker, toLower ticker] }

def maxFloat (a b : F) : F := if less b a then a else b

def openPositions (deps : Deps) : Script (interface F) (List (Position F) × List String) :=
  if deps.positionRepo then do
    let items ← attempt "portfolio_allocator: load open positions: %w" .listAllOpenPositions rfl
    pure (items, [])
  else if deps.allocatorMode = .paper then throw (.errorf "portfolio_allocator: paper mode requires position repository" [])
  else pure ([], ["positions_unavailable"])

/-- The number of orders already made today is not set. -/
def buildPortfolioAllocatorState (deps : Deps) : Script (interface F) (PortfolioState F × List String) := do
  let (positions, warnings) ← openPositions deps
  let start : PortfolioState F := ⟨Float64.zero, Float64.zero, Float64.zero, [], [], 0⟩
  let state := positions.foldl withPosition start
  if deps.allocatorMode = .paper then
    if !deps.accountBalance then throw (.errorf "portfolio_allocator: paper mode requires account balance source" [])
    else
      let balance : Balance F ← attempt "portfolio_allocator: load paper account balance: %w" .getAccountBalance rfl
      if atMost balance.equity Float64.zero || less balance.buyingPower Float64.zero then
        throw (.errorf "portfolio_allocator: invalid paper account balance: equity=%g buying_power=%g" [])
      else pure ({ state with equity := balance.equity, buyingPower := balance.buyingPower }, warnings)
  else
    let hundred : F := const 100000
    pure ({ state with equity := hundred, buyingPower := maxFloat (hundred - state.grossExposure) Float64.zero },
      warnings ++ ["paper_account_balance_fallback"])

def runReason (opportunity : Opportunity F) : Option PipelineRun → Option String
  | none => some "source_run_missing"
  | some run =>
      if run.status ≠ .completed then some "source_run_not_completed"
      else if run.strategyID ≠ opportunity.strategyID then some "source_strategy_mismatch"
      else if run.signal ≠ opportunity.signal ∨ (run.signal ≠ .buy ∧ run.signal ≠ .sell) then
        some "source_signal_mismatch"
      else none

def sourceReason (opportunity : Opportunity F) : Script (interface F) (Option String) :=
  match opportunity.pipelineRunID with
  | none => pure (some "source_run_missing")
  | some id =>
      if id = Uuid.nil then pure (some "source_run_missing")
      else do
        let run : Option PipelineRun ← attempt "portfolio_allocator: load source run: %w" (.getRun id) rfl
        pure (runReason opportunity run)

def sourceRejection (mode : AllocatorMode) (opportunity : Opportunity F) (reason : String) : AllocationDecision F where
  opportunityID := some opportunity.id
  strategyID := some opportunity.strategyID
  mode := mode
  action := .shadowRejected
  score := const (-1)
  notionalUSD := zero
  quantity := zero
  reasons := [reason]
  createdOrderID := none

def validateSources (mode : AllocatorMode) : List (Opportunity F) →
    Script (interface F) (List (Opportunity F) × List (AllocationDecision F))
  | [] => pure ([], [])
  | opportunity :: rest => do
      let reason ← sourceReason opportunity
      let (valid, rejected) ← validateSources mode rest
      match reason with
      | none => pure (opportunity :: valid, rejected)
      | some reason => pure (valid, sourceRejection mode opportunity reason :: rejected)

def validatePortfolioOpportunitySources (deps : Deps) (opportunities : List (Opportunity F)) :
    Script (interface F) (List (Opportunity F) × List (AllocationDecision F)) :=
  if opportunities.isEmpty then pure ([], [])
  else if !deps.runRepo then
    if deps.allocatorMode = .paper then throw (.errorf "portfolio_allocator: paper mode requires pipeline run repository" [])
    else pure (opportunities, [])
  else validateSources deps.allocatorMode opportunities

structure PaperExecutionResult where
  action : AllocationDecisionAction
  reason : String
  orderID : Option Uuid

def paperStopLoss (signal : PipelineSignal) (entryPrice maxLossPct : F) : F :=
  if signal = .sell then entryPrice * (const 1 + maxLossPct) else entryPrice * (const 1 - maxLossPct)

def paperPlanSide (opportunity : Opportunity F) : String :=
  let predictionSide := toUpper (trimSpace opportunity.predictionSide)
  if predictionSide ≠ "" then predictionSide else toUpper (trimSpace opportunity.side.text)

def joined : List String → String
  | [] => ""
  | [reason] => reason
  | reason :: rest => reason ++ "; " ++ joined rest

def tradingPlan (opportunity : Opportunity F) (decision : AllocationDecision F) : TradingPlan F where
  action := opportunity.signal
  marketType := opportunity.marketType.normalize
  ticker := trimSpace opportunity.ticker
  entryType := "market"
  entryPrice := opportunity.entryPrice
  positionSize := decision.notionalUSD / opportunity.entryPrice
  stopLoss := paperStopLoss opportunity.signal opportunity.entryPrice opportunity.maxLossPct
  confidence := clamp01 opportunity.confidence
  rationale := trimSpace (joined decision.reasons)
  side := paperPlanSide opportunity

def orderReason (deps : Deps) (opportunity : Opportunity F) (decision : AllocationDecision F) (strategy : Strategy) :
    Option String :=
  if !deps.paperProcessor then some "missing_paper_processor"
  else if decision.action ≠ .shadowSelected ∧ decision.action ≠ .paperOrderIntent then some "invalid_decision_action"
  else if !strategy.isPaper then some "strategy_not_paper"
  else if toLower (trimSpace strategy.status) ≠ strategyStatusActive then some "strategy_inactive"
  else if opportunity.strategyID ≠ strategy.id then some "strategy_mismatch"
  else if opportunity.marketType.normalize ≠ strategy.marketType.normalize then some "market_type_mismatch"
  else if opportunity.signal ≠ .buy ∧ opportunity.signal ≠ .sell then some "unsupported_signal"
  else if atMost decision.notionalUSD zero then some "missing_notional_usd"
  else if atMost opportunity.entryPrice zero then some "missing_entry_price"
  else if atMost opportunity.maxLossPct zero then some "missing_stop_loss"
  else if atMost (paperStopLoss opportunity.signal opportunity.entryPrice opportunity.maxLossPct) zero then
    some "missing_stop_loss"
  else none

/-- The error of the processor is part of the reason; its text is not kept. -/
def orderOutcome : Outcome PaperOrderResult → PaperExecutionResult
  | .error _ => ⟨.executionRejected, "processor_error:", none⟩
  | .ok result =>
      if result.skipped ∨ result.orderID.isNone then
        ⟨.executionRejected,
          if trimSpace result.reason ≠ "" then trimSpace result.reason else "paper_order_not_created", none⟩
      else ⟨.executed, "", result.orderID⟩

def executePaperDecision (deps : Deps) (opportunity : Opportunity F) (decision : AllocationDecision F)
    (strategy : Strategy) : Program (interface F) (Option PaperExecutionResult) := do
  let stopped : Option Fault ← ask .contextErr
  if stopped.isSome then pure none
  else
    match orderReason deps opportunity decision strategy with
    | some reason => pure (some ⟨.executionRejected, reason, none⟩)
    | none => do
        let runID : Uuid ← ask .newUUID
        let request : PaperOrderRequest F :=
          { signal := opportunity.signal
            confidence := clamp01 opportunity.confidence
            plan := tradingPlan opportunity decision
            strategyID := strategy.id
            runID := runID
            notionalUSD := decision.notionalUSD }
        let answer : Outcome PaperOrderResult ← ask (.processPaperOrder opportunity.id request)
        pure (some (orderOutcome answer))

def paperAllocatorRejected (decision : AllocationDecision F) (reason : String) : AllocationDecision F :=
  { decision with
    action := .executionRejected
    reasons := if reason ≠ "" then decision.reasons ++ [reason] else decision.reasons }

def applyResult (decision : AllocationDecision F) : Option PaperExecutionResult → AllocationDecision F
  | none => paperAllocatorRejected decision "paper_execution_error"
  | some result =>
      if result.action = .executionRejected then paperAllocatorRejected decision result.reason
      else { decision with
        action := result.action
        createdOrderID := result.orderID
        reasons := if result.reason ≠ "" then decision.reasons ++ [result.reason] else decision.reasons }

def executePaperAllocatorDecision (deps : Deps) (opportunities : List (Opportunity F)) (given : AllocationDecision F) :
    Program (interface F) (AllocationDecision F) :=
  let decision := { given with mode := AllocatorMode.paper, action := .paperOrderIntent }
  match decision.opportunityID with
  | none => pure (paperAllocatorRejected decision "missing_opportunity_id")
  | some id =>
      match latest Opportunity.id opportunities id with
      | none => pure (paperAllocatorRejected decision "missing_opportunity")
      | some opportunity =>
          if !deps.strategyRepo then pure (paperAllocatorRejected decision "missing_strategy_repo")
          else do
            let found : Outcome (Option Strategy) ← ask (.getStrategy opportunity.strategyID)
            match found with
            | .ok (some strategy) => do
                let result ← executePaperDecision deps opportunity decision strategy
                pure (applyResult decision result)
            | _ => pure (paperAllocatorRejected decision "missing_strategy")

def preclaimPaperOpportunity (decision : AllocationDecision F) : Script (interface F) Unit :=
  match decision.opportunityID with
  | none => throw (.errorf
      "portfolio_allocator: preclaim opportunity selected: missing opportunity repo or opportunity id" [])
  | some id => attempt "portfolio_allocator: preclaim opportunity selected: %w" (.updateStatus id .selected "") rfl

def updateOpportunityStatus (decision : AllocationDecision F) : Script (interface F) Unit :=
  match decision.opportunityID with
  | none => pure ()
  | some id =>
      match decision.action with
      | .shadowSelected => attempt "portfolio_allocator: mark opportunity selected: %w" (.updateStatus id .selected "") rfl
      | .executed => attempt "portfolio_allocator: mark opportunity executed: %w" (.updateStatus id .executed "") rfl
      | .shadowRejected | .executionRejected =>
          attempt "portfolio_allocator: mark opportunity rejected: %w"
            (.updateStatus id .rejected (joined decision.reasons)) rfl
      | .paperOrderIntent => pure ()

def recordDecision (decision : AllocationDecision F) : Script (interface F) (AllocationDecision F) := do
  attempt "portfolio_allocator: persist decision: %w" (.createDecision decision) rfl
  updateOpportunityStatus decision
  pure decision

def settleDecision (deps : Deps) (opportunities : List (Opportunity F)) (given : AllocationDecision F) :
    Script (interface F) (AllocationDecision F) := do
  let decision := { given with mode := deps.allocatorMode }
  if deps.allocatorMode = .paper ∧ decision.action = .shadowSelected then do
    preclaimPaperOpportunity decision
    let executed ← ExceptT.lift (executePaperAllocatorDecision deps opportunities decision)
    recordDecision executed
  else recordDecision decision

def settleDecisions (deps : Deps) (opportunities : List (Opportunity F)) : List (AllocationDecision F) →
    Script (interface F) (List (AllocationDecision F))
  | [] => pure []
  | given :: rest => do
      let decision ← settleDecision deps opportunities given
      let later ← settleDecisions deps opportunities rest
      pure (decision :: later)

def countDecisionActions (decisions : List (AllocationDecision F)) (action : AllocationDecisionAction) : Nat :=
  decisions.countP fun decision => decision.action == action

def runPortfolioAllocator (deps : Deps) : Script (interface F) JobSummary := do
  if !deps.opportunityRepo || !deps.allocationDecisionRepo then
    throw (.errorf "portfolio_allocator: repositories not configured" [])
  else
    let asOf : Instant ← ExceptT.lift (ask .now)
    let expired : Nat ← attempt "portfolio_allocator: expire opportunities: %w" (.expireQueuedBefore asOf.toUtc) rfl
    let opportunities : List (Opportunity F) ←
      attempt "portfolio_allocator: snapshot opportunities: %w" (.listQueuedForAllocation asOf.toUtc) rfl
    let (state, warnings) ← buildPortfolioAllocatorState deps
    let (valid, sourceRejected) ← validatePortfolioOpportunitySources deps opportunities
    let clock : Instant ← ExceptT.lift (ask .now)
    let result := allocateShadow valid state { defaultAllocatorConfig clock with mode := deps.allocatorMode } clock
    let decisions ← settleDecisions deps opportunities (sourceRejected ++ result.decisions)
    pure
      { expired := expired
        queuedLoaded := opportunities.length
        evaluated := result.summary.evaluated + sourceRejected.length
        eligible := result.summary.eligible
        selected := result.summary.selected
        rejected := result.summary.rejected + sourceRejected.length
        executed := countDecisionActions decisions .executed
        executionRejected := countDecisionActions decisions .executionRejected
        sourceRejected := sourceRejected.length
        persistedDecisions := decisions.length
        warnings := warnings }

end

end Augr.Portfolio
