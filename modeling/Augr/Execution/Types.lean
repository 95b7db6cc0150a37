import Augr.Execution.Tickers
import Augr.Foundation.Instant
import Mathlib.Data.Rat.Floor

/-! Orders, positions and plans, with exact amounts.

Amounts are rational numbers, so the checks of the program for numbers that are not finite have nothing to find. -/

set_option autoImplicit false

namespace Augr.Execution

open Foundation Domain

abbrev Amount := ℚ

inductive OrderType where
  | market
  | limit
  | stop
  | stopLimit
  | trailingStop
  | unrecognized (text : String)
  deriving DecidableEq

inductive OrderStatus where
  | pending
  | submitted
  | partially
  | filled
  | cancelled
  | rejected
  | unrecognized (text : String)
  deriving DecidableEq

inductive PositionSide where
  | long
  | short
  | unrecognized (text : String)
  deriving DecidableEq

inductive AssetClass where
  | equity
  | option
  | unrecognized (text : String)
  deriving DecidableEq

inductive PositionIntent where
  | buyToOpen
  | buyToClose
  | sellToOpen
  | sellToClose
  | unrecognized (text : String)
  deriving DecidableEq

structure Order where
  id : Uuid
  strategyID : Option Uuid
  (externalID ticker : String)
  marketType : MarketType
  side : OrderSide
  orderType : OrderType
  quantity : Amount
  (limitPrice stopPrice referencePrice : Option Amount)
  filledQuantity : Amount
  filledAvgPrice : Option Amount
  status : OrderStatus
  (submittedAt filledAt : Option Instant)
  assetClass : AssetClass
  contractMultiplier : Amount
  positionIntent : Option PositionIntent
  predictionSide : String
  deriving DecidableEq

structure Position where
  id : Uuid
  strategyID : Option Uuid
  marketType : MarketType
  ticker : String
  side : PositionSide
  (quantity avgEntry : Amount)
  currentPrice : Option Amount
  realizedPnL : Amount
  openedAt : Instant
  closedAt : Option Instant
  deriving DecidableEq

def Position.isOpen (position : Position) : Bool := position.closedAt = none && 0 < position.quantity

/-- The order manager, the paper broker and the store each have this function. -/
def realizedPnL (side : PositionSide) (avgEntry fillPrice quantity : Amount) : Amount :=
  if side = .long then (fillPrice - avgEntry) * quantity else (avgEntry - fillPrice) * quantity

structure Balance where
  (cash buyingPower equity : Amount)
  deriving DecidableEq

structure PositionFilter where
  ticker : String
  side : PositionSide
  deriving DecidableEq

def riskSnapshotPositionLimit : Nat := 10000

/-- A text that is not given does not restrict the query. -/
def PositionFilter.admits (filter : PositionFilter) (strategyID : Uuid) (position : Position) : Bool :=
  position.strategyID = some strategyID && (filter.ticker = "" || position.ticker = filter.ticker) &&
    (filter.side = .unrecognized "" || position.side = filter.side)

/-- The positions of a strategy, the latest first; the rows are given in that order. -/
def getByStrategy (strategyID : Uuid) (filter : PositionFilter) (limit : Nat) (rows : List Position) : List Position :=
  (rows.filter (filter.admits strategyID)).take limit

def openLongFilter (ticker : String) : Outcome PositionFilter :=
  let ticker := Text.trimSpace ticker
  if ticker = "" then .error (.errorf "order_manager: open long ownership check requires ticker" [])
  else .ok ⟨ticker, .long⟩

def openPredictionFilter (slug side : String) : Outcome PositionFilter :=
  let slug := Text.trimSpace slug
  if slug = "" then .error (.errorf "order_manager: prediction exit ownership check requires ticker" [])
  else .ok ⟨polymarketPositionTicker slug side, .long⟩

def exitFilter (marketType : MarketType) (ticker side : String) : Outcome PositionFilter :=
  if isPredictionMarket marketType then openPredictionFilter ticker side else openLongFilter ticker

end Augr.Execution
