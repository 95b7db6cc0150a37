import Augr.Execution.Types
import Augr.Foundation.Keyed

/-! The store of paper fills: what one committed fill does to orders, positions and trades. -/

set_option autoImplicit false

namespace Augr.Execution

open Foundation Domain

structure Trade where
  (id orderID : Uuid)
  positionID : Option Uuid
  ticker : String
  side : OrderSide
  (quantity price : Amount)
  executedAt : Instant
  deriving DecidableEq

structure FillRecord where
  idempotencyKey : String
  orderID : Uuid
  positionID : Option Uuid
  tradeID : Uuid
  (fillQuantity fillPrice : Amount)
  deriving DecidableEq

structure FinancialStore where
  orders : List Order
  positions : List Position
  trades : List Trade
  fills : List FillRecord
  deriving DecidableEq

structure OrderFillInput where
  idempotencyKey : String
  order : Order
  (quantity executionPrice : Amount)
  now : Instant
  deriving DecidableEq

structure OrderFillResult where
  orderID : Uuid
  positionID : Option Uuid
  tradeID : Uuid
  replayed : Bool
  deriving DecidableEq

/-- The fill that the order manager hands to the store when the broker reports the whole order as filled. -/
def fillInput (order : Order) (entryPrice : Amount) (now : Instant) : OrderFillInput where
  idempotencyKey := "paper_fill:v1:" ++ order.id.toText ++ ":full"
  order := { order with filledQuantity := order.quantity, filledAt := some now }
  quantity := order.quantity
  executionPrice := order.filledAvgPrice.getD entryPrice
  now := now

/-- Equal up to eight places behind the point. -/
def numeric8Equal (left right : Amount) : Bool :=
  let round (value : Amount) : Int := if value < 0 then -⌊-value * 10 ^ 8 + 1 / 2⌋ else ⌊value * 10 ^ 8 + 1 / 2⌋
  round left = round right

def OrderFillInput.isInvalid (input : OrderFillInput) : Bool :=
  input.order.id = Uuid.nil || input.order.strategyID = none || input.order.ticker = "" ||
    input.order.marketType = .unrecognized "" || input.idempotencyKey = "" || input.quantity ≤ 0 || input.executionPrice < 0 ||
    input.order.quantity ≤ 0 || input.order.side = .unrecognized "" || input.order.status = .unrecognized "" || input.now.isZero

def isFillCompatible (status : OrderStatus) : Bool := status = .submitted || status = .partially || status = .filled

def fillPriceOf (input : OrderFillInput) : Amount :=
  if input.executionPrice = 0 then input.order.filledAvgPrice.getD 0 else input.executionPrice

def fillMarketType (order : Order) : MarketType :=
  let marketType := order.marketType.normalize
  if marketType = .unrecognized "" then .stock else marketType

def positionTickerOf (order : Order) : String :=
  normalizedPositionTicker (fillMarketType order) order.ticker order.predictionSide

def opensBefore (first second : Position) : Prop :=
  first.openedAt.nanos < second.openedAt.nanos ∨
    (first.openedAt.nanos = second.openedAt.nanos ∧ first.id.bytes ≤ second.id.bytes)

instance : DecidableRel opensBefore := fun _ _ => inferInstanceAs (Decidable (_ ∨ _))

def closable (strategyID : Option Uuid) (ticker : String) (position : Position) : Bool :=
  strategyID.isSome && position.strategyID = strategyID && position.ticker = ticker && position.side = .long && position.isOpen

def reduced (position : Position) (fillPrice consumed : Amount) (now : Instant) : Position :=
  { position with
    currentPrice := some fillPrice
    realizedPnL := position.realizedPnL + realizedPnL position.side position.avgEntry fillPrice consumed
    quantity := position.quantity - consumed
    closedAt := if position.quantity - consumed = 0 then some now else position.closedAt }

/-- The positions that a sale changes, in turn, and what of it is left. -/
def consume (fillPrice : Amount) (now : Instant) : List Position → Amount → List Position × Amount
  | [], remaining => ([], remaining)
  | position :: rest, remaining =>
      if remaining ≤ 0 then ([], remaining)
      else
        let consumed := min position.quantity remaining
        let (updated, left) := consume fillPrice now rest (remaining - consumed)
        (reduced position fillPrice consumed now :: updated, left)

def writePosition (updated : Position) (positions : List Position) : List Position := replaceRow Position.id updated positions

/-- The position rows after a sale, and the position that the trade is linked to. -/
def sellPositions (input : OrderFillInput) (positions : List Position) : Outcome (List Position × Option Uuid) :=
  let matched := (positions.filter (closable input.order.strategyID (positionTickerOf input.order))).insertionSort opensBefore
  let available := matched.foldl (fun total position => total + position.quantity) 0
  if matched = [] then .error (.errorf "postgres: sell fill has no open position for %s" [positionTickerOf input.order])
  else if available < input.quantity then
    .error (.errorf "postgres: polymarket sell fill quantity %.8f exceeds open long quantity %.8f for %s" [])
  else
    let (updated, left) := consume (fillPriceOf input) input.now.toUtc matched input.quantity
    if 0 < left then .error (.errorf "postgres: sell fill did not consume enough quantity" [])
    else .ok (updated.foldl (fun rows position => writePosition position rows) positions,
      match matched with
      | [position] => some position.id
      | _ => none)

def boughtPosition (input : OrderFillInput) (id : Uuid) : Position where
  id := id
  strategyID := input.order.strategyID
  marketType := fillMarketType input.order
  ticker := positionTickerOf input.order
  side := .long
  quantity := input.quantity
  avgEntry := fillPriceOf input
  currentPrice := none
  realizedPnL := 0
  openedAt := input.now.toUtc
  closedAt := none

def fillPositions (input : OrderFillInput) (positionID : Uuid) (positions : List Position) :
    Outcome (List Position × Option Uuid) :=
  if input.order.side = .sell then sellPositions input positions
  else .ok (positions ++ [boughtPosition input positionID], some positionID)

def fillRow (input : OrderFillInput) (row : Order) : Order :=
  if row.id = input.order.id then
    { row with
      filledQuantity := input.quantity
      filledAvgPrice := some (fillPriceOf input)
      status := .filled
      filledAt := some input.now.toUtc }
  else row

/-- One fill, committed or refused as a whole; the identifiers of a new position and of the trade are given. -/
def applyOrderFill (store : FinancialStore) (input : OrderFillInput) (positionID tradeID : Uuid) :
    Outcome (OrderFillResult × FinancialStore) := do
  failIf input.isInvalid (.errorf "postgres: invalid order fill input" [])
  match store.fills.find? fun record => record.idempotencyKey = input.idempotencyKey with
  | some record =>
      failIf (record.orderID ≠ input.order.id || !numeric8Equal record.fillQuantity input.quantity ||
          !numeric8Equal record.fillPrice input.executionPrice)
        (.errorf "postgres: idempotency key %s reused with mismatched payload" [input.idempotencyKey])
      pure (⟨record.orderID, record.positionID, record.tradeID, true⟩, store)
  | none => do
      let row ← required (.errorf "postgres: lock order: %w" []) (store.orders.find? fun row => row.id = input.order.id)
      failIf (!isFillCompatible row.status) (.errorf "postgres: order %s status %s not fill-compatible" [input.order.id.toText])
      let (positions, linked) ← fillPositions input positionID store.positions
      let trade : Trade := ⟨tradeID, input.order.id, linked, input.order.ticker, input.order.side, input.quantity,
        fillPriceOf input, input.now.toUtc⟩
      pure (⟨input.order.id, linked, tradeID, false⟩,
        { orders := store.orders.map (fillRow input)
          positions := positions
          trades := store.trades ++ [trade]
          fills := store.fills ++
            [⟨input.idempotencyKey, input.order.id, linked, tradeID, input.quantity, input.executionPrice⟩] })

theorem applyOrderFill_ok {store last : FinancialStore} {input : OrderFillInput} {positionID tradeID : Uuid}
    {result : OrderFillResult} (applied : applyOrderFill store input positionID tradeID = .ok (result, last)) :
    input.isInvalid = false ∧ ((result.replayed = true ∧ last = store) ∨
      (result.replayed = false ∧ last.orders = store.orders.map (fillRow input) ∧
        (∃ row ∈ store.orders, row.id = input.order.id ∧ isFillCompatible row.status = true) ∧
        ∃ linked, fillPositions input positionID store.positions = .ok (last.positions, linked))) := by
  rw [applyOrderFill, failIf_bind_ok_iff] at applied
  obtain ⟨valid, applied⟩ := applied
  refine ⟨valid, ?_⟩
  split at applied
  · rw [failIf_bind_ok_iff] at applied
    cases applied.2
    exact .inl ⟨rfl, rfl⟩
  · rw [bind_ok_iff] at applied
    obtain ⟨row, found, applied⟩ := applied
    rw [failIf_bind_ok_iff, bind_ok_iff] at applied
    obtain ⟨compatible, ⟨positions, linked⟩, filled, applied⟩ := applied
    cases applied
    cases located : store.orders.find? (fun row => row.id = input.order.id) with
    | none =>
      rw [located] at found
      cases found
    | some other =>
      rw [located] at found
      cases found
      have named : row.id = input.order.id := by simpa using List.find?_some located
      refine .inr ⟨rfl, rfl, ⟨row, List.mem_of_find?_eq_some located, named, by simpa using compatible⟩, linked, filled⟩

end Augr.Execution
