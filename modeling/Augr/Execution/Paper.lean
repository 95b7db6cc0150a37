import Augr.Execution.Types

/-! The paper broker: an account in memory that fills what it can at once. -/

set_option autoImplicit false

namespace Augr.Execution

open Foundation Domain

namespace Paper

structure Broker where
  orders : List (String × Order)
  positions : List (String × Position)
  optionSpreads : List (String × Amount)
  balance : Balance
  (slippageBps feePct : Amount)
  nextOrderID : Nat
  deriving DecidableEq

def put {α : Type} (key : String) (value : α) (entries : List (String × α)) : List (String × α) :=
  (key, value) :: entries.filter fun entry => entry.1 ≠ key

def delete {α : Type} (key : String) (entries : List (String × α)) : List (String × α) :=
  entries.filter fun entry => entry.1 ≠ key

def minFillPrice : Amount := 1 / 10 ^ 9

def positive (price : Option Amount) : Option Amount := price.filter fun price => 0 < price

def resolveReferencePrice (order : Order) : Option Amount :=
  match positive order.referencePrice with
  | some price => some price
  | none =>
      match positive order.filledAvgPrice with
      | some price => some price
      | none =>
          match (if order.orderType = .market then positive order.limitPrice else none) with
          | some price => some price
          | none => positive order.stopPrice

def limitCrossed (side : OrderSide) (referencePrice limitPrice : Amount) : Bool :=
  if side = .buy then referencePrice ≤ limitPrice else limitPrice ≤ referencePrice

def applySlippage (price : Amount) (side : OrderSide) (slippageBps : Amount) : Amount :=
  let slippageFraction := slippageBps / 10000
  if side = .buy then price * (1 + slippageFraction) else max (price * (1 - slippageFraction)) minFillPrice

namespace Broker

variable (b : Broker)

/-- The price, or none for an order that rests. -/
def simulateFillPrice (order : Order) : Outcome (Option Amount) :=
  match order.orderType with
  | .market => do
      let referencePrice ← required (.errorf "paper: executable reference price is required for market order" [])
        (resolveReferencePrice order)
      pure (some (applySlippage referencePrice order.side b.slippageBps))
  | .limit => do
      let limitPrice ← required (.errorf "paper: limit order requires limit price" []) order.limitPrice
      failIf (limitPrice ≤ 0) (.errorf "paper: limit price must be greater than zero" [])
      match resolveReferencePrice order with
      | none => pure none
      | some referencePrice =>
          if !limitCrossed order.side referencePrice limitPrice then pure none
          else
            let slippedPrice := applySlippage referencePrice order.side b.slippageBps
            pure (some (if order.side = .buy then min slippedPrice limitPrice else max slippedPrice limitPrice))
  | _ => .error (.errorf "paper: unsupported order type %q" [])

def markToMarketEquity : Amount :=
  b.positions.foldl (fun equity entry =>
    let price := entry.2.currentPrice.getD entry.2.avgEntry
    if entry.2.side = .long then equity + entry.2.quantity * price else equity - entry.2.quantity * price) b.balance.cash

end Broker

def sideToPositionSide (side : OrderSide) : PositionSide := if side = .sell then .short else .long

/-- The position that a fill opens, with the identifier that is made for it. -/
def opened (id : Uuid) (ticker : String) (marketType : MarketType) (side : PositionSide) (quantity fillPrice realized : Amount)
    (filledAt : Instant) : Position where
  id := id
  strategyID := none
  marketType := marketType
  ticker := ticker
  side := side
  quantity := quantity
  avgEntry := fillPrice
  currentPrice := some fillPrice
  realizedPnL := realized
  openedAt := filledAt
  closedAt := none

def applyFill (id : Uuid) (ticker : String) (marketType : MarketType) (side : OrderSide) (quantity fillPrice : Amount)
    (filledAt : Instant) (positions : List (String × Position)) : List (String × Position) :=
  let fillSide := sideToPositionSide side
  match positions.lookup ticker with
  | none => put ticker (opened id ticker marketType fillSide quantity fillPrice 0 filledAt) positions
  | some position =>
      if position.side = fillSide then
        let totalQuantity := position.quantity + quantity
        put ticker { position with
          currentPrice := some fillPrice
          avgEntry := (position.avgEntry * position.quantity + fillPrice * quantity) / totalQuantity
          quantity := totalQuantity } positions
      else
        let closedQuantity := min position.quantity quantity
        let realized := position.realizedPnL + realizedPnL position.side position.avgEntry fillPrice closedQuantity
        if quantity < position.quantity then
          put ticker { position with
            currentPrice := some fillPrice
            realizedPnL := realized
            quantity := position.quantity - quantity } positions
        else if position.quantity = quantity then delete ticker positions
        else
          put ticker (opened id ticker marketType fillSide (quantity - position.quantity) fillPrice realized filledAt) positions

def externalID (sequence : Nat) : String := "paper-" ++ Text.itoa sequence

def validateOrder (order : Order) : Outcome Unit :=
  match order.side with
  | .unrecognized side => .error (.errorf "paper: unsupported order side %q" [side])
  | _ => failIf (order.quantity ≤ 0) (.errorf "paper: order quantity must be greater than zero" [])

/-- The order as the broker changes it, and the account, when it is accepted or refused for its price or the cash. -/
structure Submitted where
  broker : Broker
  order : Order
  outcome : Outcome String

namespace Broker

/-- The broker and the order after the call, also where it returns an error. The context is live. -/
def submitOrder (b : Broker) (order : Order) (now : Instant) (id : Uuid) : Submitted :=
  match brokerTicker order.marketType order.ticker order.predictionSide with
  | .error fault => ⟨b, order, .error fault⟩
  | .ok (baseTicker, normalizedSide, positionTicker) =>
      let order := { order with predictionSide := normalizedSide }
      match validateOrder order with
      | .error fault => ⟨b, order, .error fault⟩
      | .ok () =>
          let external := externalID (b.nextOrderID + 1)
          let b := { b with nextOrderID := b.nextOrderID + 1 }
          let order := { order with
            externalID := external
            status := .submitted
            submittedAt := some now
            ticker := baseTicker
            filledQuantity := 0
            filledAvgPrice := none
            filledAt := none }
          let rejected := { order with status := .rejected }
          match b.simulateFillPrice order with
          | .error fault => ⟨{ b with orders := put external rejected b.orders }, rejected, .error fault⟩
          | .ok none => ⟨{ b with orders := put external order b.orders }, order, .ok external⟩
          | .ok (some fillPrice) =>
              let notional := fillPrice * order.quantity
              let fee := notional * b.feePct
              if order.side = .buy ∧ b.balance.cash < notional + fee then
                ⟨{ b with orders := put external rejected b.orders }, rejected,
                  .error (.errorf "paper: insufficient balance: need %.2f, have %.2f" [])⟩
              else
                let cash := if order.side = .buy then b.balance.cash - (notional + fee) else b.balance.cash + (notional - fee)
                let filled := { order with
                  status := .filled
                  filledQuantity := order.quantity
                  filledAvgPrice := some fillPrice
                  filledAt := some now }
                let b := { b with
                  positions := applyFill id positionTicker order.marketType order.side order.quantity fillPrice now b.positions
                  balance := ⟨cash, cash, b.balance.equity⟩ }
                ⟨{ b with
                    balance := { b.balance with equity := b.markToMarketEquity }
                    orders := put external filled b.orders }, filled, .ok external⟩

end Broker

end Paper

end Augr.Execution
