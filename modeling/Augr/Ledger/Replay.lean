import Augr.Ledger.Mechanics

/-! The replay of ledger transactions into FIFO lots, matches and totals. -/

set_option autoImplicit false

namespace Augr.Ledger

open Foundation

structure ProjectionLot where
  (id instrumentID openingTransactionID : Uuid)
  openingOriginType : ExecutionOriginType
  (openingOriginID openingReferenceType openingReferenceID : String)
  openedAt : Instant
  (quantity remainingQuantity openingCash remainingOpeningCash markMultiplier : Decimal)
  deriving DecidableEq

structure ProjectionMatch where
  (id lotID instrumentID closingTransactionID : Uuid)
  openingOriginType : ExecutionOriginType
  (openingOriginID openingReferenceType openingReferenceID : String)
  closingOriginType : ExecutionOriginType
  (closingOriginID closingReferenceType closingReferenceID : String)
  closedAt : Instant
  (quantity openingCash closingCash realizedPnL : Decimal)
  disposition : String
  deriving DecidableEq

/-- The activity set is kept as a list without repetitions. -/
structure ProjectionState where
  lots : List ProjectionLot
  lotMatches : List ProjectionMatch
  activity : List Uuid
  (cash netCapital fees rebates realized : Decimal)
  deriving DecidableEq

namespace ProjectionState

def initial : ProjectionState := ⟨[], [], [], .unset, .unset, .unset, .unset, .unset⟩

end ProjectionState

def projectionPosting (transaction : Transaction) (currency : String) (totals : Decimal × Decimal × Decimal)
    (posting : Posting) : Outcome (Decimal × Decimal × Decimal) := do
  let (cash, fees, rebates) := totals
  failIf (posting.unitKind == .currency && posting.unit != currency)
    (.errorf "transaction %s contains foreign currency %s" [transaction.id.toText, posting.unit])
  if posting.ledgerAccount = "asset:cash" then do
    failIf (posting.unitKind != .currency)
      (.errorf "transaction %s cash posting has a non-currency unit" [transaction.id.toText])
    pure (cash.add posting.amount, fees, rebates)
  else if posting.ledgerAccount = "expense:fees" then do
    failIf (posting.unitKind != .currency || !posting.amount.isPositive)
      (.errorf "transaction %s fee posting is invalid" [transaction.id.toText])
    pure (cash, fees.add posting.amount, rebates)
  else if posting.ledgerAccount = "income:rebates" then do
    failIf (posting.unitKind != .currency || !posting.amount.isNegative)
      (.errorf "transaction %s rebate posting is invalid" [transaction.id.toText])
    pure (cash, fees, rebates.add posting.amount.abs)
  else pure (cash, fees, rebates)

def projectionCashAndCosts (transaction : Transaction) (currency : String) :
    Outcome (Decimal × Decimal × Decimal) :=
  transaction.postings.foldlM (projectionPosting transaction currency) (.zero, .zero, .zero)

def isAssetAccount (ledgerAccount : String) : Bool := Text.hasPrefix ledgerAccount "asset:"

def projectionInstrumentMovement (transaction : Transaction) (key : String) (instrumentID : Uuid) : Outcome Decimal :=
  match transaction.postings.find? fun posting => posting.idempotencyKey == key with
  | none => .error (.errorf "transaction %s is missing posting %q" [transaction.id.toText, key])
  | some posting => do
      failIf (posting.unitKind != .instrument || posting.unit != instrumentID.toText ||
          !isAssetAccount posting.ledgerAccount)
        (.errorf "transaction %s posting %q does not match canonical instrument mechanics"
          [transaction.id.toText, key])
      pure posting.amount

def projectionHasAssetInventory (transaction : Transaction) : Bool :=
  transaction.postings.any fun posting => posting.unitKind == .instrument && isAssetAccount posting.ledgerAccount

def signed (direction quantity : Decimal) : Decimal := (Decimal.newFromInt direction.sign).mul quantity

/-- Lots of another instrument, closed lots and lots on the movement's own side are passed over. -/
def ProjectionLot.offsets (lot : ProjectionLot) (instrumentID : Uuid) (movement : Decimal) : Bool :=
  lot.instrumentID == instrumentID && !lot.remainingQuantity.isZero && lot.remainingQuantity.sign != movement.sign

/-- Opening cash released by a close: everything, or the rounded pro-rata part. -/
def ProjectionLot.releasedCash (lot : ProjectionLot) (quantity : Decimal) : Decimal :=
  if quantity.equal lot.remainingQuantity.abs then lot.remainingOpeningCash
  else ((lot.remainingOpeningCash.mul quantity).div lot.remainingQuantity.abs).round 12

def ProjectionLot.consume (lot : ProjectionLot) (movement quantity openingCash : Decimal) : ProjectionLot :=
  let remaining := lot.remainingQuantity.add (signed movement quantity)
  { lot with
    remainingQuantity := remaining
    remainingOpeningCash := if remaining.isZero then .zero else lot.remainingOpeningCash.sub openingCash }

def matchID (lotID transactionID : Uuid) (ordinal : Nat) : Uuid :=
  deterministicUUID "portfolio-projection-match" [lotID.toText, transactionID.toText, Text.itoa ordinal]

def newMatch (transaction : Transaction) (mechanics : ProjectionMechanics) (instrumentID : Uuid) (lot : ProjectionLot)
    (ordinal : Nat) (quantity openingCash closingCash realizedPnL : Decimal) (disposition : String) : ProjectionMatch :=
  { id := matchID lot.id transaction.id ordinal
    lotID := lot.id
    instrumentID := instrumentID
    closingTransactionID := transaction.id
    openingOriginType := lot.openingOriginType
    openingOriginID := lot.openingOriginID
    openingReferenceType := lot.openingReferenceType
    openingReferenceID := lot.openingReferenceID
    closingOriginType := mechanics.executionOriginType
    closingOriginID := mechanics.executionOriginID
    closingReferenceType := mechanics.referenceType
    closingReferenceID := mechanics.referenceID
    closedAt := transaction.effectiveAt
    quantity := quantity
    openingCash := openingCash
    closingCash := closingCash
    realizedPnL := realizedPnL
    disposition := disposition }

structure CloseSegment where
  lotIndex : Nat
  quantity : Decimal

/-- First pass of a movement: which lots it closes, by index, and what is left of it. -/
def closeSegments (instrumentID : Uuid) (movement : Decimal) :
    Nat → Decimal → List ProjectionLot → List CloseSegment × Decimal
  | _, remaining, [] => ([], remaining)
  | index, remaining, lot :: rest =>
      if lot.offsets instrumentID movement then
        let quantity := lot.remainingQuantity.abs.min remaining.abs
        let remaining := remaining.sub (signed movement quantity)
        if remaining.isZero then ([⟨index, quantity⟩], remaining)
        else
          let tail := closeSegments instrumentID movement (index + 1) remaining rest
          (⟨index, quantity⟩ :: tail.1, tail.2)
      else closeSegments instrumentID movement (index + 1) remaining rest

/-- One part of an amount, with the amount and quantity still to give; the final part takes all that is left. -/
structure Allocation where
  (allocated remainingAmount remainingQuantity : Decimal)

def allocateProjectionAmount (total quantity totalQuantity remainingAmount remainingQuantity : Decimal)
    (final : Bool) : Allocation :=
  if final then ⟨remainingAmount, .zero, .zero⟩
  else
    let allocated := ((total.mul quantity).div totalQuantity).round 12
    ⟨allocated, remainingAmount.sub allocated, remainingQuantity.sub quantity⟩

/-- What the second pass of a movement carries from segment to segment; `ordinal`
is both the segment index and the match ordinal. -/
structure CloseState where
  lots : List ProjectionLot
  lotMatches : List ProjectionMatch
  (realized remainingCash remainingQuantity : Decimal)
  ordinal : Nat

structure Movement where
  transaction : Transaction
  mechanics : ProjectionMechanics
  instrumentID : Uuid
  (movement eventCash multiplier : Decimal)
  disposition : String

def Movement.closeOne (m : Movement) (segmentCount : Nat) (state : CloseState) (segment : CloseSegment) : CloseState :=
  match state.lots[segment.lotIndex]? with
  | none => state
  | some lot =>
      let closing := allocateProjectionAmount m.eventCash segment.quantity m.movement.abs state.remainingCash
        state.remainingQuantity (state.ordinal + 1 == segmentCount)
      let openingCash := lot.releasedCash segment.quantity
      let realized := openingCash.add closing.allocated
      { lots := state.lots.set segment.lotIndex (lot.consume m.movement segment.quantity openingCash)
        lotMatches := state.lotMatches ++ [newMatch m.transaction m.mechanics m.instrumentID lot state.ordinal
          segment.quantity openingCash closing.allocated realized m.disposition]
        realized := state.realized.add realized
        remainingCash := closing.remainingAmount
        remainingQuantity := closing.remainingQuantity
        ordinal := state.ordinal + 1 }

def lotID (transactionID instrumentID : Uuid) (segment : Nat) : Uuid :=
  deterministicUUID "portfolio-projection-lot" [transactionID.toText, instrumentID.toText, Text.itoa segment]

def openedSegments (lots : List ProjectionLot) (transactionID instrumentID : Uuid) : Nat :=
  lots.countP fun lot => lot.openingTransactionID == transactionID && lot.instrumentID == instrumentID

def Movement.openLot (m : Movement) (lots : List ProjectionLot) (quantity cash : Decimal) : ProjectionLot :=
  { id := lotID m.transaction.id m.instrumentID (openedSegments lots m.transaction.id m.instrumentID)
    instrumentID := m.instrumentID
    openingTransactionID := m.transaction.id
    openingOriginType := m.mechanics.executionOriginType
    openingOriginID := m.mechanics.executionOriginID
    openingReferenceType := m.mechanics.referenceType
    openingReferenceID := m.mechanics.referenceID
    openedAt := m.transaction.effectiveAt
    quantity := quantity
    remainingQuantity := quantity
    openingCash := cash
    remainingOpeningCash := cash
    markMultiplier := m.multiplier }

namespace ProjectionState

/-- First pass: the lots to close and what is left of the movement. -/
def segments (state : ProjectionState) (m : Movement) : List CloseSegment × Decimal :=
  closeSegments m.instrumentID m.movement 0 m.movement state.lots

/-- Number of parts the event cash is split into, the newly opened lot included. -/
def segmentCount (state : ProjectionState) (m : Movement) : Nat :=
  (state.segments m).1.length + if (state.segments m).2.isZero then 0 else 1

def closing (state : ProjectionState) (m : Movement) : CloseState :=
  (state.segments m).1.foldl (m.closeOne (state.segmentCount m))
    ⟨state.lots, state.lotMatches, state.realized, m.eventCash, m.movement.abs, 0⟩

/-- The lot opened by what is left of the movement, with the cash that is left. -/
def opening (state : ProjectionState) (m : Movement) : List ProjectionLot :=
  if (state.segments m).2.isZero then []
  else [m.openLot (state.closing m).lots (state.segments m).2 (state.closing m).remainingCash]

def applyMovement (state : ProjectionState) (m : Movement) (requireExactClose : Bool) : Outcome ProjectionState := do
  failIf (m.movement.isZero || m.instrumentID == Uuid.nil || !m.multiplier.isPositive)
    (.errorf "transaction %s has invalid inventory movement mechanics" [m.transaction.id.toText])
  failIf (requireExactClose && !(state.segments m).2.isZero)
    (.errorf "settlement transaction %s does not exactly close existing signed inventory" [m.transaction.id.toText])
  failIf (state.segmentCount m == 0)
    (.errorf "transaction %s produced no inventory segment" [m.transaction.id.toText])
  pure { state with
    lots := (state.closing m).lots ++ state.opening m
    lotMatches := (state.closing m).lotMatches
    realized := (state.closing m).realized
    activity := state.activity.insert m.instrumentID }

end ProjectionState

/-- Result of the loop that hands option basis over to the delivered underlying. -/
structure Transfer where
  lots : List ProjectionLot
  lotMatches : List ProjectionMatch
  (remaining transferredCash : Decimal)

def transferLots (transaction : Transaction) (mechanics : ProjectionMechanics) (movement : Decimal) :
    Nat → Decimal → Decimal → List ProjectionLot → Transfer
  | _, remaining, transferredCash, [] => ⟨[], [], remaining, transferredCash⟩
  | ordinal, remaining, transferredCash, lot :: rest =>
      if lot.offsets mechanics.instrumentID movement then
        let quantity := lot.remainingQuantity.abs.min remaining.abs
        let openingCash := lot.releasedCash quantity
        let closed := lot.consume movement quantity openingCash
        let record := newMatch transaction mechanics mechanics.instrumentID lot ordinal quantity openingCash
          openingCash.neg .zero "basis_transfer"
        let transferredCash := transferredCash.add openingCash
        let remaining := remaining.sub (signed movement quantity)
        if remaining.isZero then ⟨closed :: rest, [record], remaining, transferredCash⟩
        else
          let tail := transferLots transaction mechanics movement (ordinal + 1) remaining transferredCash rest
          { tail with lots := closed :: tail.lots, lotMatches := record :: tail.lotMatches }
      else
        let tail := transferLots transaction mechanics movement ordinal remaining transferredCash rest
        { tail with lots := lot :: tail.lots }

namespace ProjectionState

def applyPhysicalOption (state : ProjectionState) (transaction : Transaction) (mechanics : ProjectionMechanics)
    (strikeCash : Decimal) : Outcome ProjectionState := do
  let optionMovement ← projectionInstrumentMovement transaction "option-close" mechanics.instrumentID
  let underlyingMovement ←
    projectionInstrumentMovement transaction "underlying-delivery" mechanics.secondaryInstrumentID
  let positionQuantity ← deref "PositionQuantity" mechanics.positionQuantity
  let deliverableQuantity ← deref "DeliverableQuantity" mechanics.deliverableQuantity
  let delivered := positionQuantity.mul deliverableQuantity
  let expectedUnderlyingMovement := if mechanics.optionContractType = .put then delivered.neg else delivered
  let strikePrice ← deref "StrikePrice" mechanics.strikePrice
  let expectedStrikeCash := (expectedUnderlyingMovement.mul strikePrice).neg
  failIf (!optionMovement.equal positionQuantity.neg || !underlyingMovement.equal expectedUnderlyingMovement ||
      !strikeCash.equal expectedStrikeCash)
    (.errorf "physical option transaction %s postings do not match immutable terms" [transaction.id.toText])
  let transfer := transferLots transaction mechanics optionMovement 0 optionMovement .zero state.lots
  failIf (!transfer.remaining.isZero)
    (.errorf "physical option transaction %s does not exactly close existing signed option inventory"
      [transaction.id.toText])
  let transferred := { state with
    lots := transfer.lots
    lotMatches := state.lotMatches ++ transfer.lotMatches
    activity := state.activity.insert mechanics.instrumentID }
  transferred.applyMovement
    { transaction := transaction
      mechanics := mechanics
      instrumentID := mechanics.secondaryInstrumentID
      movement := underlyingMovement
      eventCash := strikeCash.add transfer.transferredCash
      multiplier := mechanics.secondaryMultiplier
      disposition := "physical_delivery" } false

def primaryMovement (transaction : Transaction) (mechanics : ProjectionMechanics) (movement cash : Decimal)
    (disposition : String) : Movement :=
  { transaction := transaction
    mechanics := mechanics
    instrumentID := mechanics.instrumentID
    movement := movement
    eventCash := cash
    multiplier := mechanics.primaryMultiplier
    disposition := disposition }

def applyFill (state : ProjectionState) (transaction : Transaction) (mechanics : ProjectionMechanics)
    (cash : Decimal) : Outcome ProjectionState := do
  let movement ← projectionInstrumentMovement transaction "inventory" mechanics.instrumentID
  failIf (mechanics.eventType == .fillBuy && !movement.isPositive ||
      mechanics.eventType == .fillSell && !movement.isNegative)
    (.errorf "fill transaction %s inventory direction is invalid" [transaction.id.toText])
  let quantity ← deref "Quantity" mechanics.quantity
  failIf (!movement.abs.equal quantity)
    (.errorf "fill transaction %s inventory does not match normalization quantity" [transaction.id.toText])
  let price ← deref "Price" mechanics.price
  let gross := (quantity.mul price).mul mechanics.primaryMultiplier
  let grossCash := if mechanics.eventType = .fillBuy then gross.neg else gross
  let expectedCash := match mechanics.costAmount with
    | none => grossCash
    | some amount => if mechanics.costKind = .fee then grossCash.sub amount else grossCash.add amount
  failIf (!cash.equal expectedCash)
    (.errorf "fill transaction %s cash does not match normalization mechanics" [transaction.id.toText])
  state.applyMovement (primaryMovement transaction mechanics movement cash "trade") false

def applyCost (state : ProjectionState) (transaction : Transaction) (mechanics : ProjectionMechanics)
    (cash : Decimal) : Outcome ProjectionState := do
  failIf (projectionHasAssetInventory transaction)
    (.errorf "standalone cost transaction %s contains inventory" [transaction.id.toText])
  failIf (mechanics.eventType == .fee && !cash.isNegative || mechanics.eventType == .rebate && !cash.isPositive)
    (.errorf "standalone cost transaction %s cash direction is invalid" [transaction.id.toText])
  let amount ← deref "CostAmount" mechanics.costAmount
  let expectedCash := if mechanics.eventType = .fee then amount.neg else amount
  failIf (!cash.equal expectedCash)
    (.errorf "standalone cost transaction %s cash does not match normalization amount" [transaction.id.toText])
  pure { state with realized := state.realized.add cash }

def applySettlement (state : ProjectionState) (transaction : Transaction) (mechanics : ProjectionMechanics)
    (cash : Decimal) : Outcome ProjectionState := do
  let movement ← projectionInstrumentMovement transaction "inventory-settlement" mechanics.instrumentID
  let positionQuantity ← deref "PositionQuantity" mechanics.positionQuantity
  let settlementPrice ← deref "SettlementPrice" mechanics.settlementPrice
  failIf (!movement.equal positionQuantity.neg ||
      !cash.equal ((positionQuantity.mul settlementPrice).mul mechanics.primaryMultiplier))
    (.errorf "settlement transaction %s postings do not match normalization mechanics" [transaction.id.toText])
  state.applyMovement (primaryMovement transaction mechanics movement cash "settlement") true

def applyEconomicTransaction (state : ProjectionState) (transaction : Transaction) (mechanics : ProjectionMechanics)
    (cash : Decimal) : Outcome ProjectionState := do
  failIf (mechanics.executionOriginType.text == "" || mechanics.executionOriginID == "" ||
      mechanics.referenceType != transaction.referenceType || mechanics.referenceID != transaction.referenceID)
    (.errorf "transaction %s mechanics provenance does not match ledger reference" [transaction.id.toText])
  match mechanics.eventType with
  | .fillBuy | .fillSell => state.applyFill transaction mechanics cash
  | .fee | .rebate => state.applyCost transaction mechanics cash
  | .optionCashSettlement | .optionExpiration | .predictionPayout => state.applySettlement transaction mechanics cash
  | .optionExercise | .optionAssignment => state.applyPhysicalOption transaction mechanics cash
  | .unrecognized _ => .error (.errorf "ledger transaction type %q is unsupported by projection %s"
      [transaction.eventType, "ledger_fifo_v1"])

end ProjectionState

/-- The mechanics map is a list without repeated transaction IDs. -/
abbrev MechanicsMap := List ProjectionMechanics

def MechanicsMap.lookup (mechanics : MechanicsMap) (transactionID : Uuid) : Option ProjectionMechanics :=
  mechanics.find? fun row => row.transactionID == transactionID

namespace ProjectionState

def applyCapital (state : ProjectionState) (transaction : Transaction) (mechanics : Option ProjectionMechanics)
    (cash : Decimal) : Outcome ProjectionState := do
  failIf mechanics.isSome
    (.errorf "capital transaction %s unexpectedly has economic mechanics" [transaction.id.toText])
  failIf (projectionHasAssetInventory transaction || cash.isZero)
    (.errorf "capital transaction %s has invalid cash or inventory shape" [transaction.id.toText])
  failIf (transaction.eventType == "capital_flow.deposit" && !cash.isPositive ||
      transaction.eventType == "capital_flow.withdrawal" && !cash.isNegative)
    (.errorf "capital transaction %s cash direction is invalid" [transaction.id.toText])
  pure { state with netCapital := state.netCapital.add cash }

def applyEconomic (state : ProjectionState) (currency : String) (transaction : Transaction)
    (mechanics : Option ProjectionMechanics) (cash : Decimal) : Outcome ProjectionState :=
  match mechanics with
  | none => .error (.errorf "economic transaction %s lacks immutable normalization mechanics" [transaction.id.toText])
  | some mechanics => do
      failIf (mechanics.eventType.text != transaction.eventType)
        (.errorf "transaction %s event type does not match mechanics" [transaction.id.toText])
      failIf (mechanics.cashCurrency != currency)
        (.errorf "transaction %s mechanics currency does not match account" [transaction.id.toText])
      state.applyEconomicTransaction transaction mechanics cash

def replayTransaction (currency : String) (mechanics : MechanicsMap) (state : ProjectionState)
    (transaction : Transaction) : Outcome ProjectionState := do
  let (cash, fees, rebates) ← projectionCashAndCosts transaction currency
  let charged := { state with
    cash := state.cash.add cash
    fees := state.fees.add fees
    rebates := state.rebates.add rebates }
  if transaction.eventType = "capital_flow.deposit" ∨ transaction.eventType = "capital_flow.withdrawal" then
    charged.applyCapital transaction (mechanics.lookup transaction.id) cash
  else charged.applyEconomic currency transaction (mechanics.lookup transaction.id) cash

def replay (currency : String) (mechanics : MechanicsMap) (state : ProjectionState)
    (transactions : List Transaction) : Outcome ProjectionState :=
  transactions.foldlM (replayTransaction currency mechanics) state

end ProjectionState

end Augr.Ledger
