import Augr.Account
import Augr.Instrument
import Augr.Ledger.Evidence
import Augr.Ledger.Transaction

/-! Economic normalization: one typed interpretation of a source event and the
ledger transaction it produces. -/

set_option autoImplicit false

namespace Augr.Ledger

open Foundation Text

inductive EconomicEventType where
  | fillBuy
  | fillSell
  | fee
  | rebate
  | optionCashSettlement
  | optionExpiration
  | optionExercise
  | optionAssignment
  | predictionPayout
  | unrecognized (text : String)
  deriving DecidableEq, Repr

def EconomicEventType.text : EconomicEventType → String
  | .fillBuy => "fill.buy"
  | .fillSell => "fill.sell"
  | .fee => "cost.fee"
  | .rebate => "cost.rebate"
  | .optionCashSettlement => "settlement.option_cash"
  | .optionExpiration => "settlement.option_expiration"
  | .optionExercise => "settlement.option_exercise"
  | .optionAssignment => "settlement.option_assignment"
  | .predictionPayout => "settlement.prediction_payout"
  | .unrecognized text => text

/-- An empty origin type is `unrecognized ""`. -/
inductive ExecutionOriginType where
  | strategyVersion
  | copySubscription
  | portfolioRebalance
  | riskReduction
  | operator
  | settlement
  | reconciliation
  | unrecognized (text : String)
  deriving DecidableEq, Repr

def ExecutionOriginType.text : ExecutionOriginType → String
  | .strategyVersion => "strategy_version"
  | .copySubscription => "copy_subscription"
  | .portfolioRebalance => "portfolio_rebalance"
  | .riskReduction => "risk_reduction"
  | .operator => "operator"
  | .settlement => "settlement"
  | .reconciliation => "reconciliation"
  | .unrecognized text => text

def validExecutionOriginType : ExecutionOriginType → Bool
  | .unrecognized _ => false
  | _ => true

inductive FillSide where
  | buy
  | sell
  | unrecognized (text : String)
  deriving DecidableEq, Repr

def FillSide.text : FillSide → String
  | .buy => "buy"
  | .sell => "sell"
  | .unrecognized text => text

/-- No cost is `unrecognized ""`. -/
inductive CostKind where
  | fee
  | rebate
  | unrecognized (text : String)
  deriving DecidableEq, Repr

def CostKind.text : CostKind → String
  | .fee => "fee"
  | .rebate => "rebate"
  | .unrecognized text => text

def CostKind.absent : CostKind := .unrecognized ""

structure CostComponent where
  kind : CostKind
  currency : String
  amount : Decimal

structure EconomicNormalization where
  id : Uuid
  sourceEvent : Option EconomicSourceEvent
  account : Option Account
  eventType : EconomicEventType
  normalizerVersion : String
  executionOriginType : ExecutionOriginType
  (executionOriginID referenceType referenceID venue : String)
  (instrument secondaryInstrument : Option Instrument)
  venueContract : Option VenueContract
  optionTerms : Option OptionContractTerms
  effectiveAt : Instant
  cashCurrency : String
  (quantity price : Option Decimal)
  costKind : CostKind
  costCurrency : String
  (costAmount positionQuantity settlementPrice : Option Decimal)
  transaction : Option Transaction
  createdAt : Instant
  deriving DecidableEq

structure EconomicNormalizationBaseInput where
  sourceEvent : Option EconomicSourceEvent
  account : Option Account
  normalizerVersion : String
  executionOriginType : ExecutionOriginType
  (executionOriginID referenceType referenceID : String)
  effectiveAt : Instant

structure FillEconomicEventInput where
  base : EconomicNormalizationBaseInput
  instrument : Instrument
  venueContract : VenueContract
  side : FillSide
  (quantity price : Decimal)
  cost : Option CostComponent

structure CostEconomicEventInput where
  base : EconomicNormalizationBaseInput
  kind : CostKind
  currency : String
  amount : Decimal

inductive CashSettlementKind where
  | option
  | expiration
  | prediction
  | unrecognized (text : String)
  deriving DecidableEq, Repr

def CashSettlementKind.text : CashSettlementKind → String
  | .option => "option_cash"
  | .expiration => "option_expiration"
  | .prediction => "prediction_payout"
  | .unrecognized text => text

structure CashSettlementEconomicEventInput where
  base : EconomicNormalizationBaseInput
  kind : CashSettlementKind
  instrument : Instrument
  venueContract : VenueContract
  (positionQuantity settlementPrice : Decimal)

inductive PhysicalOptionAction where
  | exercise
  | assignment
  | unrecognized (text : String)
  deriving DecidableEq, Repr

def PhysicalOptionAction.text : PhysicalOptionAction → String
  | .exercise => "exercise"
  | .assignment => "assignment"
  | .unrecognized text => text

structure PhysicalOptionEconomicEventInput where
  base : EconomicNormalizationBaseInput
  action : PhysicalOptionAction
  (optionInstrument underlyingInstrument : Instrument)
  venueContract : VenueContract
  optionTerms : OptionContractTerms
  positionQuantity : Decimal

def postingInput (key account : String) (kind : UnitKind) (unit : String) (amount : Decimal) : PostingInput :=
  ⟨key, account, kind, unit, amount, emptyObject⟩

def inventoryLedgerAccount : AssetClass → Outcome String
  | .equity | .etf | .future => .ok "asset:security_inventory"
  | .cryptoSpot => .ok "asset:crypto_inventory"
  | .option => .ok "asset:option_inventory"
  | .predictionContract => .ok "asset:event_contract_inventory"
  | assetClass => .error (.errorf "instrument asset class %q has no ledger inventory account" [assetClass.text])

namespace EconomicNormalization

def validateSettlementReferences (n : EconomicNormalization) (instrument : Instrument) (contract : VenueContract) :
    Outcome Unit := do
  wrapping "settlement instrument: %w" [] instrument.validate
  failIf (instrument.status == .quarantined) (.errorf "settlement cannot use a quarantined instrument" [])
  wrapping "settlement venue contract: %w" [] contract.validate
  failIf (contract.instrumentID != instrument.id || n.venue != contract.venue)
    (.errorf "settlement venue contract does not match canonical instrument and venue" [])
  failIf (instrument.currency != contract.currency || contract.currency != n.cashCurrency)
    (.errorf "settlement cash requires instrument, contract, and account base currency agreement" [])
  failIf (contract.validFrom.after n.effectiveAt)
    (.errorf "settlement cannot use a venue contract that had not begun" [])
  failIf (!instrument.multiplier.equal contract.multiplier)
    (.errorf "settlement instrument and venue multipliers must agree" [])

/-- The rule each settlement kind adds to the common references. -/
def validateSettlementKind (eventType : EconomicEventType) (instrument : Instrument) (contract : VenueContract)
    (settlementPrice : Decimal) : Outcome Unit :=
  match eventType with
  | .optionCashSettlement =>
      failIf (instrument.assetClass != .option || instrument.settlementMethod != .cash ||
          contract.settlementMethod != .cash)
        (.errorf "cash option settlement requires cash-settled option mechanics" [])
  | .optionExpiration => do
      failIf (instrument.assetClass != .option || !settlementPrice.isZero)
        (.errorf "option expiration requires an option and zero settlement price" [])
      failIf (contract.settlementMethod != instrument.settlementMethod)
        (.errorf "option expiration contract mechanics do not match the instrument" [])
  | .predictionPayout => do
      failIf (instrument.assetClass != .predictionContract || instrument.settlementMethod != .binary ||
          contract.settlementMethod != .binary)
        (.errorf "prediction payout requires binary prediction mechanics" [])
      failIf (!settlementPrice.equal Decimal.zero && !settlementPrice.equal (Decimal.newFromInt 1))
        (.errorf "prediction payout must be exactly zero or one" [])
  | _ => .ok ()

def cashSettlementPostings (n : EconomicNormalization) : Outcome (List PostingInput) :=
  match n.instrument, n.venueContract, n.positionQuantity, n.settlementPrice with
  | some instrument, some contract, some positionQuantity, some settlementPrice => do
      failIf (n.secondaryInstrument.isSome || n.optionTerms.isSome || n.quantity.isSome || n.price.isSome ||
          n.costAmount.isSome || n.costKind.text != "" || n.costCurrency != "")
        (.errorf "cash settlement contains irrelevant fill, cost, or physical-delivery fields" [])
      n.validateSettlementReferences instrument contract
      validateSettlementKind n.eventType instrument contract settlementPrice
      failIf positionQuantity.isZero (.errorf "settlement position quantity must be nonzero" [])
      validateDecimalShape "settlement position quantity" positionQuantity
      failIf (!isExactMultiple positionQuantity.abs contract.lotSize)
        (.errorf "settlement position quantity is not an exact venue lot multiple" [])
      validateNonnegativeDecimal "settlement price" settlementPrice
      failIf (!isExactMultiple settlementPrice contract.tickSize)
        (.errorf "settlement price is not an exact venue tick multiple" [])
      let inventoryAccount ← inventoryLedgerAccount instrument.assetClass
      let inventoryAmount := positionQuantity.neg
      let inventory := [
        postingInput "inventory-settlement" inventoryAccount .instrument instrument.id.toText inventoryAmount,
        postingInput "clearing-inventory-settlement" "clearing:settlement" .instrument instrument.id.toText
          inventoryAmount.neg]
      let payout := (positionQuantity.mul settlementPrice).mul contract.multiplier
      validateDecimalShape "settlement cash" payout
      if payout.isZero then pure inventory
      else pure (inventory ++ [
        postingInput "settlement-cash" "asset:cash" .currency n.cashCurrency payout,
        postingInput "clearing-settlement-cash" "clearing:settlement" .currency n.cashCurrency payout.neg])
  | _, _, _, _ =>
      .error (.errorf "cash settlement requires instrument, venue contract, position quantity, and settlement price" [])

/-- Option, underlying, contract and terms agree with each other and with the event. -/
def validatePhysicalReferences (n : EconomicNormalization) (option underlying : Instrument) (contract : VenueContract)
    (terms : OptionContractTerms) : Outcome Unit := do
  wrapping "physical option instrument: %w" [] option.validate
  wrapping "physical option underlying: %w" [] underlying.validate
  failIf (option.status == .quarantined || underlying.status == .quarantined)
    (.errorf "physical option settlement cannot use quarantined references" [])
  failIf (option.assetClass != .option || option.underlyingID != some underlying.id)
    (.errorf "physical option and canonical underlying do not match" [])
  wrapping "physical option venue contract: %w" [] contract.validate
  failIf (contract.instrumentID != option.id || contract.venue != n.venue ||
      contract.settlementMethod != .physical || option.settlementMethod != .physical)
    (.errorf "physical option requires matching physical-settlement venue mechanics" [])
  failIf (contract.validFrom.after n.effectiveAt)
    (.errorf "physical option cannot use a venue contract that had not begun" [])
  wrapping "physical option terms: %w" [] terms.validate
  failIf (terms.optionInstrumentID != option.id || terms.underlyingInstrumentID != underlying.id)
    (.errorf "physical option terms do not match option and underlying" [])
  failIf (terms.effectiveAt.after n.effectiveAt) (.errorf "physical option terms are not yet effective" [])
  let source ← deref "SourceEvent" n.sourceEvent
  failIf (terms.observedAt.after source.observedAt)
    (.errorf "physical option terms were not observed by source-event observation time" [])
  failIf (option.currency != contract.currency || contract.currency != n.cashCurrency ||
      terms.strikeCurrency != n.cashCurrency)
    (.errorf "physical option strike, contract, instrument, and account currencies must agree" [])
  failIf (!contract.multiplier.equal terms.deliverableQuantity)
    (.errorf "physical option venue multiplier and deliverable quantity must agree" [])

def deliveredQuantity (terms : OptionContractTerms) (positionQuantity : Decimal) : Decimal :=
  let delivered := positionQuantity.mul terms.deliverableQuantity
  if terms.contractType = .put then delivered.neg else delivered

def physicalOptionPostings (n : EconomicNormalization) : Outcome (List PostingInput) :=
  match n.instrument, n.secondaryInstrument, n.venueContract, n.optionTerms, n.positionQuantity with
  | some option, some underlying, some contract, some terms, some positionQuantity => do
      failIf (n.quantity.isSome || n.price.isSome || n.settlementPrice.isSome || n.costAmount.isSome ||
          n.costKind.text != "" || n.costCurrency != "")
        (.errorf "physical option normalization contains irrelevant fill, cost, or cash-settlement fields" [])
      n.validatePhysicalReferences option underlying contract terms
      failIf positionQuantity.isZero (.errorf "physical option position quantity must be nonzero" [])
      validateDecimalShape "physical option position quantity" positionQuantity
      failIf (!isExactMultiple positionQuantity.abs contract.lotSize)
        (.errorf "physical option position is not an exact venue lot multiple" [])
      failIf (n.eventType == .optionExercise && !positionQuantity.isPositive)
        (.errorf "option exercise must close a positive long position" [])
      failIf (n.eventType == .optionAssignment && !positionQuantity.isNegative)
        (.errorf "option assignment must close a negative short position" [])
      let optionClose := positionQuantity.neg
      let delivered := deliveredQuantity terms positionQuantity
      validateDecimalShape "physical option delivered quantity" delivered
      failIf (!isExactMultiple delivered.abs underlying.lotSize)
        (.errorf "physical option delivery is not an exact underlying lot multiple" [])
      let strikeCash := (delivered.mul terms.strikePrice).neg
      validateDecimalShape "physical option strike cash" strikeCash
      let underlyingAccount ← inventoryLedgerAccount underlying.assetClass
      pure [
        postingInput "option-close" "asset:option_inventory" .instrument option.id.toText optionClose,
        postingInput "clearing-option-close" "clearing:settlement" .instrument option.id.toText optionClose.neg,
        postingInput "underlying-delivery" underlyingAccount .instrument underlying.id.toText delivered,
        postingInput "clearing-underlying-delivery" "clearing:settlement" .instrument underlying.id.toText
          delivered.neg,
        postingInput "strike-cash" "asset:cash" .currency n.cashCurrency strikeCash,
        postingInput "clearing-strike-cash" "clearing:settlement" .currency n.cashCurrency strikeCash.neg]
  | _, _, _, _, _ =>
      .error (.errorf "physical option normalization requires option, underlying, contract, terms, and position" [])

def requiredCostPostings (n : EconomicNormalization) : Outcome (List PostingInput) :=
  match n.costAmount with
  | none => .error (.errorf "cost amount is required" [])
  | some amount => do
      failIf (n.costKind != .fee && n.costKind != .rebate) (.errorf "cost kind %q is invalid" [n.costKind.text])
      failIf (n.costCurrency != n.cashCurrency) (.errorf "cost currency must match account base currency" [])
      failIf (n.venueContract.any fun contract => n.costCurrency != contract.currency)
        (.errorf "fill-attached cost currency must match venue contract currency" [])
      validatePositiveDecimal "cost amount" amount
      if n.costKind = .fee then
        pure [
          postingInput "fee-expense" "expense:fees" .currency n.cashCurrency amount,
          postingInput "fee-cash" "asset:cash" .currency n.cashCurrency amount.neg]
      else
        pure [
          postingInput "rebate-cash" "asset:cash" .currency n.cashCurrency amount,
          postingInput "rebate-income" "income:rebates" .currency n.cashCurrency amount.neg]

def optionalCostPostings (n : EconomicNormalization) : Outcome (List PostingInput) :=
  match n.costAmount with
  | none => do
      failIf (n.costKind.text != "" || n.costCurrency != "")
        (.errorf "fill cost kind/currency require an amount" [])
      pure []
  | some _ => n.requiredCostPostings

def costPostings (n : EconomicNormalization) : Outcome (List PostingInput) := do
  failIf (n.instrument.isSome || n.secondaryInstrument.isSome || n.venueContract.isSome || n.optionTerms.isSome ||
      n.venue != "" || n.quantity.isSome || n.price.isSome || n.positionQuantity.isSome || n.settlementPrice.isSome)
    (.errorf "standalone cost normalization cannot carry instrument, venue, fill, or settlement fields" [])
  let expectedKind := if n.eventType = .rebate then CostKind.rebate else CostKind.fee
  failIf (n.costKind != expectedKind) (.errorf "standalone cost kind does not match event type" [])
  n.requiredCostPostings

def validateFillReferences (n : EconomicNormalization) (instrument : Instrument) (contract : VenueContract) :
    Outcome Unit := do
  wrapping "fill instrument: %w" [] instrument.validate
  failIf (instrument.status != .active) (.errorf "fill instrument must be active" [])
  wrapping "fill venue contract: %w" [] contract.validate
  failIf (contract.instrumentID != instrument.id || n.venue != contract.venue)
    (.errorf "fill venue contract does not match the canonical instrument and venue" [])
  failIf (instrument.currency != contract.currency || contract.currency != n.cashCurrency)
    (.errorf "fill cash legs require instrument, contract, and account base currency agreement" [])
  failIf (n.effectiveAt.before contract.validFrom || contract.validTo.any fun validTo => !n.effectiveAt.before validTo)
    (.errorf "fill venue contract is not effective at fill time" [])

def fillDirection (eventType : EconomicEventType) : Decimal :=
  let direction := Decimal.newFromInt 1
  if eventType = .fillSell then direction.neg else direction

def fillPostings (n : EconomicNormalization) : Outcome (List PostingInput) :=
  match n.instrument, n.venueContract, n.quantity, n.price with
  | some instrument, some contract, some quantity, some price => do
      failIf (n.secondaryInstrument.isSome || n.optionTerms.isSome || n.positionQuantity.isSome ||
          n.settlementPrice.isSome)
        (.errorf "fill normalization contains irrelevant settlement references or values" [])
      n.validateFillReferences instrument contract
      validatePositiveDecimal "fill quantity" quantity
      failIf (!isExactMultiple quantity contract.lotSize)
        (.errorf "fill quantity is not an exact venue lot multiple" [])
      validateNonnegativeDecimal "fill price" price
      failIf (!isExactMultiple price contract.tickSize) (.errorf "fill price is not an exact venue tick multiple" [])
      failIf (instrument.assetClass == .predictionContract &&
          (price.isNegative || price.greaterThan (Decimal.newFromInt 1)))
        (.errorf "prediction fill price must be between zero and one" [])
      let inventoryAccount ← inventoryLedgerAccount instrument.assetClass
      let direction := fillDirection n.eventType
      let inventoryAmount := quantity.mul direction
      let inventory := [
        postingInput "inventory" inventoryAccount .instrument instrument.id.toText inventoryAmount,
        postingInput "clearing-inventory" "clearing:execution" .instrument instrument.id.toText inventoryAmount.neg]
      let gross := (price.mul quantity).mul contract.multiplier
      validateNonnegativeDecimal "fill gross cash" gross
      let cashAmount := (gross.mul direction).neg
      let cash := if gross.isZero then [] else [
        postingInput "gross-cash" "asset:cash" .currency n.cashCurrency cashAmount,
        postingInput "clearing-gross-cash" "clearing:execution" .currency n.cashCurrency cashAmount.neg]
      let cost ← n.optionalCostPostings
      pure (inventory ++ cash ++ cost)
  | _, _, _, _ => .error (.errorf "fill normalization requires instrument, venue contract, quantity, and price" [])

def expectedPostings (n : EconomicNormalization) : Outcome (List PostingInput) :=
  match n.eventType with
  | .fillBuy | .fillSell => n.fillPostings
  | .fee | .rebate => n.costPostings
  | .optionCashSettlement | .optionExpiration | .predictionPayout => n.cashSettlementPostings
  | .optionExercise | .optionAssignment => n.physicalOptionPostings
  | .unrecognized text => .error (.errorf "economic event type %q is not supported" [text])

def expectedMetadata (n : EconomicNormalization) (source : EconomicSourceEvent) : RawMessage :=
  Json.encodeObject [
    ("economic_normalization_id", Json.quote n.id.toText),
    ("execution_origin_id", Json.quote n.executionOriginID),
    ("execution_origin_type", Json.quote n.executionOriginType.text),
    ("normalizer_version", Json.quote n.normalizerVersion),
    ("raw_payload_sha256", Json.quote source.payloadSHA256),
    ("source_event_id", Json.quote source.id.toText)]

def expectedTransactionInput (n : EconomicNormalization) (source : EconomicSourceEvent)
    (postings : List PostingInput) : TransactionInput :=
  { accountID := source.accountID
    eventType := n.eventType.text
    idempotencyKey := "economic-source-event:" ++ source.id.toText
    originType := "economic_source_event"
    originID := source.id.toText
    referenceType := n.referenceType
    referenceID := n.referenceID
    effectiveAt := n.effectiveAt
    observedAt := source.observedAt
    metadata := n.expectedMetadata source
    postings := postings }

def expectedTransaction (clock : Reading) (n : EconomicNormalization) : Outcome Transaction := do
  let postings ← n.expectedPostings
  let source ← deref "SourceEvent" n.sourceEvent
  newDeterministicTransaction clock source.id n.normalizerVersion (n.expectedTransactionInput source postings)

def normalizationID (sourceEventID : Uuid) (normalizerVersion : String) : Uuid :=
  deterministicUUID "economic-normalization" [sourceEventID.toText, normalizerVersion]

end EconomicNormalization

/-- Lookup in a map filled from the postings in order: the last one with the key. -/
def postingByKey (postings : List Posting) (key : String) : Option Posting :=
  (postings.filter fun posting => posting.idempotencyKey == key).getLast?

def sameEconomicPosting (postings : List Posting) (posting : Posting) : Bool :=
  match postingByKey postings posting.idempotencyKey with
  | none => false
  | some expected =>
      posting.id == expected.id && posting.transactionID == expected.transactionID &&
      posting.ledgerAccount == expected.ledgerAccount && posting.unitKind == expected.unitKind &&
      posting.unit == expected.unit && posting.amount.equal expected.amount &&
      jsonSemanticEqual posting.metadata expected.metadata

def sameEconomicTransaction : Option Transaction → Option Transaction → Bool
  | some left, some right =>
      left.id == right.id && left.accountID == right.accountID && left.eventType == right.eventType &&
      left.idempotencyKey == right.idempotencyKey && left.originType == right.originType &&
      left.originID == right.originID && left.referenceType == right.referenceType &&
      left.referenceID == right.referenceID && left.effectiveAt.equal right.effectiveAt &&
      left.observedAt.equal right.observedAt && jsonSemanticEqual left.metadata right.metadata &&
      left.postings.length == right.postings.length && left.postings.all (sameEconomicPosting right.postings)
  | _, _ => false

namespace EconomicNormalization

def validate (clock : Reading) (n : EconomicNormalization) : Outcome Unit :=
  match n.sourceEvent, n.account with
  | some source, some account => do
      wrapping "economic normalization source event: %w" [] source.validate
      wrapping "economic normalization account: %w" [] account.validate
      failIf (source.accountID != account.id)
        (.errorf "economic normalization source account does not match account reference" [])
      failIf (!isNormalizedRequired n.normalizerVersion)
        (.errorf "economic normalization version must be non-empty and normalized" [])
      failIf (!validExecutionOriginType n.executionOriginType || !isNormalizedRequired n.executionOriginID)
        (.errorf "economic normalization execution origin is invalid or missing" [])
      failIf (!isNormalizedRequired n.referenceType || !isNormalizedRequired n.referenceID)
        (.errorf "economic normalization reference type and ID are required and normalized" [])
      failIf (!n.effectiveAt.isCanonical)
        (.errorf "economic normalization effective time must use normalized UTC microsecond precision" [])
      failIf (n.effectiveAt.after source.observedAt)
        (.errorf "economic normalization effective time cannot follow source observation time" [])
      failIf (!n.createdAt.isCanonical)
        (.errorf "economic normalization creation time must use normalized UTC microsecond precision" [])
      failIf (n.cashCurrency != account.baseCurrency)
        (.errorf "economic normalization cash currency must match account base currency" [])
      failIf (n.id != normalizationID source.id n.normalizerVersion)
        (.errorf "economic normalization ID is not deterministic for its source and version" [])
      let expected ← n.expectedTransaction clock
      failIf (!sameEconomicTransaction n.transaction (some expected))
        (.errorf "economic normalization ledger aggregate does not match typed event facts" [])
  | _, _ => .error (.errorf "economic normalization source event and account are required" [])

/-- The transaction is built with one clock reading and checked with another. -/
def materializeAndValidate (built checked : Reading) (n : EconomicNormalization) : Outcome EconomicNormalization := do
  let transaction ← n.expectedTransaction built
  let complete := { n with transaction := some transaction }
  complete.validate checked
  pure complete

end EconomicNormalization

/-- The clock readings of one construction, in the order they are taken. -/
structure Clocks where
  (created built checked : Reading)

def newEconomicNormalization (clock : Reading) (input : EconomicNormalizationBaseInput)
    (eventType : EconomicEventType) : Outcome EconomicNormalization :=
  match input.sourceEvent, input.account with
  | some source, some account =>
      let normalizerVersion := trimSpace input.normalizerVersion
      .ok
        { id := EconomicNormalization.normalizationID source.id normalizerVersion
          sourceEvent := some source
          account := some account
          eventType := eventType
          normalizerVersion := normalizerVersion
          executionOriginType := input.executionOriginType
          executionOriginID := trimSpace input.executionOriginID
          referenceType := trimSpace input.referenceType
          referenceID := trimSpace input.referenceID
          venue := ""
          instrument := none
          secondaryInstrument := none
          venueContract := none
          optionTerms := none
          effectiveAt := input.effectiveAt.normalize
          cashCurrency := account.baseCurrency
          quantity := none
          price := none
          costKind := .absent
          costCurrency := ""
          costAmount := none
          positionQuantity := none
          settlementPrice := none
          transaction := none
          createdAt := clock.now }
  | _, _ => .error (.errorf "economic normalization source event and account are required" [])

def newFillEconomicNormalization (clocks : Clocks) (input : FillEconomicEventInput) :
    Outcome EconomicNormalization := do
  let eventType ← match input.side with
    | .sell => Except.ok EconomicEventType.fillSell
    | .buy => .ok .fillBuy
    | side => .error (.errorf "fill side %q is invalid" [side.text])
  let n ← newEconomicNormalization clocks.created input.base eventType
  let cost := input.cost
  EconomicNormalization.materializeAndValidate clocks.built clocks.checked
    { n with
      venue := input.venueContract.venue
      instrument := some input.instrument
      venueContract := some input.venueContract
      quantity := some input.quantity
      price := some input.price
      costKind := (cost.map CostComponent.kind).getD .absent
      costCurrency := (cost.map fun cost => toUpper (trimSpace cost.currency)).getD ""
      costAmount := cost.map CostComponent.amount }

def newCostEconomicNormalization (clocks : Clocks) (input : CostEconomicEventInput) :
    Outcome EconomicNormalization := do
  let eventType ← match input.kind with
    | .rebate => Except.ok EconomicEventType.rebate
    | .fee => .ok .fee
    | kind => .error (.errorf "cost kind %q is invalid" [kind.text])
  let n ← newEconomicNormalization clocks.created input.base eventType
  EconomicNormalization.materializeAndValidate clocks.built clocks.checked
    { n with
      costKind := input.kind
      costCurrency := toUpper (trimSpace input.currency)
      costAmount := some input.amount }

def newCashSettlementEconomicNormalization (clocks : Clocks) (input : CashSettlementEconomicEventInput) :
    Outcome EconomicNormalization := do
  let eventType ← match input.kind with
    | .option => Except.ok EconomicEventType.optionCashSettlement
    | .expiration => .ok .optionExpiration
    | .prediction => .ok .predictionPayout
    | kind => .error (.errorf "cash settlement kind %q is invalid" [kind.text])
  let n ← newEconomicNormalization clocks.created input.base eventType
  EconomicNormalization.materializeAndValidate clocks.built clocks.checked
    { n with
      venue := input.venueContract.venue
      instrument := some input.instrument
      venueContract := some input.venueContract
      positionQuantity := some input.positionQuantity
      settlementPrice := some input.settlementPrice }

def newPhysicalOptionEconomicNormalization (clocks : Clocks) (input : PhysicalOptionEconomicEventInput) :
    Outcome EconomicNormalization := do
  let eventType ← match input.action with
    | .exercise => Except.ok EconomicEventType.optionExercise
    | .assignment => .ok .optionAssignment
    | action => .error (.errorf "physical option action %q is invalid" [action.text])
  let n ← newEconomicNormalization clocks.created input.base eventType
  EconomicNormalization.materializeAndValidate clocks.built clocks.checked
    { n with
      venue := input.venueContract.venue
      instrument := some input.optionInstrument
      secondaryInstrument := some input.underlyingInstrument
      venueContract := some input.venueContract
      optionTerms := some input.optionTerms
      positionQuantity := some input.positionQuantity }

end Augr.Ledger
