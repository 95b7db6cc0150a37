import Augr.Ledger.Valuation

/-! The portfolio projection: eligibility, replay, valuation and canonical bytes. -/

set_option autoImplicit false

namespace Augr.Ledger

open Foundation Json

def portfolioProjectionType : String := "portfolio"

def portfolioProjectionVersion : String := "ledger_fifo_v1"

def projectionFIFO : String := "fifo"

structure ProjectionInput where
  request : ProjectionRequest
  baseCurrency : String
  transactions : List (Option Transaction)
  mechanics : List ProjectionMechanics
  marks : List (Option MarkObservation)

structure PortfolioProjection where
  checkpointID : Uuid
  (projectionType version fifo : String)
  accountID : Uuid
  baseCurrency : String
  asOf : Instant
  (markSource markNamespace : String)
  maxMarkAge : Duration
  throughTransactionID : Uuid
  transactionCount : Nat
  (inputChecksum outputChecksum : String)
  marks : List ProjectionMark
  lots : List ProjectionLot
  lotMatches : List ProjectionMatch
  positions : List ProjectionPosition
  totals : ProjectionTotals
  payloadBytes : Bytes

def canonicalJSON (raw : RawMessage) : Outcome Bytes :=
  match decodeFirst anyNumber raw with
  | none => .error (.errorf "decode canonical JSON: %w" [])
  | some (value, rest) => do
      failIf (!(skipSpace rest).isEmpty)
        (.errorf "canonical JSON contains trailing values or syntax: %w" [])
      pure value.encode

def projectionTime (value : Instant) : String := value.normalize.format

def projectionUUID (value : Uuid) : String := if value = Uuid.nil then "" else value.toText

def projectionDecimalPointer (value : Option Decimal) : String := (value.map Decimal.toText).getD ""

def encodeTexts (fields : List (String × String)) : Bytes :=
  encodeObject (fields.map fun field => (field.1, quote field.2))

def canonicalPosting (posting : Posting) : Outcome Bytes := do
  let metadata ← canonicalJSON posting.metadata
  pure (encodeObject [
    ("id", quote posting.id.toText),
    ("idempotency_key", quote posting.idempotencyKey),
    ("ledger_account", quote posting.ledgerAccount),
    ("unit_kind", quote posting.unitKind.text),
    ("unit", quote posting.unit),
    ("amount", quote posting.amount.toText),
    ("metadata", metadata)])

def postingLess (left right : Posting) : Bool :=
  if left.idempotencyKey ≠ right.idempotencyKey then left.idempotencyKey < right.idempotencyKey
  else left.id.toText < right.id.toText

def canonicalTransaction (transaction : Transaction) : Outcome Bytes := do
  let metadata ← canonicalJSON transaction.metadata
  let sorted := transaction.postings.insertionSort fun left right => ¬ postingLess right left
  let postings ← sorted.mapM canonicalPosting
  pure (encodeObject [
    ("id", quote transaction.id.toText),
    ("account_id", quote transaction.accountID.toText),
    ("event_type", quote transaction.eventType),
    ("idempotency_key", quote transaction.idempotencyKey),
    ("origin_type", quote transaction.originType),
    ("origin_id", quote transaction.originID),
    ("reference_type", quote transaction.referenceType),
    ("reference_id", quote transaction.referenceID),
    ("effective_at", quote (projectionTime transaction.effectiveAt)),
    ("observed_at", quote (projectionTime transaction.observedAt)),
    ("metadata", metadata),
    ("postings", encodeArray postings)])

def canonicalMechanics (m : ProjectionMechanics) : Bytes :=
  encodeTexts [
    ("normalization_id", m.normalizationID.toText),
    ("source_event_id", m.sourceEventID.toText),
    ("transaction_id", m.transactionID.toText),
    ("event_type", m.eventType.text),
    ("normalizer_version", m.normalizerVersion),
    ("execution_origin_type", m.executionOriginType.text),
    ("execution_origin_id", m.executionOriginID),
    ("reference_type", m.referenceType),
    ("reference_id", m.referenceID),
    ("venue", m.venue),
    ("instrument_id", projectionUUID m.instrumentID),
    ("secondary_instrument_id", projectionUUID m.secondaryInstrumentID),
    ("venue_contract_id", projectionUUID m.venueContractID),
    ("option_terms_id", projectionUUID m.optionTermsID),
    ("cash_currency", m.cashCurrency),
    ("quantity", projectionDecimalPointer m.quantity),
    ("price", projectionDecimalPointer m.price),
    ("cost_kind", m.costKind.text),
    ("cost_currency", m.costCurrency),
    ("cost_amount", projectionDecimalPointer m.costAmount),
    ("position_quantity", projectionDecimalPointer m.positionQuantity),
    ("settlement_price", projectionDecimalPointer m.settlementPrice),
    ("option_contract_type", m.optionContractType.text),
    ("strike_price", projectionDecimalPointer m.strikePrice),
    ("deliverable_quantity", projectionDecimalPointer m.deliverableQuantity),
    ("primary_multiplier", m.primaryMultiplier.toText),
    ("secondary_multiplier", m.secondaryMultiplier.toText)]

def canonicalMark (mark : ProjectionMark) : Outcome Bytes := do
  let metadata ← canonicalJSON mark.metadata
  pure (encodeObject [
    ("id", quote mark.id.toText),
    ("instrument_id", quote mark.instrumentID.toText),
    ("price", quote mark.price.toText),
    ("price_currency", quote mark.priceCurrency),
    ("source", quote mark.source),
    ("source_namespace", quote mark.sourceNamespace),
    ("source_observation_id", quote mark.sourceObservationID),
    ("source_revision", quote mark.sourceRevision),
    ("effective_at", quote (projectionTime mark.effectiveAt)),
    ("observed_at", quote (projectionTime mark.observedAt)),
    ("metadata", metadata)])

def projectionInputChecksum (request : ProjectionRequest) (currency : String) (transactions : List Transaction)
    (mechanics : MechanicsMap) (marks : List ProjectionMark) : Outcome String := do
  let transactionRows ← transactions.mapM canonicalTransaction
  let mechanicsRows := (transactions.filterMap fun transaction => mechanics.lookup transaction.id).map canonicalMechanics
  let markRows ← marks.mapM canonicalMark
  pure (sha256Hex ((encodeObject [
    ("version", quote portfolioProjectionVersion),
    ("account_id", quote request.accountID.toText),
    ("base_currency", quote currency),
    ("as_of", quote (projectionTime request.asOf)),
    ("mark_source", quote request.markSource),
    ("mark_namespace", quote request.markNamespace),
    ("max_mark_age_microseconds", encodeInt (microseconds request.maxMarkAge)),
    ("transactions", encodeArray transactionRows),
    ("mechanics", encodeArray mechanicsRows),
    ("marks", encodeArray markRows)])))

def canonicalLot (lot : ProjectionLot) : Bytes :=
  encodeTexts [
    ("id", lot.id.toText),
    ("instrument_id", lot.instrumentID.toText),
    ("opening_transaction_id", lot.openingTransactionID.toText),
    ("opening_origin_type", lot.openingOriginType.text),
    ("opening_origin_id", lot.openingOriginID),
    ("opening_reference_type", lot.openingReferenceType),
    ("opening_reference_id", lot.openingReferenceID),
    ("opened_at", projectionTime lot.openedAt),
    ("quantity", lot.quantity.toText),
    ("remaining_quantity", lot.remainingQuantity.toText),
    ("opening_cash", lot.openingCash.toText),
    ("remaining_opening_cash", lot.remainingOpeningCash.toText),
    ("mark_multiplier", lot.markMultiplier.toText)]

def canonicalMatch (record : ProjectionMatch) : Bytes :=
  encodeTexts [
    ("id", record.id.toText),
    ("lot_id", record.lotID.toText),
    ("instrument_id", record.instrumentID.toText),
    ("closing_transaction_id", record.closingTransactionID.toText),
    ("opening_origin_type", record.openingOriginType.text),
    ("opening_origin_id", record.openingOriginID),
    ("opening_reference_type", record.openingReferenceType),
    ("opening_reference_id", record.openingReferenceID),
    ("closing_origin_type", record.closingOriginType.text),
    ("closing_origin_id", record.closingOriginID),
    ("closing_reference_type", record.closingReferenceType),
    ("closing_reference_id", record.closingReferenceID),
    ("closed_at", projectionTime record.closedAt),
    ("quantity", record.quantity.toText),
    ("opening_cash", record.openingCash.toText),
    ("closing_cash", record.closingCash.toText),
    ("realized_pnl", record.realizedPnL.toText),
    ("disposition", record.disposition)]

def canonicalPosition (position : ProjectionPosition) : Bytes :=
  encodeObject [
    ("instrument_id", quote position.instrumentID.toText),
    ("open", encodeBool position.isOpen),
    ("quantity", quote position.quantity.toText),
    ("remaining_opening_cash", quote position.remainingOpeningCash.toText),
    ("realized_pnl", quote position.realizedPnL.toText),
    ("market_value", quote position.marketValue.toText),
    ("unrealized_pnl", quote position.unrealizedPnL.toText),
    ("mark_observation_id", quote (projectionUUID position.markObservationID)),
    ("open_lot_count", encodeInt position.openLotCount)]

def canonicalTotals (totals : ProjectionTotals) : Bytes :=
  encodeTexts [
    ("cash", totals.cash.toText),
    ("net_capital", totals.netCapital.toText),
    ("fees", totals.fees.toText),
    ("rebates", totals.rebates.toText),
    ("realized_pnl", totals.realizedPnL.toText),
    ("unrealized_pnl", totals.unrealizedPnL.toText),
    ("market_value", totals.marketValue.toText),
    ("equity", totals.equity.toText),
    ("total_pnl", totals.totalPnL.toText)]

def marshalProjectionPayload (p : PortfolioProjection) : Outcome Bytes := do
  let markRows ← p.marks.mapM canonicalMark
  pure ((encodeObject [
    ("checkpoint_id", quote p.checkpointID.toText),
    ("projection_type", quote p.projectionType),
    ("version", quote p.version),
    ("fifo", quote p.fifo),
    ("account_id", quote p.accountID.toText),
    ("base_currency", quote p.baseCurrency),
    ("as_of", quote (projectionTime p.asOf)),
    ("mark_source", quote p.markSource),
    ("mark_namespace", quote p.markNamespace),
    ("max_mark_age_microseconds", encodeInt (microseconds p.maxMarkAge)),
    ("through_transaction_id", quote p.throughTransactionID.toText),
    ("transaction_count", encodeInt p.transactionCount),
    ("input_checksum", quote p.inputChecksum),
    ("marks", encodeArray markRows),
    ("lots", encodeArray (p.lots.map canonicalLot)),
    ("matches", encodeArray (p.lotMatches.map canonicalMatch)),
    ("positions", encodeArray (p.positions.map canonicalPosition)),
    ("totals", canonicalTotals p.totals)]))

def projectionCheckpointID (p : PortfolioProjection) : Uuid :=
  deterministicUUID "portfolio-projection-checkpoint"
    [p.accountID.toText, p.projectionType, p.version, p.asOf.format, p.inputChecksum]

def isFuture (asOf : Instant) (transaction : Transaction) : Bool :=
  transaction.effectiveAt.after asOf || transaction.observedAt.after asOf

def eligibleTransaction (request : ProjectionRequest) (candidate : Option Transaction) :
    Outcome (Option Transaction) :=
  match candidate with
  | none => .error (.errorf "projection transaction cannot be nil" [])
  | some transaction =>
      if isFuture request.asOf transaction then .ok none
      else do
        wrapping "projection transaction %s: %w" [transaction.id.toText] transaction.validate
        failIf (transaction.accountID != request.accountID)
          (.errorf "projection transaction %s belongs to another account" [transaction.id.toText])
        pure (some transaction)

def eligibleTransactions (request : ProjectionRequest) (candidates : List (Option Transaction)) :
    Outcome (List Transaction) := do
  let kept ← candidates.mapM (eligibleTransaction request)
  pure kept.reduceOption

def projectionTransactionLess (left right : Transaction) : Bool :=
  if !left.effectiveAt.equal right.effectiveAt then left.effectiveAt.before right.effectiveAt
  else if !left.observedAt.equal right.observedAt then left.observedAt.before right.observedAt
  else left.id.toText < right.id.toText

def sortTransactions (transactions : List Transaction) : List Transaction :=
  transactions.insertionSort fun left right => ¬ projectionTransactionLess right left

def addMechanics (transactions : List Transaction) (result : MechanicsMap) (mechanics : ProjectionMechanics) :
    Outcome MechanicsMap :=
  if !transactions.any (fun transaction => transaction.id == mechanics.transactionID) then .ok result
  else do
    wrapping "projection mechanics for transaction %s: %w" [mechanics.transactionID.toText] mechanics.validate
    failIf (result.lookup mechanics.transactionID).isSome
      (.errorf "duplicate projection mechanics for transaction %s" [mechanics.transactionID.toText])
    pure (result ++ [mechanics])

def eligibleProjectionMechanics (candidates : List ProjectionMechanics) (transactions : List Transaction) :
    Outcome MechanicsMap :=
  candidates.foldlM (addMechanics transactions) []

structure Prepared where
  request : ProjectionRequest
  currency : String
  transactions : List Transaction
  mechanics : MechanicsMap

def prepareProjection (input : ProjectionInput) : Outcome Prepared := do
  let (request, currency) ← normalizeProjectionBoundary input.request input.baseCurrency
  let transactions ← eligibleTransactions request input.transactions
  failIf transactions.isEmpty (.errorf "projection requires at least one eligible ledger transaction" [])
  let sorted := sortTransactions transactions
  let mechanics ← eligibleProjectionMechanics input.mechanics sorted
  pure ⟨request, currency, sorted, mechanics⟩

def buildPortfolioProjection (input : ProjectionInput) : Outcome PortfolioProjection := do
  let prepared ← prepareProjection input
  let request := prepared.request
  let state ← ProjectionState.replay prepared.currency prepared.mechanics .initial prepared.transactions
  let (marks, positions, totals) ← state.finalize request prepared.currency input.marks
  let inputChecksum ←
    projectionInputChecksum request prepared.currency prepared.transactions prepared.mechanics marks
  let unsigned : PortfolioProjection :=
    { checkpointID := Uuid.nil
      projectionType := portfolioProjectionType
      version := portfolioProjectionVersion
      fifo := projectionFIFO
      accountID := request.accountID
      baseCurrency := prepared.currency
      asOf := request.asOf
      markSource := request.markSource
      markNamespace := request.markNamespace
      maxMarkAge := request.maxMarkAge
      throughTransactionID := (prepared.transactions.getLast?.map Transaction.id).getD Uuid.nil
      transactionCount := prepared.transactions.length
      inputChecksum := inputChecksum
      outputChecksum := ""
      marks := marks
      lots := state.lots
      lotMatches := state.lotMatches
      positions := positions
      totals := totals
      payloadBytes := [] }
  let identified := { unsigned with checkpointID := projectionCheckpointID unsigned }
  let payload ← marshalProjectionPayload identified
  pure { identified with payloadBytes := payload, outputChecksum := sha256Hex payload }

end Augr.Ledger
