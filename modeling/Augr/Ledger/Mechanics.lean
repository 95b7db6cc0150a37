import Augr.Ledger.Normalization

/-! Replay mechanics: the execution facts that balanced postings do not carry. -/

set_option autoImplicit false

namespace Augr.Ledger

open Foundation

structure ProjectionMechanics where
  (normalizationID sourceEventID transactionID : Uuid)
  eventType : EconomicEventType
  normalizerVersion : String
  executionOriginType : ExecutionOriginType
  (executionOriginID referenceType referenceID venue : String)
  (instrumentID secondaryInstrumentID venueContractID optionTermsID : Uuid)
  cashCurrency : String
  (quantity price : Option Decimal)
  costKind : CostKind
  costCurrency : String
  (costAmount positionQuantity settlementPrice : Option Decimal)
  optionContractType : OptionContractType
  (strikePrice deliverableQuantity : Option Decimal)
  (primaryMultiplier secondaryMultiplier : Decimal)
  deriving DecidableEq

namespace ProjectionMechanics

def optionalDecimals (m : ProjectionMechanics) : List (Option Decimal) :=
  [m.quantity, m.price, m.costAmount, m.positionQuantity, m.settlementPrice, m.strikePrice, m.deliverableQuantity]

/-- Instrument, contract and multipliers of an event on one instrument. -/
def singleInstrument (m : ProjectionMechanics) : Bool :=
  m.instrumentID != Uuid.nil && m.secondaryInstrumentID == Uuid.nil && m.venueContractID != Uuid.nil &&
    m.optionTermsID == Uuid.nil && m.venue != "" && m.primaryMultiplier.isPositive && m.secondaryMultiplier.isZero

def noOptionTerms (m : ProjectionMechanics) : Bool :=
  m.optionContractType.text == "" && m.strikePrice.isNone && m.deliverableQuantity.isNone

def noCost (m : ProjectionMechanics) : Bool :=
  m.costKind.text == "" && m.costCurrency == "" && m.costAmount.isNone

def validateCost (m : ProjectionMechanics) : Outcome Unit :=
  failIf (m.instrumentID != Uuid.nil || m.secondaryInstrumentID != Uuid.nil || m.venueContractID != Uuid.nil ||
      m.optionTermsID != Uuid.nil || m.venue != "" || !m.primaryMultiplier.isZero || !m.secondaryMultiplier.isZero ||
      m.quantity.isSome || m.price.isSome || m.positionQuantity.isSome || m.settlementPrice.isSome ||
      !m.costAmount.any Decimal.isPositive || m.costCurrency != m.cashCurrency || !m.noOptionTerms ||
      m.eventType == .fee && m.costKind != .fee || m.eventType == .rebate && m.costKind != .rebate)
    (.errorf "standalone cost mechanics cannot contain instrument mechanics" [])

def validateFill (m : ProjectionMechanics) : Outcome Unit := do
  failIf (!m.singleInstrument || !m.quantity.any Decimal.isPositive || !m.price.any (fun price => !price.isNegative) ||
      m.positionQuantity.isSome || m.settlementPrice.isSome || !m.noOptionTerms)
    (.errorf "fill projection mechanics are incomplete or contain irrelevant fields" [])
  failIf (m.costAmount.isNone != (m.costKind.text == "" || m.costCurrency == ""))
    (.errorf "fill cost projection mechanics must be wholly absent or present" [])
  failIf (m.costAmount.any fun amount => !amount.isPositive || m.costKind != .fee && m.costKind != .rebate ||
      m.costCurrency != m.cashCurrency)
    (.errorf "fill cost projection mechanics are invalid" [])

def validateCashSettlement (m : ProjectionMechanics) : Outcome Unit :=
  failIf (!m.singleInstrument || m.quantity.isSome || m.price.isSome || !m.noCost ||
      !m.positionQuantity.any (fun position => !position.isZero) ||
      !m.settlementPrice.any (fun price => !price.isNegative) || !m.noOptionTerms)
    (.errorf "cash-settlement projection mechanics are incomplete or contain irrelevant fields" [])

def validatePhysicalOption (m : ProjectionMechanics) : Outcome Unit :=
  failIf (m.instrumentID == Uuid.nil || m.secondaryInstrumentID == Uuid.nil || m.venueContractID == Uuid.nil ||
      m.optionTermsID == Uuid.nil || m.venue == "" || !m.primaryMultiplier.isPositive ||
      !m.secondaryMultiplier.isPositive || m.quantity.isSome || m.price.isSome || !m.noCost ||
      !m.positionQuantity.any (fun position => !position.isZero) || m.settlementPrice.isSome ||
      m.optionContractType != .call && m.optionContractType != .put || !m.strikePrice.any Decimal.isPositive ||
      !m.deliverableQuantity.any (fun deliverable =>
        deliverable.isPositive && m.primaryMultiplier.equal deliverable))
    (.errorf "physical option mechanics require both instruments and positive multipliers" [])

def validateShape (m : ProjectionMechanics) : Outcome Unit :=
  match m.eventType with
  | .fee | .rebate => m.validateCost
  | .fillBuy | .fillSell => m.validateFill
  | .optionCashSettlement | .optionExpiration | .predictionPayout => m.validateCashSettlement
  | .optionExercise | .optionAssignment => m.validatePhysicalOption
  | .unrecognized text => .error (.errorf "projection instrument mechanics are invalid for %q" [text])

def validate (m : ProjectionMechanics) : Outcome Unit := do
  failIf (m.normalizationID == Uuid.nil || m.sourceEventID == Uuid.nil || m.transactionID == Uuid.nil)
    (.errorf "projection normalization, source-event, and transaction IDs are required" [])
  failIf (!isNormalizedRequired m.normalizerVersion ||
      m.normalizationID != EconomicNormalization.normalizationID m.sourceEventID m.normalizerVersion ||
      m.transactionID != deterministicUUID "economic-ledger-transaction" [m.sourceEventID.toText, m.normalizerVersion])
    (.errorf "projection normalization mechanics have invalid deterministic identity" [])
  failIf (!validExecutionOriginType m.executionOriginType || !isNormalizedRequired m.executionOriginID ||
      !isNormalizedRequired m.referenceType || !isNormalizedRequired m.referenceID || !isCurrencyUnit m.cashCurrency)
    (.errorf "projection execution origin and reference are invalid" [])
  failIf (m.venue != "" && (!isNormalizedRequired m.venue || m.venue != Text.toLower m.venue))
    (.errorf "projection mechanics venue is not normalized" [])
  forEach (fun value => failIf (value.any fun value => !validProjectionDecimal value)
    (.errorf "projection mechanics decimal has invalid precision or magnitude" [])) m.optionalDecimals
  forEach (fun multiplier : Decimal => failIf (!multiplier.isZero &&
      (!multiplier.isPositive || !validProjectionDecimal multiplier))
    (.errorf "projection multiplier is not a positive exact decimal" [])) [m.primaryMultiplier, m.secondaryMultiplier]
  m.validateShape

end ProjectionMechanics

end Augr.Ledger
