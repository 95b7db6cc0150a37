import Augr.Primitives

/-! Canonical instruments, venue contracts and option terms, with their standalone checks. -/

set_option autoImplicit false

namespace Augr

open Foundation

inductive AssetClass where
  | unknown
  | equity
  | etf
  | option
  | cryptoSpot
  | predictionContract
  | future
  | unrecognized (text : String)
  deriving DecidableEq, Repr

def AssetClass.text : AssetClass → String
  | .unknown => "unknown"
  | .equity => "equity"
  | .etf => "etf"
  | .option => "option"
  | .cryptoSpot => "crypto_spot"
  | .predictionContract => "prediction_contract"
  | .future => "future"
  | .unrecognized text => text

inductive InstrumentStatus where
  | active
  | inactive
  | expired
  | quarantined
  | unrecognized (text : String)
  deriving DecidableEq, Repr

def InstrumentStatus.text : InstrumentStatus → String
  | .active => "active"
  | .inactive => "inactive"
  | .expired => "expired"
  | .quarantined => "quarantined"
  | .unrecognized text => text

/-- An empty settlement method is `unrecognized ""`. -/
inductive SettlementMethod where
  | cash
  | physical
  | crypto
  | binary
  | unrecognized (text : String)
  deriving DecidableEq, Repr

def SettlementMethod.text : SettlementMethod → String
  | .cash => "cash"
  | .physical => "physical"
  | .crypto => "crypto"
  | .binary => "binary"
  | .unrecognized text => text

inductive ExerciseStyle where
  | american
  | european
  | unrecognized (text : String)
  deriving DecidableEq, Repr

def ExerciseStyle.text : ExerciseStyle → String
  | .american => "american"
  | .european => "european"
  | .unrecognized text => text

def validAssetClass : AssetClass → Bool
  | .unrecognized _ => false
  | _ => true

def validStatus : InstrumentStatus → Bool
  | .unrecognized _ => false
  | _ => true

def validSettlementMethod : SettlementMethod → Bool
  | .unrecognized _ => false
  | _ => true

def validExerciseStyle : ExerciseStyle → Bool
  | .unrecognized _ => false
  | _ => true

structure Instrument where
  id : Uuid
  identityKey : String
  assetClass : AssetClass
  (primaryVenue currency : String)
  (tickSize lotSize multiplier : Decimal)
  expiration : Option Instant
  exerciseStyle : ExerciseStyle
  settlementMethod : SettlementMethod
  underlyingID : Option Uuid
  status : InstrumentStatus
  metadata : RawMessage
  createdAt : Instant
  deriving DecidableEq

namespace Instrument

/-- Quarantined records may leave a mechanic at zero. -/
def validateMechanic (quarantined : Bool) (name : String) (value : Decimal) : Outcome Unit :=
  if quarantined && value.isZero then .ok ()
  else do
    failIf (!value.isPositive) (.errorf "instrument %s must be positive when supplied" [name])
    failIf (!hasDecimalScaleAtMost value 12) (.errorf "instrument %s supports at most 12 decimal places" [name])
    failIf (26 < value.numDigits + value.exponent)
      (.errorf "instrument %s exceeds NUMERIC(38,12) magnitude" [name])

def validate (i : Instrument) : Outcome Unit := do
  failIf (i.id == Uuid.nil) (.errorf "instrument ID is required" [])
  failIf (!isNormalizedRequired i.identityKey) (.errorf "instrument identity key must be non-empty and normalized" [])
  failIf (!validAssetClass i.assetClass) (.errorf "instrument asset class %q is invalid" [i.assetClass.text])
  failIf (!validStatus i.status) (.errorf "instrument status %q is invalid" [i.status.text])
  let quarantined := i.status == .quarantined
  failIf (!quarantined && i.assetClass == .unknown) (.errorf "verified instrument asset class cannot be unknown" [])
  failIf (!isNormalizedLower i.primaryVenue) (.errorf "instrument primary venue must be non-empty and normalized" [])
  failIf ((!quarantined || i.currency != "") && !isCurrencyUnit i.currency)
    (.errorf "instrument currency %q must be a normalized three-letter code" [i.currency])
  -- The program ranges over a map here; which mechanic is reported first is not fixed.
  validateMechanic quarantined "tick size" i.tickSize
  validateMechanic quarantined "lot size" i.lotSize
  validateMechanic quarantined "multiplier" i.multiplier
  failIf ((!quarantined || i.settlementMethod.text != "") && !validSettlementMethod i.settlementMethod)
    (.errorf "instrument settlement method %q is invalid" [i.settlementMethod.text])
  failIf (i.expiration.any fun expiration => !isNormalizedReferenceTime expiration)
    (.errorf "instrument expiration must use normalized UTC microsecond precision" [])
  failIf (i.exerciseStyle.text != "" && !validExerciseStyle i.exerciseStyle)
    (.errorf "instrument exercise style %q is invalid" [i.exerciseStyle.text])
  failIf (i.underlyingID == some Uuid.nil) (.errorf "instrument underlying ID cannot be nil" [])
  failIf (i.underlyingID == some i.id) (.errorf "instrument cannot be its own underlying" [])
  failIf (!quarantined && i.assetClass == .option &&
      (i.expiration.isNone || !validExerciseStyle i.exerciseStyle || i.underlyingID.isNone))
    (.errorf "option instrument requires expiration, exercise style, and underlying ID" [])
  failIf (!i.createdAt.isCanonical) (.errorf "instrument creation time must use normalized UTC microsecond precision" [])
  let metadata ← normalizeJSONObject i.metadata "instrument metadata"
  failIf (quarantined && ((decodeObject metadata).getD []).isEmpty)
    (.errorf "quarantined instrument metadata must record provenance" [])

end Instrument

structure VenueContract where
  (id instrumentID : Uuid)
  (venue contractID currency : String)
  (tickSize lotSize multiplier : Decimal)
  settlementMethod : SettlementMethod
  validFrom : Instant
  validTo : Option Instant
  metadata : RawMessage
  createdAt : Instant
  deriving DecidableEq

def VenueContract.validate (c : VenueContract) : Outcome Unit := do
  failIf (c.id == Uuid.nil || c.instrumentID == Uuid.nil) (.errorf "venue contract and instrument IDs are required" [])
  failIf (!isNormalizedLower c.venue) (.errorf "venue contract venue must be non-empty and normalized" [])
  failIf (c.contractID == "" || c.contractID != Text.toUpper (Text.trimSpace c.contractID))
    (.errorf "venue contract ID must be non-empty and normalized" [])
  failIf (!isCurrencyUnit c.currency)
    (.errorf "venue contract currency %q must be a normalized three-letter code" [c.currency])
  validatePositiveDecimal "tick size" c.tickSize
  validatePositiveDecimal "lot size" c.lotSize
  validatePositiveDecimal "multiplier" c.multiplier
  failIf (!validSettlementMethod c.settlementMethod)
    (.errorf "venue contract settlement method %q is invalid" [c.settlementMethod.text])
  failIf (!c.validFrom.isCanonical)
    (.errorf "venue contract valid-from time must use normalized UTC microsecond precision" [])
  failIf (c.validTo.any fun validTo => !isNormalizedReferenceTime validTo)
    (.errorf "venue contract valid-to time must use normalized UTC microsecond precision" [])
  failIf (c.validTo.any fun validTo => !validTo.after c.validFrom)
    (.errorf "venue contract valid-to time must be after valid-from time" [])
  failIf (!c.createdAt.isCanonical)
    (.errorf "venue contract creation time must use normalized UTC microsecond precision" [])
  let _ ← normalizeJSONObject c.metadata "venue contract metadata"

inductive OptionContractType where
  | call
  | put
  | unrecognized (text : String)
  deriving DecidableEq, Repr

def OptionContractType.text : OptionContractType → String
  | .call => "call"
  | .put => "put"
  | .unrecognized text => text

structure OptionContractTerms where
  (id optionInstrumentID underlyingInstrumentID : Uuid)
  contractType : OptionContractType
  strikePrice : Decimal
  strikeCurrency : String
  deliverableQuantity : Decimal
  (source sourceNamespace sourceRecordID sourceRevision : String)
  (effectiveAt observedAt : Instant)
  rawPayload : RawMessage
  payloadSHA256 : String
  metadata : RawMessage
  createdAt : Instant
  deriving DecidableEq

namespace OptionContractTerms

def expectedID (t : OptionContractTerms) : Uuid :=
  deterministicUUID "option-contract-terms"
    [t.optionInstrumentID.toText, t.source, t.sourceNamespace, t.sourceRecordID]

def validate (t : OptionContractTerms) : Outcome Unit := do
  failIf (t.optionInstrumentID == Uuid.nil || t.underlyingInstrumentID == Uuid.nil)
    (.errorf "option contract terms require option and underlying instrument IDs" [])
  failIf (t.optionInstrumentID == t.underlyingInstrumentID)
    (.errorf "option contract terms underlying must differ from the option instrument" [])
  failIf (t.contractType != .call && t.contractType != .put)
    (.errorf "option contract type %q is invalid" [t.contractType.text])
  validatePositiveDecimal "option strike price" t.strikePrice
  failIf (!isCurrencyUnit t.strikeCurrency)
    (.errorf "option strike currency %q must be a normalized three-letter code" [t.strikeCurrency])
  validatePositiveDecimal "option deliverable quantity" t.deliverableQuantity
  failIf (!isNormalizedLower t.source) (.errorf "option terms source must be non-empty and normalized lowercase" [])
  failIf (!isNormalizedRequired t.sourceNamespace || !isNormalizedRequired t.sourceRecordID)
    (.errorf "option terms source namespace and record ID must be non-empty and normalized" [])
  failIf (t.sourceRevision != Text.trimSpace t.sourceRevision)
    (.errorf "option terms source revision must be normalized" [])
  failIf (!t.effectiveAt.isCanonical)
    (.errorf "option terms effective time must use normalized UTC microsecond precision" [])
  failIf (!t.observedAt.isCanonical)
    (.errorf "option terms observed time must use normalized UTC microsecond precision" [])
  failIf (t.observedAt.before t.effectiveAt) (.errorf "option terms observed time cannot precede effective time" [])
  failIf (t.rawPayload.isEmpty || !Json.isValid t.rawPayload)
    (.errorf "option terms raw payload must be valid JSON" [])
  failIf (t.payloadSHA256 != sha256Hex t.rawPayload)
    (.errorf "option terms payload SHA-256 does not match raw bytes" [])
  let _ ← normalizeJSONObject t.metadata "option contract terms metadata"
  failIf (!t.createdAt.isCanonical)
    (.errorf "option terms creation time must use normalized UTC microsecond precision" [])
  failIf (t.id != t.expectedID) (.errorf "option contract terms ID does not match deterministic source identity" [])

end OptionContractTerms

end Augr
