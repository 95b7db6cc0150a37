import Augr.Primitives

/-! Balanced ledger transactions and their posting lines. -/

set_option autoImplicit false

namespace Augr.Ledger

open Foundation Text

inductive UnitKind where
  | currency
  | instrument
  | unrecognized (text : String)
  deriving DecidableEq, Repr

def UnitKind.text : UnitKind → String
  | .currency => "currency"
  | .instrument => "instrument"
  | .unrecognized text => text

structure Posting where
  (id transactionID : Uuid)
  (idempotencyKey ledgerAccount : String)
  unitKind : UnitKind
  unit : String
  amount : Decimal
  metadata : RawMessage
  createdAt : Instant
  deriving DecidableEq

structure Transaction where
  (id accountID : Uuid)
  (eventType idempotencyKey originType originID referenceType referenceID : String)
  (effectiveAt observedAt : Instant)
  metadata : RawMessage
  postings : List Posting
  createdAt : Instant
  deriving DecidableEq

structure PostingInput where
  (idempotencyKey ledgerAccount : String)
  unitKind : UnitKind
  unit : String
  amount : Decimal
  metadata : RawMessage
  deriving DecidableEq

structure TransactionInput where
  accountID : Uuid
  (eventType idempotencyKey originType originID referenceType referenceID : String)
  (effectiveAt observedAt : Instant)
  metadata : RawMessage
  postings : List PostingInput

abbrev PostingUnit := UnitKind × String

def Posting.postingUnit (posting : Posting) : PostingUnit := (posting.unitKind, posting.unit)

/-- The running balance of every unit seen so far, in order of first use. -/
abbrev Balances := List (PostingUnit × Decimal)

def addBalance (unit : PostingUnit) (amount : Decimal) : Balances → Balances
  | [] => [(unit, Decimal.unset.add amount)]
  | entry :: rest =>
      if entry.1 = unit then (unit, entry.2.add amount) :: rest else entry :: addBalance unit amount rest

namespace Posting

/-- The checks of one posting that do not look at its siblings. -/
def validateLine (transactionID : Uuid) (seen : List String) (posting : Posting) : Outcome Unit := do
  failIf (posting.id == Uuid.nil || posting.transactionID != transactionID)
    (.errorf "posting identity does not match ledger transaction" [])
  failIf (!isNormalizedRequired posting.idempotencyKey || !isNormalizedRequired posting.ledgerAccount)
    (.errorf "posting idempotency key and ledger account must be non-empty and normalized" [])
  failIf (seen.contains posting.idempotencyKey)
    (.errorf "duplicate posting idempotency key %q" [posting.idempotencyKey])
  failIf (posting.unitKind != .currency && posting.unitKind != .instrument)
    (.errorf "posting unit kind %q is invalid" [posting.unitKind.text])
  failIf (!isNormalizedRequired posting.unit) (.errorf "posting unit must be non-empty and normalized" [])
  failIf (posting.unitKind == .currency && !isCurrencyUnit posting.unit)
    (.errorf "posting currency unit %q must be a three-letter code" [posting.unit])
  failIf posting.amount.isZero (.errorf "posting amount must be non-zero" [])
  failIf posting.createdAt.isZero (.errorf "posting creation time is required" [])
  failIf (!hasPostgresTimestampPrecision posting.createdAt)
    (.errorf "posting creation time must use PostgreSQL microsecond precision" [])
  failIf (!hasDecimalScaleAtMost posting.amount 12) (.errorf "posting amount supports at most 12 decimal places" [])
  failIf (26 < posting.amount.numDigits + posting.amount.exponent)
    (.errorf "posting amount exceeds NUMERIC(38,12) magnitude" [])
  let _ ← normalizeJSONObject posting.metadata "posting metadata"

end Posting

def validatePostings (transactionID : Uuid) : List String → Balances → List Posting → Outcome Balances
  | _, balances, [] => .ok balances
  | seen, balances, posting :: rest => do
      posting.validateLine transactionID seen
      validatePostings transactionID (posting.idempotencyKey :: seen)
        (addBalance posting.postingUnit posting.amount balances) rest

def validateBalance (entry : PostingUnit × Decimal) : Outcome Unit :=
  failIf (!entry.2.isZero)
    (.errorf "ledger postings do not balance for %s %s: %s" [entry.1.1.text, entry.1.2, entry.2.toText])

def Transaction.validate (t : Transaction) : Outcome Unit := do
  failIf (t.id == Uuid.nil || t.accountID == Uuid.nil) (.errorf "ledger transaction and account IDs are required" [])
  failIf (!isNormalizedRequired t.eventType || !isNormalizedRequired t.idempotencyKey)
    (.errorf "ledger event type and idempotency key must be non-empty and normalized" [])
  failIf (!isNormalizedRequired t.originType || !isNormalizedRequired t.originID)
    (.errorf "ledger origin type and ID must be non-empty and normalized" [])
  failIf ((t.referenceType == "") != (t.referenceID == ""))
    (.errorf "ledger reference type and ID must be provided together" [])
  failIf (t.referenceType != "" && (!isNormalizedRequired t.referenceType || !isNormalizedRequired t.referenceID))
    (.errorf "ledger reference type and ID must be normalized" [])
  failIf (t.effectiveAt.isZero || t.observedAt.isZero || t.createdAt.isZero)
    (.errorf "ledger effective, observed, and creation times are required" [])
  failIf (!hasPostgresTimestampPrecision t.effectiveAt || !hasPostgresTimestampPrecision t.observedAt ||
      !hasPostgresTimestampPrecision t.createdAt)
    (.errorf "ledger timestamps must use PostgreSQL microsecond precision" [])
  let _ ← normalizeJSONObject t.metadata "transaction metadata"
  failIf (t.postings.length < 2) (.errorf "ledger transaction requires at least two postings" [])
  let balances ← validatePostings t.id [] [] t.postings
  -- The program ranges over a map here; which unit is reported first is not fixed.
  forEach validateBalance balances

def materializePosting (transactionID : Uuid) (postingID : String → Uuid) (createdAt : Instant)
    (candidate : PostingInput) : Outcome Posting := do
  let metadata ← normalizeJSONObject candidate.metadata "posting metadata"
  let trimmed := trimSpace candidate.unit
  let unit := if candidate.unitKind = .currency then toUpper trimmed else trimmed
  let key := trimSpace candidate.idempotencyKey
  pure
    { id := postingID key
      transactionID := transactionID
      idempotencyKey := key
      ledgerAccount := trimSpace candidate.ledgerAccount
      unitKind := candidate.unitKind
      unit := unit
      amount := candidate.amount
      metadata := metadata
      createdAt := createdAt }

def materializeTransaction (clock : Reading) (input : TransactionInput) (transactionID : Uuid)
    (postingID : String → Uuid) (defaultObservedAt : Bool) : Outcome Transaction := do
  let createdAt := clock.now
  let metadata ← normalizeJSONObject input.metadata "transaction metadata"
  let postings ← input.postings.mapM (materializePosting transactionID postingID createdAt)
  let observed := input.observedAt.normalize
  let transaction : Transaction :=
    { id := transactionID
      accountID := input.accountID
      eventType := trimSpace input.eventType
      idempotencyKey := trimSpace input.idempotencyKey
      originType := trimSpace input.originType
      originID := trimSpace input.originID
      referenceType := trimSpace input.referenceType
      referenceID := trimSpace input.referenceID
      effectiveAt := input.effectiveAt.normalize
      observedAt := if observed.isZero && defaultObservedAt then createdAt else observed
      metadata := metadata
      postings := postings
      createdAt := createdAt }
  transaction.validate
  pure transaction

def newDeterministicTransaction (clock : Reading) (seed : Uuid) (normalizerVersion : String)
    (input : TransactionInput) : Outcome Transaction := do
  failIf (seed == Uuid.nil) (.errorf "deterministic ledger transaction seed is required" [])
  failIf (!isNormalizedRequired normalizerVersion)
    (.errorf "deterministic ledger normalizer version must be non-empty and normalized" [])
  failIf input.observedAt.isZero (.errorf "deterministic ledger observed time is required" [])
  materializeTransaction clock input (deterministicUUID "economic-ledger-transaction" [seed.toText, normalizerVersion])
    (fun postingKey => deterministicUUID "economic-ledger-posting" [seed.toText, normalizerVersion, postingKey])
    false

end Augr.Ledger
