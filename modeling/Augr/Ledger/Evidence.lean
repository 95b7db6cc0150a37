import Augr.Primitives

/-! Raw evidence: economic source events and canonical price marks. -/

set_option autoImplicit false

namespace Augr.Ledger

open Foundation Text

structure EconomicSourceEvent where
  (id accountID : Uuid)
  (source sourceNamespace sourceEventID sourceRevision : String)
  observedAt : Instant
  rawPayload : RawMessage
  payloadSHA256 : String
  createdAt : Instant
  deriving DecidableEq

structure EconomicSourceEventInput where
  accountID : Uuid
  (source sourceNamespace sourceEventID sourceRevision : String)
  observedAt : Instant
  rawPayload : RawMessage
  createdAt : Instant

namespace EconomicSourceEvent

/-- Revision and payload are evidence and stay outside the identity. -/
def sourceIdentity (accountID : Uuid) (source sourceNamespace sourceEventID : String) : Uuid :=
  deterministicUUID "economic-source-event" [accountID.toText, source, sourceNamespace, sourceEventID]

def validate (e : EconomicSourceEvent) : Outcome Unit := do
  failIf (e.accountID == Uuid.nil) (.errorf "economic source event account ID is required" [])
  failIf (!isNormalizedLower e.source)
    (.errorf "economic source event source must be non-empty and normalized lowercase" [])
  failIf (!isNormalizedRequired e.sourceNamespace || !isNormalizedRequired e.sourceEventID)
    (.errorf "economic source event namespace and source event ID must be non-empty and normalized" [])
  failIf (e.sourceRevision != trimSpace e.sourceRevision)
    (.errorf "economic source event revision must be normalized" [])
  failIf (!e.observedAt.isCanonical)
    (.errorf "economic source event observed time must use normalized UTC microsecond precision" [])
  failIf (!e.createdAt.isCanonical)
    (.errorf "economic source event creation time must use normalized UTC microsecond precision" [])
  failIf (e.rawPayload.isEmpty || !Json.isValid e.rawPayload)
    (.errorf "economic source event raw payload must be valid JSON" [])
  failIf (e.payloadSHA256 != sha256Hex e.rawPayload)
    (.errorf "economic source event payload SHA-256 does not match raw bytes" [])
  failIf (e.id != sourceIdentity e.accountID e.source e.sourceNamespace e.sourceEventID)
    (.errorf "economic source event ID does not match deterministic source identity" [])

end EconomicSourceEvent

def newEconomicSourceEvent (clock : Reading) (input : EconomicSourceEventInput) : Outcome EconomicSourceEvent := do
  let given := input.createdAt.normalize
  let source := toLower (trimSpace input.source)
  let sourceNamespace := trimSpace input.sourceNamespace
  let sourceEventID := trimSpace input.sourceEventID
  let event : EconomicSourceEvent :=
    { id := EconomicSourceEvent.sourceIdentity input.accountID source sourceNamespace sourceEventID
      accountID := input.accountID
      source := source
      sourceNamespace := sourceNamespace
      sourceEventID := sourceEventID
      sourceRevision := trimSpace input.sourceRevision
      observedAt := input.observedAt.normalize
      rawPayload := input.rawPayload
      payloadSHA256 := sha256Hex input.rawPayload
      createdAt := if given.isZero then clock.now else given }
  event.validate
  pure event

structure MarkObservation where
  (id instrumentID : Uuid)
  price : Decimal
  (priceCurrency source sourceNamespace sourceObservationID sourceRevision : String)
  (effectiveAt observedAt : Instant)
  metadata : RawMessage
  createdAt : Instant
  deriving DecidableEq

def markObservationID (mark : MarkObservation) : Uuid :=
  deterministicUUID "canonical-mark-observation"
    [mark.instrumentID.toText, mark.priceCurrency, mark.source, mark.sourceNamespace, mark.sourceObservationID]

def MarkObservation.validate (mark : MarkObservation) : Outcome Unit := do
  failIf (mark.id == Uuid.nil || mark.instrumentID == Uuid.nil) (.errorf "mark and instrument IDs are required" [])
  failIf mark.price.isNegative (.errorf "mark price cannot be negative" [])
  failIf (!validProjectionDecimal mark.price)
    (.errorf "mark price supports at most 12 fractional and 26 integer digits" [])
  failIf (!isCurrencyUnit mark.priceCurrency)
    (.errorf "mark price currency %q must be a normalized three-letter code" [mark.priceCurrency])
  failIf (!isNormalizedRequired mark.source || mark.source != toLower mark.source)
    (.errorf "mark source must be non-empty and lowercase normalized" [])
  failIf (!isNormalizedRequired mark.sourceNamespace || !isNormalizedRequired mark.sourceObservationID)
    (.errorf "mark source namespace and observation ID must be non-empty and normalized" [])
  failIf (mark.sourceRevision != trimSpace mark.sourceRevision)
    (.errorf "mark source revision must be normalized" [])
  failIf (mark.effectiveAt.isZero || mark.observedAt.isZero || mark.createdAt.isZero)
    (.errorf "mark effective, observed, and creation times are required" [])
  forEach (fun value => failIf (!isNormalizedReferenceTime value)
      (.errorf "mark timestamps must use UTC PostgreSQL microsecond precision" []))
    [mark.effectiveAt, mark.observedAt, mark.createdAt]
  failIf (mark.observedAt.before mark.effectiveAt) (.errorf "mark observed time cannot precede effective time" [])
  let _ ← normalizeJSONObject mark.metadata "mark metadata"
  failIf (mark.id != markObservationID mark)
    (.errorf "mark ID %s does not match deterministic identity %s" [mark.id.toText, (markObservationID mark).toText])

end Augr.Ledger
