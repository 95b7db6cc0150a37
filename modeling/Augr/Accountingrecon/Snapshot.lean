import Augr.Foundation.Fields
import Augr.Foundation.Keyed
import Augr.Foundation.DecimalText
import Augr.Primitives

/-! Accounting snapshots: the metrics and positions of one side at one instant, with the facts
it could not give, under a content address. All fields can be changed after the snapshot was
built, so a reader validates it first. -/

set_option autoImplicit false

namespace Augr.Accountingrecon

open Foundation Json Text

def snapshotVersion : String := "accounting_snapshot_v1"

def policyVersion : String := "legacy_ledger_v1"

def maxFactKeyLength : Nat := 256

def maxEvidenceLength : Nat := 512

inductive SnapshotSource where
  | legacy
  | ledger
  | unrecognized (text : String)
  deriving DecidableEq

def SnapshotSource.text : SnapshotSource → String
  | .legacy => "legacy_compatibility"
  | .ledger => "immutable_ledger"
  | .unrecognized text => text

def SnapshotSource.valid (source : SnapshotSource) : Bool := source == .legacy || source == .ledger

inductive MetricKind where
  | cash
  | buyingPower
  | fees
  | realizedPnL
  | unrealizedPnL
  | marketValue
  | equity
  | unrecognized (text : String)
  deriving DecidableEq

def MetricKind.text : MetricKind → String
  | .cash => "cash"
  | .buyingPower => "buying_power"
  | .fees => "fees"
  | .realizedPnL => "realized_pnl"
  | .unrealizedPnL => "unrealized_pnl"
  | .marketValue => "market_value"
  | .equity => "equity"
  | .unrecognized text => text

def requiredMetrics : List MetricKind :=
  [.buyingPower, .cash, .equity, .fees, .marketValue, .realizedPnL, .unrealizedPnL]

def MetricKind.valid (kind : MetricKind) : Bool := requiredMetrics.contains kind

inductive ValueProvenance where
  | exactDecimal
  | binaryFloat
  | unrecognized (text : String)
  deriving DecidableEq

def ValueProvenance.text : ValueProvenance → String
  | .exactDecimal => "exact_decimal"
  | .binaryFloat => "binary_float"
  | .unrecognized text => text

def ValueProvenance.valid (provenance : ValueProvenance) : Bool := provenance == .exactDecimal || provenance == .binaryFloat

inductive MissingReason where
  | sourceUnavailable
  | unscopedLegacyRows
  | instrumentIdentity
  | captureAtomicity
  | unrecognized (text : String)
  deriving DecidableEq

def MissingReason.text : MissingReason → String
  | .sourceUnavailable => "source_unavailable"
  | .unscopedLegacyRows => "unscoped_legacy_rows"
  | .instrumentIdentity => "instrument_identity_unresolved"
  | .captureAtomicity => "capture_not_atomic"
  | .unrecognized text => text

def MissingReason.valid (reason : MissingReason) : Bool :=
  [MissingReason.sourceUnavailable, .unscopedLegacyRows, .instrumentIdentity, .captureAtomicity].contains reason

structure Metric where
  kind : MetricKind
  value : Decimal
  provenance : ValueProvenance
  deriving DecidableEq

structure Position where
  instrumentID : Uuid
  quantity : Decimal
  provenance : ValueProvenance
  deriving DecidableEq

structure MissingFact where
  factKey : String
  reasonCode : MissingReason
  evidenceRef : String
  deriving DecidableEq

structure SnapshotInput where
  source : SnapshotSource
  accountID : Uuid
  (asOf observedAt : Instant)
  (currency projectionVersion markSource markNamespace : String)
  maxMarkAge : Duration
  captureFenceID : String
  captureEpoch : UInt64
  (evidenceID evidenceChecksum : String)
  (synthetic positionCoverageComplete : Bool)
  metrics : List Metric
  positions : List Position
  missing : List MissingFact
  deriving DecidableEq

structure Snapshot extends SnapshotInput where
  id : Uuid
  version : String
  payloadBytes : Bytes
  checksum : String
  deriving DecidableEq

def metricFactKey (kind : MetricKind) : String := "metric:" ++ kind.text

def positionFactKey (instrumentID : Uuid) : String := "position:" ++ instrumentID.toText ++ ":quantity"

/-- The character classes of the standard library. -/
structure Unicode where
  (isLower isDigit : Char → Bool)

def normalizedRequired (value : String) (maxLength : Nat) : Bool :=
  value != "" && value == trimSpace value && byteLength value ≤ maxLength &&
    !(characters value).any fun c => c == '\r' || c == '\n' || c == '\x00'

def normalizedLower (value : String) (maxLength : Nat) : Bool :=
  normalizedRequired value maxLength && value == toLower value

def validFactKey (unicode : Unicode) (value : String) : Bool :=
  normalizedRequired value maxFactKeyLength &&
    (characters value).all fun c => unicode.isLower c || unicode.isDigit c || c == ':' || c == '-' || c == '_'

def validSHA256 (value : String) : Bool :=
  byteLength value == 64 && value == toLower value && (hexBytes (utf8 value)).isSome

def asciiLetters (value : String) : Bool := (characters value).all fun c => 'A' ≤ c && c ≤ 'Z'

def requireUTCMicrosecond (field : String) (value : Instant) : Outcome Unit := do
  failIf value.isZero (.errorf "accounting snapshot %s is required" [field])
  failIf (!value.utc || !value.equal value.truncate)
    (.errorf "accounting snapshot %s must be UTC microsecond precision" [field])

def normalizeDecimal (value : Decimal) : Decimal := if value.isZero then .zero else value

/-- At most twenty-six digits before the point and eighteen after it. -/
def validExactDecimal (value : Decimal) : Bool :=
  let text := characters (normalizeDecimal value).toText
  let whole := text.takeWhile (· != '.')
  let integer := if whole.head? = some '-' then whole.tail else whole
  integer.length ≤ 26 && (text.drop (whole.length + 1)).length ≤ 18

def truncateDuration (d : Duration) : Duration := d.tdiv 1000 * 1000

def microseconds (d : Duration) : Int := d.tdiv 1000

def Metric.marshal (m : Metric) : Bytes :=
  encodeObject [
    ("kind", quote m.kind.text),
    ("value", quote m.value.toText),
    ("provenance", quote m.provenance.text)]

def Position.marshal (p : Position) : Bytes :=
  encodeObject [
    ("instrument_id", quote p.instrumentID.toText),
    ("quantity", quote p.quantity.toText),
    ("provenance", quote p.provenance.text)]

def MissingFact.marshal (m : MissingFact) : Bytes :=
  encodeObject [
    ("fact_key", quote m.factKey),
    ("reason_code", quote m.reasonCode.text),
    ("evidence_ref", quote m.evidenceRef)]

def SnapshotInput.marshal (s : SnapshotInput) (version : String) : Bytes :=
  encodeObject [
    ("version", quote version),
    ("source", quote s.source.text),
    ("account_id", quote s.accountID.toText),
    ("as_of", quote s.asOf.format),
    ("observed_at", quote s.observedAt.format),
    ("currency", quote s.currency),
    ("projection_version", quote s.projectionVersion),
    ("mark_source", quote s.markSource),
    ("mark_namespace", quote s.markNamespace),
    ("max_mark_age_microseconds", encodeInt (microseconds s.maxMarkAge)),
    ("capture_fence_id", quote s.captureFenceID),
    ("capture_epoch", encodeInt s.captureEpoch.toNat),
    ("evidence_id", quote s.evidenceID),
    ("evidence_checksum", quote s.evidenceChecksum),
    ("synthetic", encodeBool s.synthetic),
    ("position_coverage_complete", encodeBool s.positionCoverageComplete),
    ("metrics", encodeArray (s.metrics.map Metric.marshal)),
    ("positions", encodeArray (s.positions.map Position.marshal)),
    ("missing", encodeArray (s.missing.map MissingFact.marshal))]

def Snapshot.canonicalPayload (s : Snapshot) : Bytes := s.toSnapshotInput.marshal s.version

def addMetric (sofar : List Metric) (value : Metric) : Outcome (List Metric) := do
  failIf (!value.kind.valid || !value.provenance.valid || !validExactDecimal value.value)
    (.errorf "accounting snapshot metric %q is invalid" [value.kind.text])
  failIf (sofar.any fun earlier => metricFactKey earlier.kind == metricFactKey value.kind)
    (.errorf "accounting snapshot metric %q is duplicated" [value.kind.text])
  pure (sofar ++ [{ value with value := normalizeDecimal value.value }])

def addPosition (sofar : List Position) (value : Position) : Outcome (List Position) := do
  failIf (value.instrumentID == Uuid.nil || !value.provenance.valid || !validExactDecimal value.quantity)
    (.errorf "accounting snapshot position %s is invalid" [value.instrumentID.toText])
  failIf (sofar.any fun earlier => positionFactKey earlier.instrumentID == positionFactKey value.instrumentID)
    (.errorf "accounting snapshot position %s is duplicated" [value.instrumentID.toText])
  pure (sofar ++ [{ value with quantity := normalizeDecimal value.quantity }])

def addMissing (unicode : Unicode) (present : List String) (sofar : List MissingFact) (value : MissingFact) :
    Outcome (List MissingFact) := do
  failIf (!validFactKey unicode value.factKey || !value.reasonCode.valid ||
      !normalizedRequired value.evidenceRef maxEvidenceLength)
    (.errorf "accounting snapshot missing fact %q is invalid" [value.factKey])
  failIf (present.contains value.factKey)
    (.errorf "accounting snapshot fact %q is both present and missing" [value.factKey])
  failIf (sofar.any fun earlier => earlier.factKey == value.factKey)
    (.errorf "accounting snapshot missing fact %q is duplicated" [value.factKey])
  pure (sofar ++ [value])

def checkEnvelope (input : SnapshotInput) : Outcome Unit := do
  failIf (!input.source.valid) (.errorf "accounting snapshot source %q is invalid" [input.source.text])
  failIf (input.accountID == Uuid.nil) (.errorf "accounting snapshot account ID is required" [])
  requireUTCMicrosecond "as_of" input.asOf
  requireUTCMicrosecond "observed_at" input.observedAt
  failIf (input.observedAt.before input.asOf) (.errorf "accounting snapshot observed_at precedes as_of" [])
  failIf (byteLength input.currency != 3 || input.currency != toUpper input.currency || !asciiLetters input.currency)
    (.errorf "accounting snapshot currency %q is invalid" [input.currency])
  failIf (!normalizedRequired input.projectionVersion 128 || !normalizedLower input.markSource 128 ||
      !normalizedRequired input.markNamespace 256)
    (.errorf "accounting snapshot projection and mark policy is invalid" [])
  failIf (input.maxMarkAge ≤ 0 || input.maxMarkAge != truncateDuration input.maxMarkAge)
    (.errorf "accounting snapshot max mark age must be positive microseconds" [])
  failIf (!normalizedRequired input.captureFenceID 256 || input.captureEpoch == 0)
    (.errorf "accounting snapshot capture fence identity and epoch are required" [])
  failIf (!normalizedRequired input.evidenceID maxEvidenceLength || !validSHA256 input.evidenceChecksum)
    (.errorf "accounting snapshot evidence identity and SHA-256 are required" [])

def Snapshot.addressed (input : SnapshotInput) : Snapshot :=
  let payload := input.marshal snapshotVersion
  let checksum := sha256Hex payload
  { input with
    id := deterministicUUID "accounting-reconciliation-snapshot"
      [snapshotVersion, input.source.text, input.accountID.toText, checksum]
    version := snapshotVersion
    payloadBytes := payload
    checksum := checksum }

def newSnapshot (unicode : Unicode) (input : SnapshotInput) : Outcome Snapshot := do
  checkEnvelope input
  let metrics ← input.metrics.foldlM addMetric []
  let positions ← input.positions.foldlM addPosition []
  let present := metrics.map (fun metric => metricFactKey metric.kind) ++
    positions.map fun position => positionFactKey position.instrumentID
  let missing ← input.missing.foldlM (addMissing unicode present) []
  pure (.addressed
    { input with
      metrics := sortedBy (fun metric => byteOrder metric.kind.text) metrics
      positions := sortedBy (fun position => byteOrder position.instrumentID.toText) positions
      missing := sortedBy (fun fact => byteOrder fact.factKey) missing })

/-- The fields still give the bytes, and building the snapshot again gives the same address. -/
def Snapshot.validate (unicode : Unicode) (s : Snapshot) : Outcome Unit := do
  failIf (s.canonicalPayload != s.payloadBytes)
    (.errorf "accounting snapshot mutable fields differ from canonical bytes" [])
  let rebuilt ← newSnapshot unicode s.toSnapshotInput
  failIf (rebuilt.id != s.id || rebuilt.checksum != s.checksum || rebuilt.payloadBytes != s.payloadBytes)
    (.errorf "accounting snapshot canonical identity or bytes do not match" [])

end Augr.Accountingrecon
