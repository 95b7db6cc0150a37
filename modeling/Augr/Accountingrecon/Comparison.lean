import Augr.Accountingrecon.Snapshot

/-! The comparison of a legacy and a ledger snapshot, fact by fact, and the run that records it. -/

set_option autoImplicit false

namespace Augr.Accountingrecon

open Foundation Json

def comparisonVersion : String := "accounting_comparison_v1"

inductive ResultStatus where
  | equal
  | explained
  | unexplained
  | notComparable
  | unrecognized (text : String)
  deriving DecidableEq

def ResultStatus.text : ResultStatus → String
  | .equal => "equal"
  | .explained => "explained"
  | .unexplained => "unexplained"
  | .notComparable => "not_comparable"
  | .unrecognized text => text

def ResultStatus.valid (status : ResultStatus) : Bool :=
  [ResultStatus.equal, .explained, .unexplained, .notComparable].contains status

inductive ExplanationCode where
  | legacyFloat
  | legacyMarkPolicy
  | legacyOptionMultiplier
  | sourceCorrection
  | unrecognized (text : String)
  deriving DecidableEq

def ExplanationCode.text : ExplanationCode → String
  | .legacyFloat => "legacy_binary_float_representation"
  | .legacyMarkPolicy => "legacy_mark_source_timing"
  | .legacyOptionMultiplier => "legacy_option_multiplier_semantics"
  | .sourceCorrection => "source_correction_evidence"
  | .unrecognized text => text

def ExplanationCode.valid (code : ExplanationCode) : Bool :=
  [ExplanationCode.legacyFloat, .legacyMarkPolicy, .legacyOptionMultiplier, .sourceCorrection].contains code

structure Explanation where
  factKey : String
  code : ExplanationCode
  (rationale evidenceRef evidenceChecksum generator reviewer : String)
  reviewedAt : Instant
  deriving DecidableEq

structure ComparisonInput where
  (legacy ledger : Option Snapshot)
  generator : String
  generatedAt : Instant
  explanations : List Explanation

structure Result where
  id : Uuid
  factKey : String
  (legacyValue ledgerValue delta : Option Decimal)
  status : ResultStatus
  reasonCode : String
  explanation : Option Explanation
  deriving DecidableEq

structure Run where
  id : Uuid
  (version policyVersion : String)
  accountID : Uuid
  (asOf generatedAt : Instant)
  (generator projectionVersion markSource markNamespace : String)
  maxMarkAge : Duration
  captureFenceID : String
  captureEpoch : UInt64
  (legacy ledger : Option Snapshot)
  results : List Result
  (equalCount explainedCount unexplainedCount notComparableCount : Int)
  synthetic : Bool
  payloadBytes : Bytes
  (checksum attestationType attestationKeyID : String)
  attestation : Bytes
  deriving DecidableEq

def Explanation.marshal (e : Explanation) : Bytes :=
  encodeObject [
    ("fact_key", quote e.factKey),
    ("code", quote e.code.text),
    ("rationale", quote e.rationale),
    ("evidence_ref", quote e.evidenceRef),
    ("evidence_checksum", quote e.evidenceChecksum),
    ("generator", quote e.generator),
    ("reviewer", quote e.reviewer),
    ("reviewed_at", quote e.reviewedAt.format)]

def encodeExplanation : Option Explanation → Bytes
  | none => Text.utf8 "null"
  | some e => e.marshal

def Result.fields (r : Result) : List (String × Bytes) := [
  ("id", quote r.id.toText),
  ("fact_key", quote r.factKey),
  ("legacy_value", encodeOptional (r.legacyValue.map Decimal.toText)),
  ("ledger_value", encodeOptional (r.ledgerValue.map Decimal.toText)),
  ("delta", encodeOptional (r.delta.map Decimal.toText)),
  ("status", quote r.status.text),
  ("reason_code", quote r.reasonCode),
  ("explanation", encodeExplanation r.explanation)]

def Result.marshal (r : Result) : Bytes := encodeObject r.fields

/-- Raw JSON inside a record: nil is null, and text that is not JSON fails the encoder. -/
def encodeRaw (raw : Bytes) : Outcome Bytes :=
  if raw.isEmpty then pure (Text.utf8 "null")
  else if Json.isValid raw then pure (Json.compact raw)
  else .error (.errorf "marshal accounting comparison: %w" [])

def Run.fields (run : Run) (legacy ledger : Bytes) : List (String × Bytes) := [
  ("version", quote run.version),
  ("policy_version", quote run.policyVersion),
  ("account_id", quote run.accountID.toText),
  ("as_of", quote run.asOf.format),
  ("generated_at", quote run.generatedAt.format),
  ("generator", quote run.generator),
  ("projection_version", quote run.projectionVersion),
  ("mark_source", quote run.markSource),
  ("mark_namespace", quote run.markNamespace),
  ("max_mark_age_microseconds", encodeInt (microseconds run.maxMarkAge)),
  ("capture_fence_id", quote run.captureFenceID),
  ("capture_epoch", encodeInt run.captureEpoch.toNat),
  ("legacy_snapshot", legacy),
  ("ledger_snapshot", ledger),
  ("synthetic", encodeBool run.synthetic),
  ("equal_count", encodeInt run.equalCount),
  ("explained_count", encodeInt run.explainedCount),
  ("unexplained_count", encodeInt run.unexplainedCount),
  ("not_comparable_count", encodeInt run.notComparableCount),
  ("results", encodeArray (run.results.map Result.marshal))]

def Run.canonicalPayload (run : Run) (legacy ledger : Snapshot) : Outcome Bytes := do
  let legacyRaw ← encodeRaw legacy.payloadBytes
  let ledgerRaw ← encodeRaw ledger.payloadBytes
  pure (encodeObject (run.fields legacyRaw ledgerRaw))

def missingReason (value : Option MissingFact) : String :=
  ((value.map MissingFact.reasonCode).getD .sourceUnavailable).text

def missingReasonSummary (legacyValue ledgerValue : Option Decimal) (legacyMissing ledgerMissing : Option MissingFact) :
    String :=
  String.intercalate "," (
    (if legacyValue.isNone then ["legacy:" ++ missingReason legacyMissing] else []) ++
    (if ledgerValue.isNone then ["ledger:" ++ missingReason ledgerMissing] else []))

def compareFact (key : String) (legacyValue ledgerValue : Option Decimal) (legacyMissing ledgerMissing : Option MissingFact)
    (explanation : Option Explanation) : Outcome Result :=
  let result : Result := ⟨Uuid.nil, key, legacyValue, ledgerValue, none, .notComparable, "", none⟩
  match legacyValue, ledgerValue with
  | some legacy, some ledger =>
      let delta := ledger.sub legacy
      if delta.isZero then do
        failIf explanation.isSome (.errorf "accounting explanation cannot classify equal fact %q" [key])
        pure { result with delta := some delta, status := .equal, reasonCode := "exact_match" }
      else
        match explanation with
        | none => pure { result with delta := some delta, status := .unexplained, reasonCode := "exact_delta_unexplained" }
        | some reviewed =>
            pure { result with
              delta := some delta
              status := .explained
              reasonCode := reviewed.code.text
              explanation := some reviewed }
  | _, _ => do
      failIf explanation.isSome (.errorf "accounting explanation cannot classify missing fact %q" [key])
      pure { result with reasonCode := missingReasonSummary legacyValue ledgerValue legacyMissing ledgerMissing }

def Explanation.invalid (unicode : Unicode) (generator : String) (e : Explanation) : Bool :=
  !validFactKey unicode e.factKey || !e.code.valid || !normalizedRequired e.rationale 2000 ||
    !normalizedRequired e.evidenceRef maxEvidenceLength || !validSHA256 e.evidenceChecksum ||
    !normalizedRequired e.generator 256 || !normalizedRequired e.reviewer 256 || e.generator != generator ||
    e.generator == e.reviewer

def addExplanation (unicode : Unicode) (generator : String) (earliest generatedAt : Instant) (sofar : List Explanation)
    (input : Explanation) : Outcome (List Explanation) := do
  failIf (input.invalid unicode generator) (.errorf "accounting explanation for %q is invalid" [input.factKey])
  requireUTCMicrosecond "explanation reviewed_at" input.reviewedAt
  failIf (input.reviewedAt.before earliest || input.reviewedAt.after generatedAt)
    (.errorf "accounting explanation review time for %q is outside the evidence window" [input.factKey])
  failIf (sofar.any fun earlier => earlier.factKey == input.factKey)
    (.errorf "accounting explanation for %q is duplicated" [input.factKey])
  pure (sofar ++ [input])

def validateExplanations (unicode : Unicode) (inputs : List Explanation) (generator : String) (earliest generatedAt : Instant) :
    Outcome (List Explanation) := inputs.foldlM (addExplanation unicode generator earliest generatedAt) []

namespace Snapshot

def metric (s : Snapshot) (kind : MetricKind) : Option Decimal := (latest Metric.kind s.metrics kind).map Metric.value

/-- The quantity of an instrument. With complete coverage an instrument that is not listed is not held. -/
def quantity (s : Snapshot) (id : Uuid) : Option Decimal :=
  match latest Position.instrumentID s.positions id with
  | some position => some position.quantity
  | none => if s.positionCoverageComplete then some .zero else none

def missingFact (s : Snapshot) (key : String) : Option MissingFact := latest MissingFact.factKey s.missing key

def instruments (s : Snapshot) : List Uuid := s.positions.map Position.instrumentID

end Snapshot

def compareValues (legacy ledger : Snapshot) (explanations : List Explanation) (key : String)
    (legacyValue ledgerValue : Option Decimal) : Outcome Result :=
  compareFact key legacyValue ledgerValue (legacy.missingFact key) (ledger.missingFact key)
    (latest Explanation.factKey explanations key)

def compareFacts (legacy ledger : Snapshot) (explanations : List Explanation) : Outcome (List Result) := do
  let metrics ← requiredMetrics.mapM fun kind =>
    compareValues legacy ledger explanations (metricFactKey kind) (legacy.metric kind) (ledger.metric kind)
  let positions ← (visited (fun id => byteOrder id.toText) legacy.instruments ledger.instruments).mapM fun id =>
    compareValues legacy ledger explanations (positionFactKey id) (legacy.quantity id) (ledger.quantity id)
  let known := (metrics ++ positions).map Result.factKey
  let absent := ((legacy.missing.map MissingFact.factKey ++ ledger.missing.map MissingFact.factKey).dedup).filter
    fun key => !known.contains key
  let missing ← absent.mapM fun key => compareValues legacy ledger explanations key none none
  let keys := known ++ absent
  forEach (fun explanation : Explanation => failIf (!keys.contains explanation.factKey)
    (.errorf "accounting explanation targets unknown fact %q" [explanation.factKey])) explanations
  pure (sortedBy (fun result => byteOrder result.factKey) (metrics ++ positions ++ missing))

def canonicalOptionalDecimal (value : Option Decimal) : String := (value.map Decimal.toText).getD "missing"

def explanationIdentity : Option Explanation → String
  | none => ""
  | some e => String.intercalate "\x1f"
      [e.factKey, e.code.text, e.rationale, e.evidenceRef, e.evidenceChecksum, e.generator, e.reviewer, e.reviewedAt.format]

def identifyResult (legacy ledger : Snapshot) (result : Result) : Result :=
  { result with
    id := deterministicUUID "accounting-reconciliation-result"
      [legacy.id.toText, ledger.id.toText, result.factKey, result.status.text, canonicalOptionalDecimal result.legacyValue,
        canonicalOptionalDecimal result.ledgerValue, canonicalOptionalDecimal result.delta,
        explanationIdentity result.explanation] }

def countOf (status : ResultStatus) (results : List Result) : Int := results.countP fun result => result.status == status

/-- The two snapshots, once they are known to describe one boundary. -/
structure Sides where
  (legacy ledger : Snapshot)

def comparableSides (unicode : Unicode) (input : ComparisonInput) : Outcome Sides := do
  let missing := Fault.errorf "accounting comparison requires both snapshots" []
  let legacy ← required missing input.legacy
  let ledger ← required missing input.ledger
  wrapping "accounting comparison legacy snapshot: %w" [] (legacy.validate unicode)
  wrapping "accounting comparison ledger snapshot: %w" [] (ledger.validate unicode)
  failIf (legacy.source != .legacy || ledger.source != .ledger) (.errorf "accounting comparison source roles are invalid" [])
  failIf (legacy.accountID != ledger.accountID || !legacy.asOf.equal ledger.asOf || legacy.currency != ledger.currency ||
      legacy.projectionVersion != ledger.projectionVersion || legacy.markSource != ledger.markSource ||
      legacy.markNamespace != ledger.markNamespace || legacy.maxMarkAge != ledger.maxMarkAge)
    (.errorf "accounting comparison snapshots do not share one account/time/mark boundary" [])
  failIf (legacy.captureFenceID != ledger.captureFenceID || legacy.captureEpoch != ledger.captureEpoch)
    (.errorf "accounting comparison snapshots do not share one capture fence" [])
  pure ⟨legacy, ledger⟩

def latestObservation (legacy ledger : Snapshot) : Instant :=
  if ledger.observedAt.after legacy.observedAt then ledger.observedAt else legacy.observedAt

def draftRun (input : ComparisonInput) (legacy ledger : Snapshot) (results : List Result) : Run where
  id := Uuid.nil
  version := comparisonVersion
  policyVersion := Accountingrecon.policyVersion
  accountID := legacy.accountID
  asOf := legacy.asOf
  generatedAt := input.generatedAt
  generator := input.generator
  projectionVersion := legacy.projectionVersion
  markSource := legacy.markSource
  markNamespace := legacy.markNamespace
  maxMarkAge := legacy.maxMarkAge
  captureFenceID := legacy.captureFenceID
  captureEpoch := legacy.captureEpoch
  legacy := some legacy
  ledger := some ledger
  results := results
  equalCount := countOf .equal results
  explainedCount := countOf .explained results
  unexplainedCount := countOf .unexplained results
  notComparableCount := countOf .notComparable results
  synthetic := legacy.synthetic || ledger.synthetic
  payloadBytes := []
  checksum := ""
  attestationType := ""
  attestationKeyID := ""
  attestation := []

def Run.addressed (run : Run) (legacy ledger : Snapshot) (payload : Bytes) : Run :=
  { run with
    payloadBytes := payload
    checksum := sha256Hex payload
    id := deterministicUUID "accounting-reconciliation-run"
      [run.version, run.policyVersion, run.accountID.toText, legacy.checksum, ledger.checksum, sha256Hex payload] }

def compare (unicode : Unicode) (input : ComparisonInput) : Outcome Run := do
  let ⟨legacy, ledger⟩ ← comparableSides unicode input
  failIf (!normalizedRequired input.generator 256) (.errorf "accounting comparison generator is required" [])
  requireUTCMicrosecond "comparison generated_at" input.generatedAt
  failIf (input.generatedAt.before (latestObservation legacy ledger))
    (.errorf "accounting comparison generated_at precedes source observation" [])
  let explanations ← validateExplanations unicode input.explanations input.generator (latestObservation legacy ledger)
    input.generatedAt
  let facts ← compareFacts legacy ledger explanations
  let run := draftRun input legacy ledger (facts.map (identifyResult legacy ledger))
  let payload ← run.canonicalPayload legacy ledger
  pure (run.addressed legacy ledger payload)

def explanationsOf (results : List Result) : List Explanation := results.filterMap Result.explanation

/-- The fields still give the bytes, and comparing the two snapshots again gives the same run. -/
def Run.validate (unicode : Unicode) (run : Run) : Outcome Unit := do
  let absent := Fault.errorf "accounting reconciliation run is required" []
  let legacy ← required absent run.legacy
  let ledger ← required absent run.ledger
  let currentPayload ← run.canonicalPayload legacy ledger
  failIf (currentPayload != run.payloadBytes)
    (.errorf "accounting reconciliation mutable fields differ from canonical bytes" [])
  let rebuilt ← compare unicode ⟨run.legacy, run.ledger, run.generator, run.generatedAt, explanationsOf run.results⟩
  failIf (rebuilt.id != run.id || rebuilt.checksum != run.checksum || rebuilt.payloadBytes != run.payloadBytes ||
      rebuilt.equalCount != run.equalCount || rebuilt.explainedCount != run.explainedCount ||
      rebuilt.unexplainedCount != run.unexplainedCount || rebuilt.notComparableCount != run.notComparableCount)
    (.errorf "accounting reconciliation run canonical identity, bytes, or counts do not match" [])

end Augr.Accountingrecon
