import Augr.Dataset.Manifest

/-! Manifests restored from their bytes. -/

set_option autoImplicit false

namespace Augr.Dataset

open Foundation Json

def Kind.ofText (text : String) : Kind := (reviewedKinds.find? fun kind => kind.text == text).getD (.unrecognized text)

def Observation.names : List String :=
  ["sequence", "source_key", "instrument_id", "effective_at", "published_at", "observed_at", "available_at", "revision",
    "correction_of", "content_sha256", "bid", "ask", "volume", "depth"]

def Observation.ofFields (fields : List (String × Json)) : Option Observation := do
  if !onlyFields names fields then none
  pure
    { sequence := ← int64Field fields "sequence"
      sourceKey := ← textField fields "source_key"
      instrumentID := ← textField fields "instrument_id"
      effectiveAt := ← textField fields "effective_at"
      publishedAt := ← textField fields "published_at"
      observedAt := ← textField fields "observed_at"
      availableAt := ← textField fields "available_at"
      revision := ← textField fields "revision"
      correctionOf := ← textField fields "correction_of"
      contentSHA256 := ← textField fields "content_sha256"
      bid := ← optionalField fields "bid"
      ask := ← optionalField fields "ask"
      volume := ← optionalField fields "volume"
      depth := ← optionalField fields "depth" }

def Partition.names : List String :=
  ["sequence", "kind", "provider", "source", "namespace", "request_sha256", "content_sha256", "media_type", "effective_start",
    "effective_end", "observed_start", "observed_end", "available_start", "available_end", "symbology_version",
    "adjustment_policy", "timezone", "calendar", "revision", "supersedes_content_sha256", "row_count", "license",
    "retention_policy", "observations"]

def Partition.ofFields (fields : List (String × Json)) : Option Partition := do
  if !onlyFields names fields then none
  pure
    { sequence := ← int64Field fields "sequence"
      kind := .ofText (← textField fields "kind")
      provider := ← textField fields "provider"
      source := ← textField fields "source"
      ns := ← textField fields "namespace"
      requestSHA256 := ← textField fields "request_sha256"
      contentSHA256 := ← textField fields "content_sha256"
      mediaType := ← textField fields "media_type"
      effective := ⟨← textField fields "effective_start", ← textField fields "effective_end"⟩
      observed := ⟨← textField fields "observed_start", ← textField fields "observed_end"⟩
      available := ⟨← textField fields "available_start", ← textField fields "available_end"⟩
      symbologyVersion := ← textField fields "symbology_version"
      adjustmentPolicy := ← textField fields "adjustment_policy"
      timezone := ← textField fields "timezone"
      calendar := ← textField fields "calendar"
      revision := ← textField fields "revision"
      supersedesContentSHA256 := ← textField fields "supersedes_content_sha256"
      rowCount := ← int64Field fields "row_count"
      license := ← textField fields "license"
      retentionPolicy := ← textField fields "retention_policy"
      observations := ← (← arrayField fields "observations").mapM fun item => item.fields? >>= Observation.ofFields }

def ManifestCanonical.names : List String :=
  ["schema", "decision_cutoff", "partition_count", "observation_count", "partitions"]

def ManifestCanonical.ofFields (fields : List (String × Json)) : Option ManifestCanonical := do
  if !onlyFields names fields then none
  pure
    { schema := ← textField fields "schema"
      decisionCutoff := ← textField fields "decision_cutoff"
      partitionCount := ← int64Field fields "partition_count"
      observationCount := ← int64Field fields "observation_count"
      partitions := ← (← arrayField fields "partitions").mapM fun item => item.fields? >>= Partition.ofFields }

def decodeManifest (raw : RawMessage) : Outcome ManifestCanonical := do
  let (value, rest) ← required (.errorf "%w" []) (decodeFirst anyNumber raw)
  let decoded ← required (.errorf "%w" []) (value.fields?.bind ManifestCanonical.ofFields)
  failIf (!(skipSpace rest).isEmpty) (.errorf "dataset canonical JSON has trailing content" [])
  pure decoded

def restoreInstrument (text : String) : Outcome Uuid := if text = "" then pure Uuid.nil else Uuid.parse text

def restoreObservation (observation : Observation) : Outcome ObservationInput := do
  let instrumentID ← restoreInstrument observation.instrumentID
  pure
    { sourceKey := observation.sourceKey
      instrumentID := instrumentID
      effectiveAt := parseTime observation.effectiveAt
      publishedAt := if observation.publishedAt = "" then none else some (parseTime observation.publishedAt)
      observedAt := parseTime observation.observedAt
      availableAt := parseTime observation.availableAt
      revision := observation.revision
      correctionOf := observation.correctionOf
      contentSHA256 := observation.contentSHA256
      bid := observation.bid
      ask := observation.ask
      volume := observation.volume
      depth := observation.depth }

def restorePartition (partition : Partition) : Outcome PartitionInput := do
  let observations ← partition.observations.mapM restoreObservation
  pure
    { kind := partition.kind
      provider := partition.provider
      source := partition.source
      ns := partition.ns
      requestSHA256 := partition.requestSHA256
      mediaType := partition.mediaType
      symbologyVersion := partition.symbologyVersion
      adjustmentPolicy := partition.adjustmentPolicy
      timezone := partition.timezone
      calendar := partition.calendar
      revision := partition.revision
      supersedesContentSHA256 := partition.supersedesContentSHA256
      license := partition.license
      retentionPolicy := partition.retentionPolicy
      observations := observations }

def manifestFromCanonical (id : Uuid) (digest : String) (raw : RawMessage) : Outcome Manifest := do
  failIf (id == Uuid.nil || !sha256Pattern digest || sha256Hex raw != digest)
    (.errorf "dataset manifest envelope is invalid" [])
  let canonical ← decodeManifest raw
  let partitions ← canonical.partitions.mapM restorePartition
  let manifest ← newManifest ⟨parseTime canonical.decisionCutoff, partitions⟩
  failIf (manifest.id != id || manifest.digest != digest || manifest.bytes != raw ||
      canonical.partitionCount != manifest.canonical.partitionCount ||
      canonical.observationCount != manifest.canonical.observationCount)
    (.errorf "dataset manifest canonical graph does not reconstruct" [])
  pure manifest

end Augr.Dataset
