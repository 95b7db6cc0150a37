import Augr.Foundation.Fields
import Augr.Foundation.Keyed
import Augr.Foundation.DecimalText
import Augr.Primitives

/-! Dataset manifests: the observations that were available at a decision, normalised into one
content-addressed record. -/

set_option autoImplicit false

namespace Augr.Dataset

open Foundation Json Text

def manifestSchemaV1 : String := "dataset-manifest-v1"

def manifestDomain : String := "dataset-manifest"

inductive Kind where
  | bars
  | benchmarkMembership
  | corporateActions
  | depth
  | externalObject
  | filings
  | fundamentals
  | optionChains
  | optionContracts
  | predictionBooks
  | predictionFees
  | predictionRules
  | predictionTrades
  | resolutions
  | quotes
  | unrecognized (text : String)
  deriving DecidableEq

def Kind.text : Kind → String
  | .bars => "bars"
  | .benchmarkMembership => "benchmark_membership"
  | .corporateActions => "corporate_actions"
  | .depth => "depth"
  | .externalObject => "external_object"
  | .filings => "filings"
  | .fundamentals => "fundamentals"
  | .optionChains => "option_chains"
  | .optionContracts => "option_contracts"
  | .predictionBooks => "prediction_books"
  | .predictionFees => "prediction_fees"
  | .predictionRules => "prediction_rules"
  | .predictionTrades => "prediction_trades"
  | .resolutions => "resolutions"
  | .quotes => "quotes"
  | .unrecognized text => text

def reviewedKinds : List Kind :=
  [.bars, .benchmarkMembership, .corporateActions, .depth, .externalObject, .filings, .fundamentals, .optionChains,
    .optionContracts, .predictionBooks, .predictionFees, .predictionRules, .predictionTrades, .quotes, .resolutions]

structure ObservationInput where
  sourceKey : String
  instrumentID : Uuid
  effectiveAt : Instant
  publishedAt : Option Instant
  (observedAt availableAt : Instant)
  (revision correctionOf contentSHA256 : String)
  (bid ask volume depth : Option String)
  deriving DecidableEq

structure PartitionInput where
  kind : Kind
  (provider source ns requestSHA256 mediaType symbologyVersion adjustmentPolicy timezone : String)
  (calendar revision supersedesContentSHA256 license retentionPolicy : String)
  observations : List ObservationInput
  deriving DecidableEq

structure ManifestInput where
  decisionCutoff : Instant
  partitions : List PartitionInput
  deriving DecidableEq

structure Observation where
  sequence : Int64
  (sourceKey instrumentID effectiveAt publishedAt observedAt availableAt revision : String)
  (correctionOf contentSHA256 : String)
  (bid ask volume depth : Option String)
  deriving DecidableEq

structure Window where
  (first last : String)
  deriving DecidableEq

structure Partition where
  sequence : Int64
  kind : Kind
  (provider source ns requestSHA256 contentSHA256 mediaType : String)
  (effective observed available : Window)
  (symbologyVersion adjustmentPolicy timezone calendar revision supersedesContentSHA256 : String)
  rowCount : Int64
  (license retentionPolicy : String)
  observations : List Observation
  deriving DecidableEq

structure ManifestCanonical where
  (schema decisionCutoff : String)
  (partitionCount observationCount : Int64)
  partitions : List Partition
  deriving DecidableEq

/-- The fields are private to the package: a manifest comes from `newManifest`. -/
structure Manifest where
  canonical : ManifestCanonical
  bytes : RawMessage
  digest : String
  id : Uuid
  deriving DecidableEq

def validKind (value : Kind) : Bool :=
  (searchBy (fun kind => byteOrder kind.text) reviewedKinds (byteOrder value.text)).any fun found => found == value

def canonicalToken (value : String) : Bool := value == trimSpace value && byteLength value ≤ 512

def canonicalRequired (value : String) : Bool := value != "" && canonicalToken value

def isLowerHex (c : Char) : Bool := '0' ≤ c && c ≤ '9' || 'a' ≤ c && c ≤ 'f'

/-- The pattern of a digest: sixty-four hexadecimal digits in lower case. -/
def sha256Pattern (value : String) : Bool :=
  (characters value).length == 64 && (characters value).all isLowerHex

def formatTime (value : Instant) : String := value.format

/-- A text that is not a time is read as the zero time. -/
def parseTime (value : String) : Instant := (Instant.parse value).getD .zero

/-- The decimal in its own text, without exponent or plus sign. -/
def normalizeOptionalDecimal (value : Option String) (allowNegative : Bool) : Outcome (Option String) :=
  match value with
  | none => pure none
  | some text => do
      failIf (text == "" || text != trimSpace text || (characters text).any fun c => c == 'e' || c == 'E' || c == '+')
        (.errorf "decimal is not canonical" [])
      let parsed ← required (.errorf "decimal is invalid" [])
        ((Decimal.newFromString text).toOption.filter fun parsed =>
          !(!allowNegative && parsed.isNegative || parsed.toText != text))
      pure (some parsed.toText)

def Observation.marshal (o : Observation) : Bytes :=
  encodeObject [
    ("sequence", encodeInt o.sequence.toInt),
    ("source_key", quote o.sourceKey),
    ("instrument_id", quote o.instrumentID),
    ("effective_at", quote o.effectiveAt),
    ("published_at", quote o.publishedAt),
    ("observed_at", quote o.observedAt),
    ("available_at", quote o.availableAt),
    ("revision", quote o.revision),
    ("correction_of", quote o.correctionOf),
    ("content_sha256", quote o.contentSHA256),
    ("bid", encodeOptional o.bid),
    ("ask", encodeOptional o.ask),
    ("volume", encodeOptional o.volume),
    ("depth", encodeOptional o.depth)]

def Partition.marshal (p : Partition) : Bytes :=
  encodeObject [
    ("sequence", encodeInt p.sequence.toInt),
    ("kind", quote p.kind.text),
    ("provider", quote p.provider),
    ("source", quote p.source),
    ("namespace", quote p.ns),
    ("request_sha256", quote p.requestSHA256),
    ("content_sha256", quote p.contentSHA256),
    ("media_type", quote p.mediaType),
    ("effective_start", quote p.effective.first),
    ("effective_end", quote p.effective.last),
    ("observed_start", quote p.observed.first),
    ("observed_end", quote p.observed.last),
    ("available_start", quote p.available.first),
    ("available_end", quote p.available.last),
    ("symbology_version", quote p.symbologyVersion),
    ("adjustment_policy", quote p.adjustmentPolicy),
    ("timezone", quote p.timezone),
    ("calendar", quote p.calendar),
    ("revision", quote p.revision),
    ("supersedes_content_sha256", quote p.supersedesContentSHA256),
    ("row_count", encodeInt p.rowCount.toInt),
    ("license", quote p.license),
    ("retention_policy", quote p.retentionPolicy),
    ("observations", encodeArray (p.observations.map Observation.marshal))]

def ManifestCanonical.marshal (c : ManifestCanonical) : Bytes :=
  encodeObject [
    ("schema", quote c.schema),
    ("decision_cutoff", quote c.decisionCutoff),
    ("partition_count", encodeInt c.partitionCount.toInt),
    ("observation_count", encodeInt c.observationCount.toInt),
    ("partitions", encodeArray (c.partitions.map Partition.marshal))]

def aggregateObservationHash (values : List Observation) : String :=
  sha256Hex (utf8 "dataset-partition-observations-v1\x00" ++
    values.flatMap fun value => Sha256.bigEndian 8 value.marshal.length ++ value.marshal)

def ObservationInput.misplaced (input : ObservationInput) (cutoff : Instant) : Bool :=
  !canonicalRequired input.sourceKey || !canonicalToken input.revision || !canonicalToken input.correctionOf ||
    !sha256Pattern input.contentSHA256 || !input.effectiveAt.isCanonical || !input.observedAt.isCanonical ||
    !input.availableAt.isCanonical || input.observedAt.after input.availableAt || input.availableAt.after cutoff

def publication (input : ObservationInput) : Outcome String :=
  match input.publishedAt with
  | none => pure ""
  | some publishedAt => do
      failIf (!publishedAt.isCanonical || publishedAt.after input.observedAt)
        (.errorf "dataset observation %q publication time is invalid" [input.sourceKey])
      pure (formatTime publishedAt)

def readDecimal (text : String) : Decimal := (Decimal.newFromString text).toOption.getD .unset

def crossed (bid ask : Option String) : Bool :=
  match bid, ask with
  | some bid, some ask => (readDecimal bid).greaterThan (readDecimal ask)
  | _, _ => false

def normalizeObservation (sequence : Nat) (input : ObservationInput) (cutoff : Instant) : Outcome Observation := do
  failIf (input.misplaced cutoff) (.errorf "dataset observation %q point-in-time evidence is invalid" [input.sourceKey])
  let publishedAt ← publication input
  let bid ← wrapping "dataset observation %q bid: %w" [input.sourceKey] (normalizeOptionalDecimal input.bid false)
  let ask ← wrapping "dataset observation %q ask: %w" [input.sourceKey] (normalizeOptionalDecimal input.ask false)
  failIf (bid.isNone != ask.isNone) (.errorf "dataset observation %q bid and ask must appear together" [input.sourceKey])
  failIf (crossed bid ask) (.errorf "dataset observation %q has crossed quote" [input.sourceKey])
  let volume ← wrapping "dataset observation %q volume: %w" [input.sourceKey] (normalizeOptionalDecimal input.volume false)
  let depth ← wrapping "dataset observation %q depth: %w" [input.sourceKey] (normalizeOptionalDecimal input.depth false)
  pure
    { sequence := .ofNat sequence
      sourceKey := input.sourceKey
      instrumentID := if input.instrumentID = Uuid.nil then "" else input.instrumentID.toText
      effectiveAt := formatTime input.effectiveAt
      publishedAt := publishedAt
      observedAt := formatTime input.observedAt
      availableAt := formatTime input.availableAt
      revision := input.revision
      correctionOf := input.correctionOf
      contentSHA256 := input.contentSHA256
      bid := bid
      ask := ask
      volume := volume
      depth := depth }

def observationInputKey (value : ObservationInput) : String :=
  formatTime value.availableAt ++ "\x00" ++ formatTime value.effectiveAt ++ "\x00" ++ value.sourceKey ++ "\x00" ++ value.revision

def partitionInputKey (value : PartitionInput) : String :=
  value.kind.text ++ "\x00" ++ value.provider ++ "\x00" ++ value.ns ++ "\x00" ++ value.requestSHA256 ++ "\x00" ++ value.revision

def identity (sourceKey revision : String) : String := sourceKey ++ "\x00" ++ revision

def correctable (sofar : List Observation) (value : ObservationInput) : Bool :=
  (latest Observation.sourceKey sofar value.correctionOf).any fun original =>
    original.correctionOf == "" && (parseTime original.availableAt).before value.availableAt

/-- One pass of the loop over the sorted observations. The observations so far also stand for
the identities seen and for the last observation of each source key. -/
def addObservation (cutoff : Instant) (sofar : List Observation) (value : ObservationInput) : Outcome (List Observation) := do
  failIf (sofar.any fun earlier => identity earlier.sourceKey earlier.revision == identity value.sourceKey value.revision)
    (.errorf "dataset observation source identity is duplicated" [])
  let observation ← normalizeObservation sofar.length value cutoff
  failIf (value.correctionOf != "" && !correctable sofar value)
    (.errorf "dataset correction %q does not identify a prior original" [value.sourceKey])
  pure (sofar ++ [observation])

def minMaxTime (window : Window) (value : String) : Window where
  first := if byteOrder value < byteOrder window.first then value else window.first
  last := if byteOrder value > byteOrder window.last then value else window.last

def span : List String → Window
  | [] => ⟨"", ""⟩
  | first :: rest => rest.foldl minMaxTime ⟨first, first⟩

def PartitionInput.invalid (input : PartitionInput) : Bool :=
  !validKind input.kind || !canonicalRequired input.provider || !canonicalRequired input.source ||
    !canonicalRequired input.ns || !sha256Pattern input.requestSHA256 || !canonicalRequired input.mediaType ||
    !canonicalRequired input.symbologyVersion || !canonicalRequired input.adjustmentPolicy ||
    !canonicalRequired input.timezone || !canonicalRequired input.calendar || !canonicalToken input.revision ||
    (input.supersedesContentSHA256 != "" && !sha256Pattern input.supersedesContentSHA256) ||
    !canonicalRequired input.license || !canonicalRequired input.retentionPolicy || input.observations.isEmpty

def sortObservations (values : List ObservationInput) : List ObservationInput :=
  sortedBy (fun value => byteOrder (observationInputKey value)) values

def normalizePartition (sequence : Nat) (input : PartitionInput) (cutoff : Instant) : Outcome Partition := do
  failIf input.invalid (.errorf "dataset partition %q metadata is invalid" [input.ns])
  let observations ← (sortObservations input.observations).foldlM (addObservation cutoff) []
  pure
    { sequence := .ofNat sequence
      kind := input.kind
      provider := input.provider
      source := input.source
      ns := input.ns
      requestSHA256 := input.requestSHA256
      contentSHA256 := aggregateObservationHash observations
      mediaType := input.mediaType
      effective := span (observations.map Observation.effectiveAt)
      observed := span (observations.map Observation.observedAt)
      available := span (observations.map Observation.availableAt)
      symbologyVersion := input.symbologyVersion
      adjustmentPolicy := input.adjustmentPolicy
      timezone := input.timezone
      calendar := input.calendar
      revision := input.revision
      supersedesContentSHA256 := input.supersedesContentSHA256
      rowCount := .ofNat observations.length
      license := input.license
      retentionPolicy := input.retentionPolicy
      observations := observations }

/-- One pass of the loop over the sorted partitions, which are kept with the keys of their inputs. -/
def addPartition (cutoff : Instant) (sofar : List (String × Partition)) (value : PartitionInput) :
    Outcome (List (String × Partition)) := do
  failIf (sofar.any fun earlier => earlier.1 == partitionInputKey value)
    (.errorf "dataset manifest partition identity is duplicated" [])
  let partition ← normalizePartition sofar.length value cutoff
  pure (sofar ++ [(partitionInputKey value, partition)])

def sortPartitions (values : List PartitionInput) : List PartitionInput :=
  sortedBy (fun value => byteOrder (partitionInputKey value)) values

def Manifest.ofCanonical (c : ManifestCanonical) : Manifest :=
  let digest := sha256Hex c.marshal
  ⟨c, c.marshal, digest, deterministicUUID manifestDomain [manifestSchemaV1 ++ "@sha256:" ++ digest]⟩

def ManifestCanonical.ofPartitions (cutoff : Instant) (partitions : List Partition) : ManifestCanonical where
  schema := manifestSchemaV1
  decisionCutoff := formatTime cutoff
  partitionCount := .ofNat partitions.length
  observationCount := (partitions.map Partition.rowCount).foldl (· + ·) 0
  partitions := partitions

def newManifest (input : ManifestInput) : Outcome Manifest := do
  failIf (!input.decisionCutoff.isCanonical || input.partitions.isEmpty)
    (.errorf "dataset manifest requires a UTC microsecond cutoff and partitions" [])
  let rows ← (sortPartitions input.partitions).foldlM (addPartition input.decisionCutoff) []
  pure (.ofCanonical (.ofPartitions input.decisionCutoff (rows.map Prod.snd)))

end Augr.Dataset
