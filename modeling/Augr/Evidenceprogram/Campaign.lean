import Augr.Evidenceprogram.Model

/-! Shadow campaigns: thirty recorded days of the same candidates, summed up in one assessment. -/

set_option autoImplicit false

namespace Augr.Evidenceprogram

open Foundation Json

def shadowCampaignSchemaV1 : String := "shadow-campaign-v1"

def shadowDaySchemaV1 : String := "shadow-campaign-day-v1"

def shadowTargetDays : Nat := 30

def day : Duration := 24 * 60 * 60 * 1000000000

def mustUTC (value : String) : Instant := (Instant.parse value).getD .zero

structure ShadowCandidate where
  key : String
  versionID : Uuid
  sha256 : String
  deriving DecidableEq

structure ShadowCampaignInput where
  key : String
  startedAt : Instant
  benchmark : EvidenceRef
  candidates : List ShadowCandidate

structure ShadowCampaignCanonical where
  (key startedAt : String)
  benchmark : EvidenceRef
  candidates : List ShadowCandidate
  deriving DecidableEq

structure ShadowCampaign where
  id : Uuid
  digest : String
  raw : RawMessage
  canonical : ShadowCampaignCanonical
  deriving DecidableEq

structure ShadowCandidateDay where
  key : String
  (criticalDefects executableSamples simulatedFills : Int64)
  slippageKnown : Bool
  slippageDivergence : String
  deriving DecidableEq

structure ShadowDayInput where
  campaign : Option ShadowCampaign
  sequence : Int64
  observedAt : Instant
  candidates : List ShadowCandidateDay
  source : EvidenceRef

structure ShadowDayCanonical where
  campaignID : Uuid
  campaignSHA256 : String
  sequence : Int64
  observedAt : String
  candidates : List ShadowCandidateDay
  source : EvidenceRef
  deriving DecidableEq

structure ShadowDay where
  id : Uuid
  digest : String
  raw : RawMessage
  canonical : ShadowDayCanonical
  deriving DecidableEq

def ShadowCampaign.startedAt (c : ShadowCampaign) : Instant := mustUTC c.canonical.startedAt

def ShadowCampaign.reference (c : ShadowCampaign) : EvidenceRef := ⟨"shadow_campaign", c.id, c.digest⟩

def ShadowDay.reference (d : ShadowDay) : EvidenceRef := ⟨"shadow_campaign_day", d.id, d.digest⟩

def ShadowCandidate.marshal (c : ShadowCandidate) : Bytes :=
  encodeObject [
    ("key", quote c.key),
    ("version_id", quote c.versionID.toText),
    ("sha256", quote c.sha256)]

def ShadowCampaignCanonical.marshal (c : ShadowCampaignCanonical) : Bytes :=
  encodeObject [
    ("schema", quote shadowCampaignSchemaV1),
    ("key", quote c.key),
    ("started_at", quote c.startedAt),
    ("target_days", encodeInt shadowTargetDays),
    ("benchmark", c.benchmark.marshal),
    ("candidates", encodeNilable (c.candidates.map ShadowCandidate.marshal))]

def ShadowCandidateDay.marshal (c : ShadowCandidateDay) : Bytes :=
  encodeObject [
    ("key", quote c.key),
    ("critical_defects", encodeInt c.criticalDefects.toInt),
    ("executable_samples", encodeInt c.executableSamples.toInt),
    ("simulated_fills", encodeInt c.simulatedFills.toInt),
    ("slippage_known", encodeBool c.slippageKnown),
    ("slippage_divergence", quote c.slippageDivergence)]

def ShadowDayCanonical.marshal (c : ShadowDayCanonical) : Bytes :=
  encodeObject [
    ("schema", quote shadowDaySchemaV1),
    ("campaign_id", quote c.campaignID.toText),
    ("campaign_sha256", quote c.campaignSHA256),
    ("sequence", encodeInt c.sequence.toInt),
    ("observed_at", quote c.observedAt),
    ("candidates", encodeArray (c.candidates.map ShadowCandidateDay.marshal)),
    ("source", c.source.marshal)]

/-- The candidate before the current one, and the versions met so far. -/
structure CandidateWalk where
  previous : Option ShadowCandidate
  versions : List Uuid

def checkShadowCandidate (walk : CandidateWalk) (candidate : ShadowCandidate) : Outcome CandidateWalk := do
  failIf (!validKey candidate.key || candidate.versionID == Uuid.nil || Text.byteLength candidate.sha256 != 64)
    (.errorf "invalid shadow candidate" [])
  wrapping "invalid shadow candidate: %w" [] (validateRef ⟨"strategy_version", candidate.versionID, candidate.sha256⟩)
  failIf (walk.previous.any fun before => candidate.key == before.key) (.errorf "duplicate shadow candidate" [])
  failIf (walk.versions.contains candidate.versionID) (.errorf "shadow candidates must use distinct versions" [])
  pure ⟨some candidate, walk.versions ++ [candidate.versionID]⟩

def newShadowCampaign (input : ShadowCampaignInput) : Outcome ShadowCampaign := do
  failIf (!validKey input.key || !input.startedAt.isCanonical || input.startedAt.nanos / 1000000000 % 86400 != 0)
    (.errorf "invalid shadow campaign identity or start" [])
  failIf (input.benchmark.kind != "benchmark_opportunity_cost_report")
    (.errorf "shadow campaign requires an OVR-401 benchmark report" [])
  wrapping "invalid shadow benchmark: %w" [] (validateRef input.benchmark)
  let candidates := sortedBy (fun c => byteOrder c.key) input.candidates
  failIf (candidates.length < 2 || candidates.length > 16)
    (.errorf "shadow campaign requires two to sixteen candidates" [])
  let _ ← candidates.foldlM checkShadowCandidate ⟨none, []⟩
  let c : ShadowCampaignCanonical := ⟨input.key, formatTime input.startedAt, input.benchmark, candidates⟩
  let digest := sha256Hex c.marshal
  pure ⟨deterministicUUID "shadow-campaign" [shadowCampaignSchemaV1 ++ "@sha256:" ++ digest], digest, c.marshal, c⟩

def checkCandidateDay (expected : ShadowCandidate) (value : ShadowCandidateDay) : Outcome Unit := do
  failIf (value.key != expected.key || value.criticalDefects < 0 || value.executableSamples < 0 || value.simulatedFills < 0)
    (.errorf "invalid shadow day candidate" [])
  failIf (value.slippageKnown && !validDecimal value.slippageDivergence)
    (.errorf "known shadow slippage is invalid" [])
  failIf (!value.slippageKnown && value.slippageDivergence != "")
    (.errorf "unknown shadow slippage invented a value" [])

def newShadowDay (input : ShadowDayInput) : Outcome ShadowDay := do
  let campaign ← required (.errorf "invalid shadow day envelope" [])
    (input.campaign.filter fun _ =>
      !(input.sequence < 0 || input.sequence.toInt ≥ shadowTargetDays || !input.observedAt.isCanonical))
  failIf (!input.observedAt.equal (campaign.startedAt.add (input.sequence.toInt * day)))
    (.errorf "shadow day is not the exact campaign date" [])
  wrapping "invalid shadow day source: %w" [] (validateRef input.source)
  let values := sortedBy (fun c => byteOrder c.key) input.candidates
  failIf (values.length != campaign.canonical.candidates.length)
    (.errorf "shadow day candidate set is incomplete" [])
  forEach (fun pair => checkCandidateDay pair.1 pair.2) (campaign.canonical.candidates.zip values)
  let c : ShadowDayCanonical :=
    ⟨campaign.id, campaign.digest, input.sequence, formatTime input.observedAt, values, input.source⟩
  let digest := sha256Hex c.marshal
  pure ⟨deterministicUUID "shadow-campaign-day" [shadowDaySchemaV1 ++ "@sha256:" ++ digest], digest, c.marshal, c⟩

structure Aggregate where
  (critical executable fills : Int64)
  known : Bool
  divergence : Decimal

def Aggregate.start : Aggregate := ⟨0, 0, 0, true, .unset⟩

def Aggregate.count (total : Aggregate) (candidate : ShadowCandidateDay) : Aggregate where
  critical := total.critical + candidate.criticalDefects
  executable := total.executable + candidate.executableSamples
  fills := total.fills + candidate.simulatedFills
  known := total.known && candidate.slippageKnown
  divergence :=
    if candidate.slippageKnown then
      total.divergence.add ((Decimal.newFromString candidate.slippageDivergence).toOption.getD .unset)
    else total.divergence

/-- What the loop over the days has gathered: the sums per candidate key, the references and
whether every day was there. -/
structure Gathered where
  dailyComplete : Bool
  aggregates : List (String × Aggregate)
  parents : List EvidenceRef

def Gathered.countCandidate (gathered : Gathered) (candidate : ShadowCandidateDay) : Gathered :=
  if gathered.aggregates.any fun entry => entry.1 == candidate.key then
    { gathered with
      aggregates := gathered.aggregates.map fun entry =>
        if entry.1 = candidate.key then (entry.1, entry.2.count candidate) else entry }
  else { gathered with dailyComplete := false }

def Gathered.countDay (campaign : ShadowCampaign) (gathered : Gathered) (entry : Option ShadowDay × Nat) : Gathered :=
  match entry.1.filter fun day =>
      day.canonical.campaignID == campaign.id && day.canonical.campaignSHA256 == campaign.digest &&
        day.canonical.sequence.toInt == (entry.2 : Int) with
  | none => { gathered with dailyComplete := false }
  | some day =>
      day.canonical.candidates.foldl Gathered.countCandidate { gathered with parents := gathered.parents ++ [day.reference] }

/-- The place of a day in the campaign; a missing day stands before all others. -/
def sequenceOf (day : Option ShadowDay) : Int := (day.map fun day => day.canonical.sequence.toInt).getD (-1)

def gather (campaign : ShadowCampaign) (ordered : List (Option ShadowDay)) : Gathered :=
  ordered.zipIdx.foldl (Gathered.countDay campaign)
    ⟨ordered.length == shadowTargetDays, campaign.canonical.candidates.map fun candidate => (candidate.key, .start),
      [campaign.reference]⟩

def candidateShadow (days : Nat) (gathered : Gathered) (candidate : ShadowCandidate) : CandidateShadow :=
  let total := (gathered.aggregates.lookup candidate.key).getD .start
  { key := candidate.key
    observedDays := .ofNat days
    criticalDefects := total.critical
    executableSamples := total.executable
    simulatedFills := total.fills
    slippageKnown := total.known
    slippageDivergence :=
      if total.known && decide (days > 0) then (total.divergence.div (.newFromInt days)).toText else "" }

/-- The days are sorted by their place; days of the same place keep their order. -/
def buildShadowAssessment (campaign : Option ShadowCampaign) (days : List (Option ShadowDay)) : Outcome Assessment := do
  let campaign ← required (.errorf "shadow campaign is required" []) campaign
  let ordered := sortedBy sequenceOf days
  let gathered := gather campaign ordered
  assessShadow
    { startedAt := campaign.startedAt
      endedAt := campaign.startedAt.add (shadowTargetDays * day)
      dailyComplete := gathered.dailyComplete
      candidates := campaign.canonical.candidates.map (candidateShadow ordered.length gathered)
      parents := gathered.parents }

end Augr.Evidenceprogram
