import Augr.Foundation.Records
import Augr.Foundation.Keyed
import Augr.Foundation.DecimalText
import Augr.Primitives

/-! Campaign assessments: shadow, scored paper, portfolio and readiness, each built on the
one before it and addressed by its content. -/

set_option autoImplicit false

namespace Augr.Evidenceprogram

open Foundation Json Text

def schemaV1 : String := "milestone-7-evidence-assessment-v1"

inductive AssessmentOutcome where
  | qualified
  | rejected
  | held
  | ready
  | notReady
  | blocked
  deriving DecidableEq

def AssessmentOutcome.text : AssessmentOutcome → String
  | .qualified => "qualified"
  | .rejected => "rejected"
  | .held => "held"
  | .ready => "ready"
  | .notReady => "not_ready"
  | .blocked => "blocked"

inductive Campaign where
  | shadow
  | paper
  | portfolio
  | readiness
  deriving DecidableEq

def Campaign.text : Campaign → String
  | .shadow => "shadow_30_day"
  | .paper => "scored_paper_60_90_day"
  | .portfolio => "portfolio_paper"
  | .readiness => "architecture_readiness"

structure EvidenceRef where
  kind : String
  id : Uuid
  sha256 : String
  deriving DecidableEq

structure CandidateShadow where
  key : String
  (observedDays criticalDefects executableSamples simulatedFills : Int64)
  slippageKnown : Bool
  slippageDivergence : String
  deriving DecidableEq

structure CandidatePaper where
  key : String
  observations : Int64
  afterCostExpectancy : String
  (costsComplete statisticallyHonest marginBounded : Bool)
  deriving DecidableEq

structure Capability where
  name : String
  passed : Bool
  evidence : EvidenceRef
  deriving DecidableEq

/-- The content of an assessment. The times are empty for a campaign without an interval. -/
structure Canonical where
  campaign : Campaign
  outcome : AssessmentOutcome
  (startedAt endedAt : String)
  facts : RawMessage
  blockers : List String
  parents : List EvidenceRef
  deriving DecidableEq

/-- The fields are private to the package: an assessment comes from one of its assessors. -/
structure Assessment where
  id : Uuid
  digest : String
  raw : RawMessage
  value : Canonical
  deriving DecidableEq

namespace Assessment

def outcome (a : Assessment) : AssessmentOutcome := a.value.outcome

def campaign (a : Assessment) : Campaign := a.value.campaign

def blockers (a : Assessment) : List String := a.value.blockers

def parents (a : Assessment) : List EvidenceRef := a.value.parents

def reference (a : Assessment) : EvidenceRef := ⟨a.campaign.text, a.id, a.digest⟩

end Assessment

structure ShadowInput where
  (startedAt endedAt : Instant)
  dailyComplete : Bool
  candidates : List CandidateShadow
  parents : List EvidenceRef

structure PaperInput where
  shadow : Option Assessment
  (startedAt endedAt : Instant)
  candidates : List CandidatePaper
  parents : List EvidenceRef

structure PortfolioInput where
  paper : Option Assessment
  (startedAt endedAt : Instant)
  (combinedRiskAdjusted bestSingleRiskAdjusted : String)
  (sameInterval sameCostBasis : Bool)
  parents : List EvidenceRef

structure ReadinessInput where
  portfolio : Option Assessment
  capabilities : List Capability
  parents : List EvidenceRef

def keyCharacter (r : Char) : Bool :=
  'a' ≤ r && r ≤ 'z' || '0' ≤ r && r ≤ '9' || r == '_' || r == '-' || r == ':'

def validKey (value : String) : Bool :=
  value != "" && byteLength value ≤ 128 && (characters value).all keyCharacter

def validDecimal (value : String) : Bool :=
  trimSpace value == value && value != "" && (Decimal.newFromString value).toOption.isSome

def validateRef (value : EvidenceRef) : Outcome Unit := do
  let invalid := Fault.errorf "invalid evidence reference" []
  failIf (!validKey value.kind || value.id == Uuid.nil || byteLength value.sha256 != 64) invalid
  failIf (hexBytes (utf8 value.sha256)).isNone invalid

/-- References are ordered by kind and then by the text of the identifier. -/
def EvidenceRef.rank (ref : EvidenceRef) : List Nat ×ₗ List Nat := toLex (byteOrder ref.kind, byteOrder ref.id.toText)

def checkParent (previous : Option EvidenceRef) (parent : EvidenceRef) : Outcome (Option EvidenceRef) := do
  validateRef parent
  failIf (previous.any fun before => parent.kind == before.kind && parent.id == before.id)
    (.errorf "duplicate evidence parent" [])
  pure (some parent)

def normalizeParents (values : List EvidenceRef) : Outcome (List EvidenceRef) := do
  let parents := sortedBy EvidenceRef.rank values
  let _ ← parents.foldlM checkParent none
  pure parents

/-- Whole days between two times; -1 unless both are on a microsecond and the second is later. -/
def durationDays (start stop : Instant) : Int :=
  if start.isZero || !stop.after start || start.nanos % 1000 != 0 || stop.nanos % 1000 != 0 then -1
  else stop.sub start / (24 * 60 * 60 * 1000000000)

def formatTime (value : Instant) : String := value.format

/-- A list that was never appended to is nil. -/
def encodeNilable (items : List Bytes) : Bytes := if items.isEmpty then utf8 "null" else encodeArray items

def EvidenceRef.marshal (ref : EvidenceRef) : Bytes :=
  encodeObject [
    ("kind", quote ref.kind),
    ("id", quote ref.id.toText),
    ("sha256", quote ref.sha256)]

def CandidateShadow.marshal (c : CandidateShadow) : Bytes :=
  encodeObject [
    ("key", quote c.key),
    ("observed_days", encodeInt c.observedDays.toInt),
    ("critical_defects", encodeInt c.criticalDefects.toInt),
    ("executable_samples", encodeInt c.executableSamples.toInt),
    ("simulated_fills", encodeInt c.simulatedFills.toInt),
    ("slippage_known", encodeBool c.slippageKnown),
    ("slippage_divergence", quote c.slippageDivergence)]

def CandidatePaper.marshal (c : CandidatePaper) : Bytes :=
  encodeObject [
    ("key", quote c.key),
    ("observations", encodeInt c.observations.toInt),
    ("after_cost_expectancy", quote c.afterCostExpectancy),
    ("costs_complete", encodeBool c.costsComplete),
    ("statistically_honest", encodeBool c.statisticallyHonest),
    ("margin_bounded", encodeBool c.marginBounded)]

def Capability.marshal (c : Capability) : Bytes :=
  encodeObject [
    ("name", quote c.name),
    ("passed", encodeBool c.passed),
    ("evidence", c.evidence.marshal)]

def shadowFacts (dailyComplete : Bool) (candidates : List CandidateShadow) : RawMessage :=
  encodeObject [
    ("daily_complete", encodeBool dailyComplete),
    ("candidates", encodeNilable (candidates.map CandidateShadow.marshal))]

def paperFacts (candidates : List CandidatePaper) (positive : Bool) : RawMessage :=
  encodeObject [
    ("candidates", encodeNilable (candidates.map CandidatePaper.marshal)),
    ("positive_candidate", encodeBool positive)]

/-- These facts have no field tags. -/
def portfolioFacts (combined best : String) (sameInterval sameCostBasis : Bool) : RawMessage :=
  encodeObject [
    ("Combined", quote combined),
    ("Best", quote best),
    ("SameInterval", encodeBool sameInterval),
    ("SameCostBasis", encodeBool sameCostBasis)]

def readinessFacts (capabilities : List Capability) : RawMessage :=
  encodeObject [("capabilities", encodeNilable (capabilities.map Capability.marshal))]

def omitEmpty (name text : String) : List (String × Bytes) := if text = "" then [] else [(name, quote text)]

def Canonical.marshal (c : Canonical) : Bytes :=
  encodeObject (
    [("schema", quote schemaV1), ("campaign", quote c.campaign.text), ("outcome", quote c.outcome.text)] ++
    omitEmpty "started_at" c.startedAt ++ omitEmpty "ended_at" c.endedAt ++
    [("facts", c.facts), ("blockers", encodeArray (c.blockers.map quote)),
      ("parents", encodeNilable (c.parents.map EvidenceRef.marshal))])

def assessmentID (digest : String) : Uuid :=
  deterministicUUID "milestone-7-evidence" [schemaV1 ++ "@sha256:" ++ digest]

def Assessment.ofCanonical (c : Canonical) : Assessment :=
  let raw := c.marshal
  ⟨assessmentID (sha256Hex raw), sha256Hex raw, raw, c⟩

def build (campaign : Campaign) (start stop : Instant) (pass fail : AssessmentOutcome) (facts : RawMessage)
    (blockers : List String) (parents : List EvidenceRef) : Assessment :=
  .ofCanonical
    { campaign := campaign
      outcome := if blockers.isEmpty then pass else fail
      startedAt := if start.isZero then "" else formatTime start
      endedAt := if start.isZero then "" else formatTime stop
      facts := facts
      blockers := sortedBy byteOrder blockers
      parents := parents }

def blocks (condition : Bool) (blocker : String) : List String := if condition then [blocker] else []

def CandidateShadow.invalid (c : CandidateShadow) : Bool :=
  !validKey c.key || c.observedDays < 0 || c.criticalDefects < 0 || c.executableSamples < 0 || c.simulatedFills < 0

def CandidateShadow.blockers (c : CandidateShadow) : List String :=
  blocks (c.observedDays < 30) (c.key ++ ":observed_days_under_30") ++
  blocks (c.criticalDefects > 0) (c.key ++ ":critical_defect") ++
  blocks (c.executableSamples == 0 || c.simulatedFills == 0) (c.key ++ ":execution_evidence_missing") ++
  blocks (!c.slippageKnown || !validDecimal c.slippageDivergence) (c.key ++ ":slippage_unknown")

def ShadowInput.blockers (input : ShadowInput) (candidates : List CandidateShadow) : List String :=
  blocks (durationDays input.startedAt input.endedAt < 30) "elapsed_days_under_30" ++
  blocks (!input.dailyComplete) "daily_evidence_incomplete" ++
  blocks (candidates.length < 2) "fewer_than_two_candidates" ++
  candidates.flatMap CandidateShadow.blockers

def assessShadow (input : ShadowInput) : Outcome Assessment := do
  let parents ← normalizeParents input.parents
  let candidates := sortedBy (fun c => byteOrder c.key) input.candidates
  failIf (candidates.any CandidateShadow.invalid || !decide (candidates.map CandidateShadow.key).Nodup)
    (.errorf "invalid shadow candidate" [])
  pure (build .shadow input.startedAt input.endedAt .qualified .held (shadowFacts input.dailyComplete candidates)
    (input.blockers candidates) parents)

def CandidatePaper.invalid (c : CandidatePaper) : Bool :=
  !validKey c.key || c.observations < 0 || !validDecimal c.afterCostExpectancy

def CandidatePaper.blockers (c : CandidatePaper) : List String :=
  blocks (c.observations == 0) (c.key ++ ":observations_missing") ++
  blocks (!c.costsComplete) (c.key ++ ":costs_incomplete") ++
  blocks (!c.statisticallyHonest) (c.key ++ ":statistics_incomplete") ++
  blocks (!c.marginBounded) (c.key ++ ":unbounded_margin")

def CandidatePaper.positive (c : CandidatePaper) : Bool :=
  (Decimal.newFromString c.afterCostExpectancy).toOption.any fun value => value.greaterThan .zero

def PaperInput.blockers (input : PaperInput) (shadow : Assessment) (candidates : List CandidatePaper) : List String :=
  let days := durationDays input.startedAt input.endedAt
  blocks (shadow.outcome != .qualified) "shadow_not_qualified" ++
  blocks (days < 60) "elapsed_days_under_60" ++
  blocks (days > 90) "elapsed_days_over_90" ++
  blocks candidates.isEmpty "candidates_missing" ++
  candidates.flatMap CandidatePaper.blockers

def assessPaper (input : PaperInput) : Outcome Assessment := do
  let shadow ← required (.errorf "shadow assessment is required" []) input.shadow
  let parents ← normalizeParents (input.parents ++ [shadow.reference])
  let candidates := sortedBy (fun c => byteOrder c.key) input.candidates
  failIf (candidates.any CandidatePaper.invalid || !decide (candidates.map CandidatePaper.key).Nodup)
    (.errorf "invalid paper candidate" [])
  let positive := candidates.any CandidatePaper.positive
  pure (build .paper input.startedAt input.endedAt (if positive then .qualified else .rejected) .held
    (paperFacts candidates positive) (input.blockers shadow candidates) parents)

def PortfolioInput.blockers (input : PortfolioInput) (paper : Assessment) : List String :=
  blocks (paper.outcome != .qualified) "positive_paper_candidate_missing" ++
  blocks (!input.sameInterval) "comparison_interval_mismatch" ++
  blocks (!input.sameCostBasis) "comparison_cost_basis_mismatch"

def assessPortfolio (input : PortfolioInput) : Outcome Assessment := do
  let paper ← required (.errorf "paper assessment is required" []) input.paper
  let parents ← normalizeParents (input.parents ++ [paper.reference])
  let invalid := Fault.errorf "invalid portfolio metric" []
  let combined ← required invalid (Decimal.newFromString input.combinedRiskAdjusted).toOption
  let best ← required invalid (Decimal.newFromString input.bestSingleRiskAdjusted).toOption
  pure (build .portfolio input.startedAt input.endedAt (if combined.lessThan best then .rejected else .qualified) .held
    (portfolioFacts input.combinedRiskAdjusted input.bestSingleRiskAdjusted input.sameInterval input.sameCostBasis)
    (input.blockers paper) parents)

def requiredCapabilities : List String :=
  ["accept_deposits", "resize_safely", "run_unattended", "brake", "restart", "reconcile", "daily_explanation"]

def checkCapability (seen : List String) (capability : Capability) : Outcome (List String) := do
  failIf (!validKey capability.name || seen.contains capability.name) (.errorf "invalid readiness capability" [])
  validateRef capability.evidence
  pure (seen ++ [capability.name])

def capabilityBlockers (capabilities : List Capability) (name : String) : List String :=
  match capabilities.find? fun capability => capability.name == name with
  | none => [name ++ ":evidence_missing"]
  | some capability => blocks (!capability.passed) (name ++ ":not_passed")

def readinessBlockers (portfolio : Assessment) (capabilities : List Capability) : List String :=
  blocks (portfolio.outcome != .qualified) "portfolio_not_qualified" ++
  requiredCapabilities.flatMap (capabilityBlockers capabilities)

def assessReadiness (input : ReadinessInput) : Outcome Assessment := do
  let portfolio ← required (.errorf "portfolio assessment is required" []) input.portfolio
  let parents ← normalizeParents (input.parents ++ [portfolio.reference])
  let capabilities := sortedBy (fun capability => byteOrder capability.name) input.capabilities
  let _ ← capabilities.foldlM checkCapability []
  pure (build .readiness .zero .zero .ready (if portfolio.outcome = .held then .blocked else .notReady)
    (readinessFacts capabilities) (readinessBlockers portfolio capabilities) parents)

end Augr.Evidenceprogram
