import Augr.Foundation.Codec
import Augr.Foundation.Keyed
import Augr.Foundation.DecimalText
import Augr.Foundation.Parse
import Augr.Foundation.Rounding
import Augr.Lifecycle.Types
import Augr.MarketData.Snapshot

/-! The simulation policy: what one venue executes for each asset class, and its content address. -/

set_option autoImplicit false

namespace Augr.Simulation

open Foundation Lifecycle MarketData Json

def policySchemaV1 : String := "simulation-policy-v1"

def policyArtifactIDDomain : String := "simulation-policy-artifact"

inductive CalendarKind where
  | explicitSessions
  | continuous24x7
  | unrecognized (text : String)
  deriving DecidableEq

def CalendarKind.text : CalendarKind → String
  | .explicitSessions => "explicit_sessions"
  | .continuous24x7 => "continuous_24x7"
  | .unrecognized text => text

/-- A half-open executable interval. -/
structure SessionWindow where
  label : String
  (openAt closeAt : Instant)
  deriving DecidableEq

structure CalendarPolicy where
  kind : CalendarKind
  sessions : List SessionWindow
  deriving DecidableEq

/-- The scale is the one rounding boundary after the components are summed. -/
structure FeePolicy where
  (perOrder perUnit notionalBPS : Decimal)
  scale : Int

structure AssetPolicy where
  assetClass : AssetClass
  orderTypes : List Lifecycle.OrderType
  timeInForce : List TimeInForce
  quoteRequirements : QuoteRequirements
  maxDepthParticipation : Decimal
  fixedLatency : Duration
  calendar : CalendarPolicy
  fees : FeePolicy

structure PolicyInput where
  schema : String
  assets : List AssetPolicy

/-- The fields are private to the package: a policy comes from `newPolicy`. -/
structure Policy where
  schema : String
  assets : List AssetPolicy
  canonicalBytes : RawMessage
  (digest version : String)
  artifactID : Uuid

def isLetterOrDigit (c : Char) : Bool :=
  'a' ≤ c && c ≤ 'z' || 'A' ≤ c && c ≤ 'Z' || '0' ≤ c && c ≤ '9'

def isLowerOrDigit (c : Char) : Bool := 'a' ≤ c && c ≤ 'z' || '0' ≤ c && c ≤ '9'

/-- A character of the first class, then at most `most` of the first class or the marks. -/
def matchesToken (first : Char → Bool) (marks : List Char) (most : Nat) (value : String) : Bool :=
  match Text.characters value with
  | [] => false
  | head :: rest => first head && rest.length ≤ most && rest.all fun c => first c || marks.contains c

/-- The pattern `^[a-z0-9][a-z0-9_.:-]{0,63}$`. -/
def policyStatusTokenPattern : String → Bool := matchesToken isLowerOrDigit ['_', '.', ':', '-'] 63

/-- The same with letters of both cases, the slash as a mark and up to 128 characters. -/
def policySessionLabelPattern : String → Bool := matchesToken isLetterOrDigit ['_', '.', ':', '/', '-'] 127

def validatePolicyTime (value : Instant) (label : String) : Outcome Unit :=
  failIf (value.isZero || !value.utc || !value.equal value.truncate)
    (.errorf "simulation policy %s time must use UTC microsecond precision" [label])

/-- The magnitude is read off the representation. -/
def validatePolicyDecimalShape (label : String) (value : Decimal) : Outcome Unit := do
  failIf (!value.equal (value.round 12)) (.errorf "simulation policy %s supports at most 12 decimal places" [label])
  failIf (26 < value.abs.numDigits + value.exponent)
    (.errorf "simulation policy %s exceeds exact decimal magnitude" [label])

def validatePositivePolicyDecimal (label : String) (value : Decimal) : Outcome Unit := do
  failIf (!value.isPositive) (.errorf "simulation policy %s must be positive" [label])
  validatePolicyDecimalShape label value

def validateNonnegativePolicyDecimal (label : String) (value : Decimal) : Outcome Unit := do
  failIf value.isNegative (.errorf "simulation policy %s cannot be negative" [label])
  validatePolicyDecimalShape label value

def supportedSimulationAsset : AssetClass → Bool
  | .equity | .etf | .option | .cryptoSpot | .predictionContract => true
  | _ => false

section
variable {α : Type} [DecidableEq α] (label : String) (supported : α → Bool) (text : α → String)

def addDistinct (seen : List α) (value : α) : Outcome (List α) := do
  failIf (!supported value) (.errorf (label ++ " %q is unsupported") [text value])
  failIf (seen.contains value) (.errorf (label ++ " %q is duplicated") [text value])
  pure (seen ++ [value])

/-- A non-empty list of supported values without repetition, put in the order of their texts. -/
def normalizeDistinct (values : List α) : Outcome (List α) := do
  failIf values.isEmpty (.errorf ("at least one " ++ label ++ " is required") [])
  let seen ← values.foldlM (addDistinct label supported text) []
  pure (sortedBy (fun value => byteOrder (text value)) seen)

end

def supportedOrderType : Lifecycle.OrderType → Bool
  | .market | .limit => true
  | _ => false

def normalizeOrderTypes (values : List Lifecycle.OrderType) : Outcome (List Lifecycle.OrderType) :=
  normalizeDistinct "order type" supportedOrderType Lifecycle.OrderType.text values

def supportedTimeInForce : TimeInForce → Bool
  | .day | .gtc | .ioc | .fok => true
  | _ => false

def normalizeTimeInForce (values : List TimeInForce) : Outcome (List TimeInForce) :=
  normalizeDistinct "time in force" supportedTimeInForce TimeInForce.text values

def statusToken (value : String) : String := Text.toLower (Text.trimSpace value)

def addStatus (label : String) (result : List String) (value : String) : Outcome (List String) := do
  let normalized := statusToken value
  failIf (normalized == "") (.errorf "allowed %s status cannot be empty" [label])
  failIf (!policyStatusTokenPattern normalized)
    (.errorf "allowed %s status %q is not a canonical token" [label, normalized])
  pure (keepOnce result normalized)

def normalizeStatuses (values : List String) (label : String) : Outcome (List String) := do
  failIf values.isEmpty (.errorf "at least one allowed %s status is required" [label])
  let result ← values.foldlM (addStatus label) []
  pure (sortedBy byteOrder result)

def normalizeQuoteRequirements (input : QuoteRequirements) : Outcome QuoteRequirements := do
  failIf (!input.requireSource || !input.requireVenueContract || !input.requireBid || !input.requireAsk ||
      !input.requireBidDepth || !input.requireAskDepth || !input.requireMarketStatus || !input.requireSessionStatus)
    (.errorf "source, venue contract, bid, ask, both depth sides, and both statuses are required" [])
  failIf (input.maxAge ≤ 0) (.errorf "positive maximum quote age is required" [])
  let marketStatuses ← normalizeStatuses input.allowedMarketStatuses "market"
  let sessionStatuses ← normalizeStatuses input.allowedSessionStatuses "session"
  pure { input with allowedMarketStatuses := marketStatuses, allowedSessionStatuses := sessionStatuses }

/-- Sessions are ordered by their opening and then by their label. -/
def SessionWindow.rank (session : SessionWindow) : Int ×ₗ List Nat :=
  toLex (session.openAt.nanos, byteOrder session.label)

def SessionWindow.trimmed (session : SessionWindow) : SessionWindow :=
  { session with label := Text.trimSpace session.label }

def SessionWindow.validate (session : SessionWindow) (earlier : List SessionWindow) : Outcome Unit := do
  failIf (session.label == "") (.errorf "session label is required" [])
  failIf (!policySessionLabelPattern session.label) (.errorf "session label %q is not a canonical token" [session.label])
  failIf (earlier.any fun other => other.label == session.label) (.errorf "session label %q is duplicated" [session.label])
  validatePolicyTime session.openAt "session open"
  validatePolicyTime session.closeAt "session close"
  failIf (!session.closeAt.after session.openAt) (.errorf "session %q close must follow open" [session.label])

def addSession (sofar : List SessionWindow) (session : SessionWindow) : Outcome (List SessionWindow) := do
  session.trimmed.validate sofar
  pure (sofar ++ [session.trimmed])

def validateSeparate (previous next : SessionWindow) : Outcome Unit :=
  failIf (next.openAt.before previous.closeAt) (.errorf "sessions %q and %q overlap" [previous.label, next.label])

def normalizeCalendar (input : CalendarPolicy) (timeInForce : List TimeInForce) : Outcome CalendarPolicy :=
  match input.kind with
  | .continuous24x7 => do
      failIf (!input.sessions.isEmpty) (.errorf "continuous 24/7 calendar cannot contain explicit sessions" [])
      failIf (timeInForce.contains .day) (.errorf "continuous 24/7 calendar cannot support DAY" [])
      pure ⟨.continuous24x7, []⟩
  | .explicitSessions => do
      failIf input.sessions.isEmpty (.errorf "explicit calendar requires at least one session" [])
      let trimmed ← input.sessions.foldlM addSession []
      let sessions := sortedBy SessionWindow.rank trimmed
      forEach (fun (previous, next) => validateSeparate previous next) (sessions.zip sessions.tail)
      pure ⟨.explicitSessions, sessions⟩
  | .unrecognized text => .error (.errorf "calendar kind %q is invalid" [text])

/-- The program ranges over a map here; which fee is reported first is not fixed. -/
def normalizeFees (input : FeePolicy) : Outcome FeePolicy := do
  forEach (fun (name, value) => validateNonnegativePolicyDecimal name value)
    [("per-order fee", input.perOrder), ("per-unit fee", input.perUnit), ("notional basis points", input.notionalBPS)]
  failIf (input.scale < 0 || 12 < input.scale) (.errorf "fee scale must be between 0 and 12" [])
  pure input

def normalizeAssetPolicy (input : AssetPolicy) : Outcome AssetPolicy := do
  failIf (!supportedSimulationAsset input.assetClass) (.errorf "asset class is unsupported" [])
  let orderTypes ← normalizeOrderTypes input.orderTypes
  let timeInForce ← normalizeTimeInForce input.timeInForce
  let requirements ← normalizeQuoteRequirements input.quoteRequirements
  validatePositivePolicyDecimal "maximum depth participation" input.maxDepthParticipation
  failIf (input.maxDepthParticipation.greaterThan (.newFromInt 1))
    (.errorf "maximum depth participation cannot exceed one" [])
  failIf (input.fixedLatency < 0) (.errorf "fixed latency cannot be negative" [])
  let calendar ← normalizeCalendar input.calendar timeInForce
  let fees ← normalizeFees input.fees
  pure
    { assetClass := input.assetClass
      orderTypes := orderTypes
      timeInForce := timeInForce
      quoteRequirements := requirements
      maxDepthParticipation := input.maxDepthParticipation
      fixedLatency := input.fixedLatency
      calendar := calendar
      fees := fees }

structure CanonicalQuoteRequirements where
  (requireSource requireVenueContract requireBid requireAsk requireBidDepth requireAskDepth : Bool)
  (requireMarketStatus requireSessionStatus : Bool)
  (allowedMarketStatuses allowedSessionStatuses : List String)
  maxAgeNanoseconds : Int
  deriving DecidableEq

structure CanonicalSession where
  (label openAt closeAt : String)
  deriving DecidableEq

structure CanonicalCalendar where
  kind : String
  sessions : List CanonicalSession
  deriving DecidableEq

structure CanonicalFees where
  (perOrder perUnit notionalBPS : String)
  scale : Int
  deriving DecidableEq

structure CanonicalAssetPolicy where
  assetClass : String
  (orderTypes timeInForce : List String)
  quoteRequirements : CanonicalQuoteRequirements
  maxDepthParticipation : String
  fixedLatencyNanoseconds : Int
  calendar : CanonicalCalendar
  fees : CanonicalFees
  deriving DecidableEq

structure CanonicalPolicy where
  schema : String
  assets : List CanonicalAssetPolicy
  deriving DecidableEq

def canonicalSession (session : SessionWindow) : CanonicalSession where
  label := session.label
  openAt := session.openAt.format
  closeAt := session.closeAt.format

def canonicalAsset (asset : AssetPolicy) : CanonicalAssetPolicy where
  assetClass := asset.assetClass.text
  orderTypes := asset.orderTypes.map Lifecycle.OrderType.text
  timeInForce := asset.timeInForce.map TimeInForce.text
  quoteRequirements :=
    { requireSource := asset.quoteRequirements.requireSource
      requireVenueContract := asset.quoteRequirements.requireVenueContract
      requireBid := asset.quoteRequirements.requireBid
      requireAsk := asset.quoteRequirements.requireAsk
      requireBidDepth := asset.quoteRequirements.requireBidDepth
      requireAskDepth := asset.quoteRequirements.requireAskDepth
      requireMarketStatus := asset.quoteRequirements.requireMarketStatus
      requireSessionStatus := asset.quoteRequirements.requireSessionStatus
      allowedMarketStatuses := asset.quoteRequirements.allowedMarketStatuses
      allowedSessionStatuses := asset.quoteRequirements.allowedSessionStatuses
      maxAgeNanoseconds := asset.quoteRequirements.maxAge }
  maxDepthParticipation := asset.maxDepthParticipation.toText
  fixedLatencyNanoseconds := asset.fixedLatency
  calendar := ⟨asset.calendar.kind.text, asset.calendar.sessions.map canonicalSession⟩
  fees := ⟨asset.fees.perOrder.toText, asset.fees.perUnit.toText, asset.fees.notionalBPS.toText, asset.fees.scale⟩

def encodeList (values : List String) : Bytes := encodeArray (values.map quote)

def CanonicalQuoteRequirements.marshal (c : CanonicalQuoteRequirements) : Bytes :=
  encodeObject [
    ("require_source", encodeBool c.requireSource),
    ("require_venue_contract", encodeBool c.requireVenueContract),
    ("require_bid", encodeBool c.requireBid),
    ("require_ask", encodeBool c.requireAsk),
    ("require_bid_depth", encodeBool c.requireBidDepth),
    ("require_ask_depth", encodeBool c.requireAskDepth),
    ("require_market_status", encodeBool c.requireMarketStatus),
    ("require_session_status", encodeBool c.requireSessionStatus),
    ("allowed_market_statuses", encodeList c.allowedMarketStatuses),
    ("allowed_session_statuses", encodeList c.allowedSessionStatuses),
    ("max_age_nanoseconds", encodeInt c.maxAgeNanoseconds)]

def CanonicalSession.marshal (c : CanonicalSession) : Bytes :=
  encodeObject [("label", quote c.label), ("open_at", quote c.openAt), ("close_at", quote c.closeAt)]

def CanonicalCalendar.marshal (c : CanonicalCalendar) : Bytes :=
  encodeObject [
    ("kind", quote c.kind),
    ("sessions", encodeArray (c.sessions.map CanonicalSession.marshal))]

def CanonicalFees.marshal (c : CanonicalFees) : Bytes :=
  encodeObject [
    ("per_order", quote c.perOrder),
    ("per_unit", quote c.perUnit),
    ("notional_bps", quote c.notionalBPS),
    ("scale", encodeInt c.scale)]

def CanonicalAssetPolicy.marshal (c : CanonicalAssetPolicy) : Bytes :=
  encodeObject [
    ("asset_class", quote c.assetClass),
    ("order_types", encodeList c.orderTypes),
    ("time_in_force", encodeList c.timeInForce),
    ("quote_requirements", c.quoteRequirements.marshal),
    ("max_depth_participation", quote c.maxDepthParticipation),
    ("fixed_latency_nanoseconds", encodeInt c.fixedLatencyNanoseconds),
    ("calendar", c.calendar.marshal),
    ("fees", c.fees.marshal)]

def CanonicalPolicy.marshal (c : CanonicalPolicy) : Bytes :=
  encodeObject [
    ("schema", quote c.schema),
    ("assets", encodeArray (c.assets.map CanonicalAssetPolicy.marshal))]

def assetOrder (asset : AssetPolicy) : List Nat := byteOrder asset.assetClass.text

/-- The policy of assets in normal form. -/
def Policy.sealed (schema : String) (assets : List AssetPolicy) : Policy :=
  let canonicalBytes := CanonicalPolicy.marshal ⟨schema, assets.map canonicalAsset⟩
  let digest := sha256Hex canonicalBytes
  let version := schema ++ "@sha256:" ++ digest
  { schema := schema
    assets := assets
    canonicalBytes := canonicalBytes
    digest := digest
    version := version
    artifactID := deterministicUUID policyArtifactIDDomain [version] }

/-- A normalized policy keeps its asset class, so the classes seen are those collected. -/
def addAsset (sofar : List AssetPolicy) (candidate : AssetPolicy) : Outcome (List AssetPolicy) := do
  failIf (sofar.any fun other => other.assetClass == candidate.assetClass)
    (.errorf "simulation policy asset class %q is duplicated" [candidate.assetClass.text])
  let normalized ← wrapping "simulation policy asset %q: %w" [candidate.assetClass.text] (normalizeAssetPolicy candidate)
  pure (sofar ++ [normalized])

def newPolicy (input : PolicyInput) : Outcome Policy := do
  let schema := Text.trimSpace input.schema
  failIf (schema != policySchemaV1) (.errorf "simulation policy schema must be %q" [policySchemaV1])
  failIf input.assets.isEmpty (.errorf "simulation policy requires at least one asset policy" [])
  let assets ← input.assets.foldlM addAsset []
  pure (Policy.sealed schema (sortedBy assetOrder assets))

/-- Everything displayed may be taken, at no fee, at any time. -/
def freeAsset : AssetPolicy where
  assetClass := .equity
  orderTypes := [.limit, .market]
  timeInForce := [.gtc, .ioc]
  quoteRequirements :=
    { requireSource := true, requireVenueContract := true, requireBid := true, requireAsk := true, requireBidDepth := true
      requireAskDepth := true, requireMarketStatus := true, requireSessionStatus := true
      allowedMarketStatuses := ["open"], allowedSessionStatuses := ["regular"], maxAge := 1000000000 }
  maxDepthParticipation := .newFromInt 1
  fixedLatency := 0
  calendar := ⟨.continuous24x7, []⟩
  fees := ⟨.unset, .unset, .unset, 2⟩

end Augr.Simulation
