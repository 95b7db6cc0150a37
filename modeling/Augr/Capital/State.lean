import Augr.Capital.Policy
import Augr.Foundation.Codec
import Augr.Foundation.Parse
import Augr.Ledger.Projection

/-! The capital state: derived from a portfolio projection, or restored from its canonical bytes. -/

set_option autoImplicit false

namespace Augr.Capital

open Foundation Ledger Json Text

def capitalStateSchema : String := "capital-state-v1"

def capitalStateDomain : String := "capital-state"

structure State where
  (id accountID bindingID : Uuid)
  policyVersion : String
  projectionCheckpointID : Uuid
  projectionChecksum : String
  asOf : Instant
  currency : String
  (cash equity longExposure shortExposure grossExposure maintenanceRequirement : Decimal)
  canonicalBytes : RawMessage
  hash : String
  deriving DecidableEq

def validCapitalAmount : Decimal → Bool := validPolicyDecimal

def roundCapitalUp (value : Decimal) (scale : Nat) : Decimal := value.roundCeil scale

def formatCapitalTime (value : Instant) : String := value.normalize.format

structure CanonicalState where
  (schema accountID bindingID policyVersion projectionCheckpointID projectionChecksum asOf : String)
  (currency cash equity longExposure shortExposure grossExposure maintenanceRequirement : String)
  deriving DecidableEq

namespace CanonicalState

def fields (c : CanonicalState) : List (String × String) := [
  ("schema", c.schema),
  ("account_id", c.accountID),
  ("binding_id", c.bindingID),
  ("policy_version", c.policyVersion),
  ("projection_checkpoint_id", c.projectionCheckpointID),
  ("projection_checksum", c.projectionChecksum),
  ("as_of", c.asOf),
  ("currency", c.currency),
  ("cash", c.cash),
  ("equity", c.equity),
  ("long_exposure", c.longExposure),
  ("short_exposure", c.shortExposure),
  ("gross_exposure", c.grossExposure),
  ("maintenance_requirement", c.maintenanceRequirement)]

def marshal (c : CanonicalState) : Bytes := encodeTexts c.fields

def names : List String := [
  "schema", "account_id", "binding_id", "policy_version", "projection_checkpoint_id", "projection_checksum", "as_of",
  "currency", "cash", "equity", "long_exposure", "short_exposure", "gross_exposure", "maintenance_requirement"]

def ofFields (fields : List (String × Json)) : Option CanonicalState := do
  if !onlyFields names fields then none
  pure
    { schema := ← textField fields "schema"
      accountID := ← textField fields "account_id"
      bindingID := ← textField fields "binding_id"
      policyVersion := ← textField fields "policy_version"
      projectionCheckpointID := ← textField fields "projection_checkpoint_id"
      projectionChecksum := ← textField fields "projection_checksum"
      asOf := ← textField fields "as_of"
      currency := ← textField fields "currency"
      cash := ← textField fields "cash"
      equity := ← textField fields "equity"
      longExposure := ← textField fields "long_exposure"
      shortExposure := ← textField fields "short_exposure"
      grossExposure := ← textField fields "gross_exposure"
      maintenanceRequirement := ← textField fields "maintenance_requirement" }

end CanonicalState

namespace State

def canonical (s : State) : CanonicalState where
  schema := capitalStateSchema
  accountID := s.accountID.toText
  bindingID := s.bindingID.toText
  policyVersion := s.policyVersion
  projectionCheckpointID := s.projectionCheckpointID.toText
  projectionChecksum := s.projectionChecksum
  asOf := formatCapitalTime s.asOf
  currency := s.currency
  cash := s.cash.toText
  equity := s.equity.toText
  longExposure := s.longExposure.toText
  shortExposure := s.shortExposure.toText
  grossExposure := s.grossExposure.toText
  maintenanceRequirement := s.maintenanceRequirement.toText

def sealed (s : State) : State :=
  let encoded := s.canonical.marshal
  let hash := sha256Hex encoded
  { s with canonicalBytes := encoded, hash := hash, id := deterministicUUID capitalStateDomain [hash] }

def amounts (s : State) : List Decimal :=
  [s.cash, s.equity, s.longExposure, s.shortExposure, s.grossExposure, s.maintenanceRequirement]

def validate (s : State) (account : Account) (binding : Binding) (policy : Option Policy) : Outcome Unit := do
  failIf (s.id == Uuid.nil || s.canonicalBytes.isEmpty || byteLength s.hash != 64)
    (.errorf "capital state identity is invalid" [])
  failIf (s.accountID != account.id || s.bindingID != binding.id || s.policyVersion != Policy.versionOf policy ||
      s.currency != account.baseCurrency || s.projectionCheckpointID == Uuid.nil ||
      byteLength s.projectionChecksum != 64 || s.asOf.isZero || !s.asOf.utc || !s.asOf.equal s.asOf.truncate)
    (.errorf "capital state context is invalid" [])
  forEach (fun value => failIf (!validCapitalAmount value) (.errorf "capital state amount exceeds precision" []))
    s.amounts
  failIf (s.equity.isNegative || s.longExposure.isNegative || s.shortExposure.isNegative ||
      s.grossExposure.isNegative || s.maintenanceRequirement.isNegative ||
      !s.grossExposure.equal (s.longExposure.add s.shortExposure))
    (.errorf "capital state exposure totals are inconsistent" [])
  let encoded := s.canonical.marshal
  let digest := sha256Hex encoded
  failIf (encoded != s.canonicalBytes || digest != s.hash || s.id != deterministicUUID capitalStateDomain [digest])
    (.errorf "capital state canonical evidence does not match fields" [])

end State

def decodeCanonicalState (raw : RawMessage) : Outcome CanonicalState :=
  match decodeFirst anyNumber raw with
  | none => .error (.errorf "restore capital state: %w" [])
  | some (value, rest) =>
      match value.fields?.bind CanonicalState.ofFields with
      | none => .error (.errorf "restore capital state: %w" [])
      | some canonical => do
          failIf (!(skipSpace rest).isEmpty)
            (.errorf "restore capital state: canonical JSON has trailing content" [])
          pure canonical

/-- An amount must be written the way the state writes it. -/
def canonicalAmount (index : Nat) (text : String) : Outcome Decimal :=
  let refused := Fault.errorf "restore capital state: amount %d is not canonical" [itoa index]
  match Decimal.newFromString text with
  | .error _ => .error refused
  | .ok value => do
      failIf (value.toText != text) refused
      pure value

def restoredState (canonical : CanonicalState) : Outcome State := do
  let accountID ← wrapping "restore capital state account: %w" [] (Uuid.parse canonical.accountID)
  let bindingID ← wrapping "restore capital state binding: %w" [] (Uuid.parse canonical.bindingID)
  let checkpointID ← wrapping "restore capital state checkpoint: %w" [] (Uuid.parse canonical.projectionCheckpointID)
  let asOf ← required (.errorf "restore capital state as-of: %w" []) (Instant.parse canonical.asOf)
  let cash ← canonicalAmount 0 canonical.cash
  let equity ← canonicalAmount 1 canonical.equity
  let longExposure ← canonicalAmount 2 canonical.longExposure
  let shortExposure ← canonicalAmount 3 canonical.shortExposure
  let grossExposure ← canonicalAmount 4 canonical.grossExposure
  let maintenanceRequirement ← canonicalAmount 5 canonical.maintenanceRequirement
  failIf (canonical.schema != capitalStateSchema) (.errorf "restore capital state: schema is invalid" [])
  pure
    { id := Uuid.nil
      accountID := accountID
      bindingID := bindingID
      policyVersion := canonical.policyVersion
      projectionCheckpointID := checkpointID
      projectionChecksum := canonical.projectionChecksum
      asOf := asOf
      currency := canonical.currency
      cash := cash
      equity := equity
      longExposure := longExposure
      shortExposure := shortExposure
      grossExposure := grossExposure
      maintenanceRequirement := maintenanceRequirement
      canonicalBytes := []
      hash := "" }

/-- Restore a state whose bytes, content identity and context agree. -/
def stateFromCanonical (id : Uuid) (digest : String) (raw : RawMessage) (account : Account) (binding : Binding)
    (policy : Option Policy) : Outcome State := do
  failIf (id == Uuid.nil || byteLength digest != 64 || raw.isEmpty)
    (.errorf "restore capital state: envelope is invalid" [])
  let canonical ← decodeCanonicalState raw
  let draft ← restoredState canonical
  let state := draft.sealed
  failIf (state.id != id || state.hash != digest || state.canonicalBytes != raw)
    (.errorf "restore capital state: identity does not reconstruct" [])
  wrapping "restore capital state: %w" [] (state.validate account binding policy)
  pure state

structure PayloadPosition where
  instrumentID : String
  isOpen : Bool
  (quantity marketValue : String)
  deriving DecidableEq

structure ProjectionCapitalPayload where
  (checkpointID accountID baseCurrency asOf : String)
  positions : List PayloadPosition
  (cash marketValue equity : String)
  deriving DecidableEq

def payloadPosition (item : Json) : Option PayloadPosition := do
  let fields ← item.fields?
  pure
    { instrumentID := ← textField fields "instrument_id"
      isOpen := ← boolField fields "open"
      quantity := ← textField fields "quantity"
      marketValue := ← textField fields "market_value" }

def capitalPayload (value : Json) : Option ProjectionCapitalPayload := do
  let fields ← value.fields?
  let positions ← arrayField fields "positions"
  let totals ← objectField fields "totals"
  pure
    { checkpointID := ← textField fields "checkpoint_id"
      accountID := ← textField fields "account_id"
      baseCurrency := ← textField fields "base_currency"
      asOf := ← textField fields "as_of"
      positions := ← positions.mapM payloadPosition
      cash := ← textField totals "cash"
      marketValue := ← textField totals "market_value"
      equity := ← textField totals "equity" }

def decodeProjectionCapitalPayload (raw : Bytes) : Outcome ProjectionCapitalPayload :=
  match decodeFirst anyNumber raw with
  | none => .error (.errorf "decode projection payload: %w" [])
  | some (value, rest) =>
      match capitalPayload value with
      | none => .error (.errorf "decode projection payload: %w" [])
      | some payload => do
          wrapping "decode projection payload: %w" [] (failIf (!(skipSpace rest).isEmpty)
            (.errorf "capital policy contains trailing JSON" []))
          pure payload

def validateCapitalProjectionTotals (totals : ProjectionTotals) : Outcome Unit := do
  forEach (fun value => failIf (!validCapitalAmount value) (.errorf "projection total exceeds capital precision" []))
    [totals.cash, totals.netCapital, totals.fees, totals.rebates, totals.realizedPnL, totals.unrealizedPnL,
      totals.marketValue, totals.equity, totals.totalPnL]
  failIf totals.equity.isNegative (.errorf "projection equity cannot be negative for admission" [])

/-- The instruments by their identity; the table is kept as a list. -/
def addInstrument (account : Account) (sofar : List Instrument) (reference : Instrument) : Outcome (List Instrument) := do
  wrapping "derive capital state instrument %s: %w" [reference.id.toText] reference.validate
  failIf (reference.currency != account.baseCurrency ||
      (reference.assetClass != .equity && reference.assetClass != .etf))
    (.errorf "derive capital state: instrument %s has unsupported asset class or currency" [reference.id.toText])
  failIf (sofar.any fun known => known.id == reference.id)
    (.errorf "derive capital state: instrument %s is duplicated" [reference.id.toText])
  pure (sofar ++ [reference])

structure Exposure where
  seen : List Uuid
  (long short marketValue : Decimal)
  openCount : Nat
  deriving DecidableEq

def Exposure.none : Exposure := ⟨[], .zero, .zero, .zero, 0⟩

def Exposure.add (instruments : List Instrument) (sofar : Exposure)
    (row : (ProjectionPosition × PayloadPosition) × Nat) : Outcome Exposure := do
  let position := row.1.1
  let written := row.1.2
  let name := position.instrumentID.toText
  failIf (position.instrumentID == Uuid.nil)
    (.errorf "derive capital state: projection position %d lacks instrument identity" [itoa row.2])
  failIf (sofar.seen.contains position.instrumentID)
    (.errorf "derive capital state: projection position %s is duplicated" [name])
  failIf (!validCapitalAmount position.quantity || !validCapitalAmount position.marketValue ||
      position.isOpen != !position.quantity.isZero)
    (.errorf "derive capital state: projection position %s is inconsistent" [name])
  failIf (written.instrumentID != name || written.isOpen != position.isOpen ||
      written.quantity != position.quantity.toText || written.marketValue != position.marketValue.toText)
    (.errorf "derive capital state: projection position %s differs from payload" [name])
  let valued : Exposure :=
    { sofar with
      seen := position.instrumentID :: sofar.seen
      marketValue := sofar.marketValue.add position.marketValue }
  if !position.isOpen then do
    failIf (!position.marketValue.isZero)
      (.errorf "derive capital state: closed position %s has market exposure" [name])
    pure valued
  else do
    failIf (!instruments.any fun reference => reference.id == position.instrumentID)
      (.errorf "derive capital state: open position %s lacks canonical instrument" [name])
    failIf (position.markObservationID == Uuid.nil || position.openLotCount == 0 ||
        (!position.marketValue.isZero && position.quantity.sign != position.marketValue.sign))
      (.errorf "derive capital state: open position %s has inconsistent mark or sign" [name])
    let counted := { valued with openCount := sofar.openCount + 1 }
    pure (
      if position.marketValue.isPositive then { counted with long := sofar.long.add position.marketValue }
      else if position.marketValue.isNegative then { counted with short := sofar.short.add position.marketValue.abs }
      else counted)

def envelopeInvalid (account : Account) (p : PortfolioProjection) : Bool :=
  p.checkpointID == Uuid.nil || p.accountID != account.id || p.projectionType != portfolioProjectionType ||
    p.version != portfolioProjectionVersion || p.fifo != projectionFIFO || p.baseCurrency != account.baseCurrency ||
    p.asOf.isZero || !p.asOf.utc || !p.asOf.equal p.asOf.truncate || p.throughTransactionID == Uuid.nil ||
    p.transactionCount == 0 || byteLength p.inputChecksum != 64 || byteLength p.outputChecksum != 64 ||
    p.payloadBytes.isEmpty

def maintenanceOf (profile : Profile) (scale : Nat) (long short : Decimal) : Decimal :=
  if profile.unlimited then .zero
  else roundCapitalUp ((long.mul profile.maintenanceLong).add (short.mul profile.maintenanceShort)) scale

/-- Derive the state; an open position needs exactly one matching equity or ETF instrument. -/
def stateFromProjection (account : Account) (binding : Binding) (policy : Option Policy)
    (projection : Option PortfolioProjection) (instruments : List Instrument) : Outcome State := do
  wrapping "derive capital state binding: %w" [] (binding.validate account policy)
  let p ← required (.errorf "derive capital state: portfolio projection is required" []) projection
  failIf (envelopeInvalid account p) (.errorf "derive capital state: projection envelope is invalid" [])
  failIf (sha256Hex p.payloadBytes != p.outputChecksum)
    (.errorf "derive capital state: projection output checksum does not match payload" [])
  wrapping "derive capital state: %w" [] (validateCapitalProjectionTotals p.totals)
  let payload ← wrapping "derive capital state: %w" [] (decodeProjectionCapitalPayload p.payloadBytes)
  failIf (payload.checkpointID != p.checkpointID.toText || payload.accountID != p.accountID.toText ||
      payload.baseCurrency != p.baseCurrency || payload.asOf != formatCapitalTime p.asOf ||
      payload.cash != p.totals.cash.toText || payload.marketValue != p.totals.marketValue.toText ||
      payload.equity != p.totals.equity.toText || payload.positions.length != p.positions.length)
    (.errorf "derive capital state: projection payload does not match in-memory envelope" [])
  let references ← instruments.foldlM (addInstrument account) []
  let exposure ← (p.positions.zip payload.positions).zipIdx.foldlM (Exposure.add references) .none
  failIf (references.length != exposure.openCount)
    (.errorf "derive capital state: canonical instrument set does not exactly cover open positions" [])
  failIf (!exposure.marketValue.equal p.totals.marketValue ||
      !p.totals.equity.equal (p.totals.cash.add p.totals.marketValue))
    (.errorf "derive capital state: projection accounting totals are inconsistent" [])
  let profile ← required (.errorf "derive capital state: binding profile is not in policy" [])
    (Policy.profileOf policy binding.profile)
  let draft : State :=
    { id := Uuid.nil
      accountID := account.id
      bindingID := binding.id
      policyVersion := Policy.versionOf policy
      projectionCheckpointID := p.checkpointID
      projectionChecksum := p.outputChecksum
      asOf := p.asOf
      currency := p.baseCurrency
      cash := p.totals.cash
      equity := p.totals.equity
      longExposure := exposure.long
      shortExposure := exposure.short
      grossExposure := exposure.long.add exposure.short
      maintenanceRequirement := maintenanceOf profile (Policy.scaleOf policy) exposure.long exposure.short
      canonicalBytes := []
      hash := "" }
  wrapping "derive capital state: %w" [] (draft.sealed.validate account binding policy)
  pure draft.sealed

end Augr.Capital
