import Augr.Experimentrun.Evidence

/-! Books and fee policies of prediction markets as they were known at a point in time, and the research
fills that are replayed against them. -/

set_option autoImplicit false

namespace Augr.Predictionreplay

open Foundation Json Text
open Experimentrun (digestPattern formatTime)

def schemaV1 : String := "prediction-book-fee-recorder-v1"

inductive Side where
  | buy
  | sell
  | unrecognized (text : String)
  deriving DecidableEq

def Side.text : Side → String
  | .buy => "buy"
  | .sell => "sell"
  | .unrecognized text => text

inductive LiquidityRole where
  | maker
  | taker
  | unrecognized (text : String)
  deriving DecidableEq

def LiquidityRole.text : LiquidityRole → String
  | .maker => "maker"
  | .taker => "taker"
  | .unrecognized text => text

inductive FeeFormula where
  | notionalBPS
  | contractCurve
  | unrecognized (text : String)
  deriving DecidableEq

def FeeFormula.text : FeeFormula → String
  | .notionalBPS => "notional_bps"
  | .contractCurve => "contract_curve"
  | .unrecognized text => text

inductive RoundingMode where
  | halfUp
  | ceiling
  | unrecognized (text : String)
  deriving DecidableEq

def RoundingMode.text : RoundingMode → String
  | .halfUp => "half_up"
  | .ceiling => "ceiling"
  | .unrecognized text => text

structure LevelInput where
  (price size : String)
  deriving DecidableEq

structure BookInput where
  marketID : String
  outcomeID : Uuid
  (venue sourceKey contentSHA256 : String)
  (exchangeAt availableAt : Instant)
  revision : Int
  correctionOf : String
  (bids asks : List LevelInput)
  deriving DecidableEq

structure FeePolicyInput where
  instrumentID : Uuid
  venue : String
  role : LiquidityRole
  (sourceKey contentSHA256 : String)
  (availableAt effectiveFrom : Instant)
  effectiveTo : Option Instant
  formula : FeeFormula
  rate : String
  scale : Int
  rounding : RoundingMode
  deriving DecidableEq

structure ReplayInput where
  decisionAt : Instant
  marketID : String
  outcomeID : Uuid
  side : Side
  role : LiquidityRole
  (quantity limitPrice : String)
  deriving DecidableEq

/-- What the recorder reads of a dataset manifest. -/
structure Observation where
  (sourceKey contentSHA256 availableAt instrumentID : String)

structure Partition where
  kind : Dataset.Kind
  contentSHA256 : String
  observations : List Observation

structure Manifest where
  id : Uuid
  digest : String
  decisionCutoff : Instant
  partitions : List Partition

structure Input where
  manifest : Option Manifest
  books : List BookInput
  fees : List FeePolicyInput
  replays : List ReplayInput

structure EvidenceCanonical where
  (partitionContentSHA256 sourceKey contentSHA256 availableAt : String)
  deriving DecidableEq

structure LevelCanonical where
  side : String
  sequence : Nat
  (price size : String)
  deriving DecidableEq

structure BookCanonical extends EvidenceCanonical where
  (marketID outcomeID venue exchangeAt : String)
  revision : Int
  correctionOf : String
  levels : List LevelCanonical
  deriving DecidableEq

structure FeeCanonical extends EvidenceCanonical where
  (instrumentID venue role effectiveFrom effectiveTo formula rate : String)
  scale : Int
  rounding : String
  deriving DecidableEq

structure FillCanonical where
  (sequence level : Nat)
  (price quantity gross : String)
  deriving DecidableEq

inductive ReplayStatus where
  | noBook
  | noFeePolicy
  | limitBlocked
  | partly
  | filled
  deriving DecidableEq

def ReplayStatus.text : ReplayStatus → String
  | .noBook => "no_book"
  | .noFeePolicy => "no_fee_policy"
  | .limitBlocked => "limit_blocked"
  | .partly => "partial"
  | .filled => "filled"

structure ReplayCanonical where
  sequence : Nat
  (decisionAt marketID outcomeID side role quantity limitPrice : String)
  status : ReplayStatus
  (bookSourceKey feeSourceKey filledQuantity residualQuantity weightedPrice grossCash fee : String)
  netCash : String
  fills : List FillCanonical
  deriving DecidableEq

structure RecorderCanonical where
  manifestID : Uuid
  (manifestSHA256 manifestCutoff : String)
  books : List BookCanonical
  fees : List FeeCanonical
  replays : List ReplayCanonical
  deriving DecidableEq

structure Recorder where
  canonical : RecorderCanonical
  bytes : Bytes
  digest : String
  id : Uuid
  deriving DecidableEq

def normalizeToken (value : String) : String := toLower (trimSpace value)

def evidenceKey (kind : Dataset.Kind) (source digest : String) : String :=
  kind.text ++ "\x00" ++ source ++ "\x00" ++ digest

def replayInputKey (value : ReplayInput) : String :=
  formatTime value.decisionAt ++ "\x00" ++ value.marketID ++ "\x00" ++ value.outcomeID.toText ++ "\x00" ++
    value.side.text ++ "\x00" ++ value.role.text ++ "\x00" ++ value.quantity ++ "\x00" ++ value.limitPrice

/-- A decimal that is written as it would be printed, with at most twelve places. -/
def exactDecimal (value : String) : Outcome Decimal := do
  failIf (value == "" || trimSpace value != value ||
    (characters value).any fun c => c == 'e' || c == 'E' || c == '+') (.errorf "decimal is not canonical" [])
  match Decimal.newFromString value with
  | .error _ => .error (.errorf "decimal is not exact canonical scale" [])
  | .ok parsed => do
      failIf (parsed.toText != value || parsed.exponent < -12) (.errorf "decimal is not exact canonical scale" [])
      pure parsed

structure ManifestObservation where
  key : String
  kind : Dataset.Kind
  (partition instrument : String)
  available : Instant

abbrev Index := List ManifestObservation

def addObservation (source : Partition) (sofar : Index) (observation : Observation) : Outcome Index := do
  let key := evidenceKey source.kind observation.sourceKey observation.contentSHA256
  failIf (sofar.any fun earlier => earlier.key == key) (.errorf "prediction replay manifest evidence is duplicated" [])
  match Instant.parse observation.availableAt with
  | none => .error (.errorf "prediction replay manifest time is invalid" [])
  | some available => pure (sofar ++ [⟨key, source.kind, source.contentSHA256, observation.instrumentID, available⟩])

def manifestIndex (manifest : Manifest) : Outcome Index :=
  manifest.partitions.foldlM (fun sofar source =>
    if source.kind != .predictionBooks && source.kind != .predictionFees then pure sofar
    else source.observations.foldlM (addObservation source) sofar) []

def Index.lookup (index : Index) (key : String) : Option ManifestObservation := index.find? fun row => row.key == key

structure ParsedLevel where
  (price size : Decimal)
  row : LevelCanonical
  deriving DecidableEq

structure ParsedBook where
  input : BookInput
  row : BookCanonical
  (bids asks : List ParsedLevel)
  deriving DecidableEq

def addLevel (side : String) (descending : Bool) (sofar : List ParsedLevel) (value : LevelInput) :
    Outcome (List ParsedLevel) :=
  let invalid : Fault := .errorf "prediction replay %s level is invalid" [side]
  match exactDecimal value.price, exactDecimal value.size with
  | .ok price, .ok size => do
      failIf (!price.greaterThan .zero || !price.lessThan (.newFromInt 1) || !size.greaterThan .zero) invalid
      failIf (sofar.getLast?.any fun last =>
        descending && !last.price.greaterThan price || !descending && !last.price.lessThan price)
        (.errorf "prediction replay %s levels are not strictly ordered" [side])
      pure (sofar ++ [⟨price, size, ⟨side, sofar.length, price.toText, size.toText⟩⟩])
  | _, _ => .error invalid

def normalizeLevels (side : String) (values : List LevelInput) (descending : Bool) : Outcome (List ParsedLevel) :=
  values.foldlM (addLevel side descending) []

def BookInput.normalized (value : BookInput) : BookInput :=
  { value with
    marketID := trimSpace value.marketID
    venue := normalizeToken value.venue
    sourceKey := trimSpace value.sourceKey }

def BookInput.identityKey (value : BookInput) : String :=
  value.outcomeID.toText ++ "\x00" ++ formatTime value.exchangeAt ++ "\x00" ++ String.ofList (intDigits value.revision)

def bookEvidenceInvalid (value : BookInput) (observed : Option ManifestObservation) : Bool :=
  value.marketID == "" || value.outcomeID == Uuid.nil || value.venue == "" || value.sourceKey == "" ||
    !digestPattern value.contentSHA256 || !value.exchangeAt.isCanonical || !value.availableAt.isCanonical ||
    value.exchangeAt.after value.availableAt || value.revision < 0 ||
    !(observed.any fun row => row.kind == .predictionBooks && row.instrument == value.outcomeID.toText &&
      row.available.equal value.availableAt)

def BookInput.canonical (value : BookInput) (observed : Option ManifestObservation) (levels : List LevelCanonical) :
    BookCanonical where
  partitionContentSHA256 := (observed.map ManifestObservation.partition).getD ""
  sourceKey := value.sourceKey
  contentSHA256 := value.contentSHA256
  availableAt := formatTime value.availableAt
  marketID := value.marketID
  outcomeID := value.outcomeID.toText
  venue := value.venue
  exchangeAt := formatTime value.exchangeAt
  revision := value.revision
  correctionOf := value.correctionOf
  levels := levels

/-- One iteration of the loop over the books. What the loop has seen are the books so far. -/
def addBook (index : Index) (sofar : List ParsedBook) (given : BookInput) : Outcome (List ParsedBook) := do
  let value := given.normalized
  let observed := index.lookup (evidenceKey .predictionBooks value.sourceKey value.contentSHA256)
  failIf (bookEvidenceInvalid value observed || sofar.any fun earlier => earlier.input.identityKey == value.identityKey)
    (.errorf "prediction replay book evidence is invalid" [])
  let bids ← normalizeLevels "bid" value.bids true
  let asks ← normalizeLevels "ask" value.asks false
  failIf (!(bids.head?.any fun bid => asks.head?.any fun ask => bid.price.lessThan ask.price))
    (.errorf "prediction replay book is empty or crossed" [])
  failIf (sofar.any fun earlier => earlier.input.sourceKey == value.sourceKey)
    (.errorf "prediction replay book source key is duplicated" [])
  let levels := bids.map ParsedLevel.row ++ asks.map ParsedLevel.row
  pure (sofar ++ [{ input := value, row := value.canonical observed levels, bids := bids, asks := asks }])

/-- The correction is compared as it was given with the normalized book it names. -/
def checkCorrection (books : List ParsedBook) (value : BookInput) : Outcome Unit :=
  if value.revision = 0 then
    failIf (value.correctionOf != "") (.errorf "prediction replay original book names a correction" [])
  else
    failIf (!((books.find? fun book => book.input.sourceKey == value.correctionOf).any fun prior =>
      prior.input.outcomeID == value.outcomeID && prior.input.marketID == value.marketID &&
        prior.input.exchangeAt.equal value.exchangeAt && prior.input.revision + 1 == value.revision &&
        prior.input.availableAt.before value.availableAt)) (.errorf "prediction replay book correction is invalid" [])

def BookInput.sortKey (value : BookInput) : List Nat ×ₗ List Nat ×ₗ Int ×ₗ Int ×ₗ List Nat :=
  toLex (byteOrder value.marketID, toLex (byteOrder value.outcomeID.toText, toLex (value.exchangeAt.nanos,
    toLex (value.revision, byteOrder value.sourceKey))))

def normalizeBooks (values : List BookInput) (index : Index) : Outcome (List ParsedBook) := do
  failIf values.isEmpty (.errorf "prediction replay requires books" [])
  let books ← values.foldlM (addBook index) []
  forEach (checkCorrection books) values
  pure (sortedBy (fun book => book.input.sortKey) books)

structure ParsedFee where
  input : FeePolicyInput
  row : FeeCanonical
  rate : Decimal
  deriving DecidableEq

def FeePolicyInput.normalized (value : FeePolicyInput) : FeePolicyInput :=
  { value with venue := normalizeToken value.venue, sourceKey := trimSpace value.sourceKey }

def FeePolicyInput.end_ (value : FeePolicyInput) : String := (value.effectiveTo.map formatTime).getD ""

def FeePolicyInput.identityKey (value : FeePolicyInput) : String :=
  value.instrumentID.toText ++ "\x00" ++ value.venue ++ "\x00" ++ value.role.text ++ "\x00" ++
    formatTime value.effectiveFrom ++ "\x00" ++ value.end_

def feePolicyInvalid (value : FeePolicyInput) (rate : Decimal) (observed : Option ManifestObservation) : Bool :=
  value.instrumentID == Uuid.nil || value.venue == "" || !(value.role == .maker || value.role == .taker) ||
    value.sourceKey == "" || !digestPattern value.contentSHA256 || !value.availableAt.isCanonical ||
    !value.effectiveFrom.isCanonical ||
    (value.effectiveTo.any fun finish => !finish.isCanonical || !value.effectiveFrom.before finish) ||
    !(value.formula == .notionalBPS || value.formula == .contractCurve) || rate.isNegative || value.scale < 0 ||
    12 < value.scale || !(value.rounding == .halfUp || value.rounding == .ceiling) ||
    !(observed.any fun row => row.instrument == value.instrumentID.toText && row.available.equal value.availableAt)

def FeePolicyInput.canonical (value : FeePolicyInput) (rate : Decimal) (observed : Option ManifestObservation) :
    FeeCanonical where
  partitionContentSHA256 := (observed.map ManifestObservation.partition).getD ""
  sourceKey := value.sourceKey
  contentSHA256 := value.contentSHA256
  availableAt := formatTime value.availableAt
  instrumentID := value.instrumentID.toText
  venue := value.venue
  role := value.role.text
  effectiveFrom := formatTime value.effectiveFrom
  effectiveTo := value.end_
  formula := value.formula.text
  rate := rate.toText
  scale := value.scale
  rounding := value.rounding.text

def addFee (index : Index) (sofar : List ParsedFee) (given : FeePolicyInput) : Outcome (List ParsedFee) :=
  let value := given.normalized
  let observed := index.lookup (evidenceKey .predictionFees value.sourceKey value.contentSHA256)
  let invalid : Fault := .errorf "prediction replay fee policy is invalid" []
  match exactDecimal value.rate with
  | .error _ => .error invalid
  | .ok rate => do
      failIf (feePolicyInvalid value rate observed ||
        sofar.any fun earlier => earlier.input.identityKey == value.identityKey) invalid
      pure (sofar ++ [{ input := value, row := value.canonical rate observed, rate := rate }])

/-- Policies of one instrument, venue and role stand together, in the order they start. -/
def FeePolicyInput.startKey (value : FeePolicyInput) : List Nat ×ₗ List Nat ×ₗ List Nat ×ₗ Int :=
  toLex (byteOrder value.instrumentID.toText, toLex (byteOrder value.venue, toLex (byteOrder value.role.text,
    value.effectiveFrom.nanos)))

def FeePolicyInput.sortKey (value : FeePolicyInput) : (List Nat ×ₗ List Nat ×ₗ List Nat ×ₗ Int) ×ₗ List Nat :=
  toLex (value.startKey, byteOrder value.sourceKey)

def overlaps (prior current : FeePolicyInput) : Bool :=
  prior.instrumentID == current.instrumentID && prior.venue == current.venue && prior.role == current.role &&
    prior.effectiveTo.all fun finish => current.effectiveFrom.before finish

def checkWindows : List ParsedFee → Outcome Unit
  | prior :: current :: rest => do
      failIf (overlaps prior.input current.input) (.errorf "prediction replay fee policy windows overlap" [])
      checkWindows (current :: rest)
  | _ => pure ()

def normalizeFees (values : List FeePolicyInput) (index : Index) : Outcome (List ParsedFee) := do
  failIf values.isEmpty (.errorf "prediction replay requires fee policies" [])
  let fees ← values.foldlM (addFee index) []
  let sorted := sortedBy (fun fee => fee.input.sortKey) fees
  checkWindows sorted
  pure sorted

/-- The book was on the exchange and available when the decision was made. -/
def bookEligible (request : ReplayInput) (value : BookInput) : Bool :=
  value.marketID == request.marketID && value.outcomeID == request.outcomeID &&
    !value.exchangeAt.after request.decisionAt && !value.availableAt.after request.decisionAt

def laterBook (value selected : BookInput) : Bool :=
  value.exchangeAt.after selected.exchangeAt || value.exchangeAt.equal selected.exchangeAt &&
    (selected.revision < value.revision || value.revision == selected.revision &&
      byteOrder selected.sourceKey < byteOrder value.sourceKey)

def selectBook (values : List ParsedBook) (request : ReplayInput) : Option ParsedBook :=
  select (fun book => bookEligible request book.input) (fun book selected => laterBook book.input selected.input) values

def feeEligible (request : ReplayInput) (venue : String) (value : FeePolicyInput) : Bool :=
  value.instrumentID == request.outcomeID && value.venue == venue && value.role == request.role &&
    !value.availableAt.after request.decisionAt && !value.effectiveFrom.after request.decisionAt &&
    value.effectiveTo.all fun finish => request.decisionAt.before finish

def laterFee (value selected : FeePolicyInput) : Bool :=
  value.effectiveFrom.after selected.effectiveFrom || value.effectiveFrom.equal selected.effectiveFrom &&
    (value.availableAt.after selected.availableAt || value.availableAt.equal selected.availableAt &&
      byteOrder selected.sourceKey < byteOrder value.sourceKey)

def selectFee (values : List ParsedFee) (request : ReplayInput) (venue : String) : Option ParsedFee :=
  select (fun fee => feeEligible request venue fee.input) (fun fee selected => laterFee fee.input selected.input) values

/-- The fee before it is rounded is computed from the fills as they are written. -/
def feeComponent (policy : ParsedFee) (fill : FillCanonical) : Outcome Decimal := do
  let price ← Decimal.newFromString fill.price
  let quantity ← Decimal.newFromString fill.quantity
  let component := price.mul quantity
  pure (if policy.input.formula = .notionalBPS then (component.mul policy.rate).div (.newFromInt 10000)
    else (component.mul ((Decimal.newFromInt 1).sub price)).mul policy.rate)

def calculateFee (policy : ParsedFee) (fills : List FillCanonical) : Outcome Decimal := do
  let value ← fills.foldlM (fun value fill => return value.add (← feeComponent policy fill)) Decimal.zero
  pure (if policy.input.rounding = .ceiling then (value.shift policy.input.scale).ceil.shift (-policy.input.scale)
    else value.round policy.input.scale)

structure Taken where
  (remaining gross : Decimal)
  fills : List FillCanonical

def blocked (side : Side) (limit price : Decimal) : Bool :=
  (side == .buy && price.greaterThan limit) || (side == .sell && price.lessThan limit)

def takeLevels (side : Side) (limit : Decimal) : List ParsedLevel → Taken → Taken
  | [], taken => taken
  | level :: rest, taken =>
      if blocked side limit level.price then taken
      else
        let fill := taken.remaining.min level.size
        if fill.isZero then takeLevels side limit rest taken
        else
          let gross := fill.mul level.price
          let next : Taken :=
            { remaining := taken.remaining.sub fill
              gross := taken.gross.add gross
              fills := taken.fills ++
                [⟨taken.fills.length, level.row.sequence, level.price.toText, fill.toText, gross.toText⟩] }
          if next.remaining.isZero then next else takeLevels side limit rest next

def emptyRow (sequence : Nat) (value : ReplayInput) (quantity limit : Decimal) : ReplayCanonical where
  sequence := sequence
  decisionAt := formatTime value.decisionAt
  marketID := value.marketID
  outcomeID := value.outcomeID.toText
  side := value.side.text
  role := value.role.text
  quantity := quantity.toText
  limitPrice := limit.toText
  status := .noBook
  bookSourceKey := ""
  feeSourceKey := ""
  filledQuantity := "0"
  residualQuantity := quantity.toText
  weightedPrice := "0"
  grossCash := "0"
  fee := "0"
  netCash := "0"
  fills := []

def filledRow (value : ReplayInput) (quantity limit : Decimal) (book : ParsedBook) (fee : ParsedFee)
    (row : ReplayCanonical) : Outcome ReplayCanonical := do
  let levels := if value.side = .sell then book.bids else book.asks
  let taken := takeLevels value.side limit levels ⟨quantity, .zero, []⟩
  let filled := quantity.sub taken.remaining
  if filled.isZero then pure { row with status := .limitBlocked, fills := taken.fills }
  else do
    let feeValue ← calculateFee fee taken.fills
    let net := if value.side = .sell then taken.gross.sub feeValue else taken.gross.add feeValue
    pure { row with
      status := if taken.remaining.isZero then .filled else .partly
      fills := taken.fills
      filledQuantity := filled.toText
      residualQuantity := taken.remaining.toText
      weightedPrice := (taken.gross.div filled).toText
      grossCash := taken.gross.toText
      fee := feeValue.toText
      netCash := net.toText }

def replayRow (books : List ParsedBook) (fees : List ParsedFee) (sequence : Nat) (value : ReplayInput)
    (quantity limit : Decimal) : Outcome ReplayCanonical :=
  let row := emptyRow sequence value quantity limit
  match selectBook books value with
  | none => pure row
  | some book =>
      let row := { row with bookSourceKey := book.input.sourceKey }
      match selectFee fees value book.input.venue with
      | none => pure { row with status := .noFeePolicy }
      | some fee => filledRow value quantity limit book fee { row with feeSourceKey := fee.input.sourceKey }

def ReplayInput.trimmed (value : ReplayInput) : ReplayInput := { value with marketID := trimSpace value.marketID }

def requestInvalid (value : ReplayInput) (cutoff : Instant) (quantity limit : Decimal) : Bool :=
  value.marketID == "" || value.outcomeID == Uuid.nil || !value.decisionAt.isCanonical ||
    value.decisionAt.after cutoff || (value.side != .buy && value.side != .sell) ||
    (value.role != .maker && value.role != .taker) || !quantity.greaterThan .zero || !limit.greaterThan .zero ||
    !limit.lessThan (.newFromInt 1)

/-- One iteration of the loop over the requests, with the key of the request before. -/
def addReplay (books : List ParsedBook) (fees : List ParsedFee) (cutoff : Instant)
    (sofar : String × List ReplayCanonical) (given : ReplayInput) : Outcome (String × List ReplayCanonical) :=
  let value := given.trimmed
  let key := replayInputKey value
  let invalid : Fault := .errorf "prediction replay request is invalid" []
  match exactDecimal value.quantity, exactDecimal value.limitPrice with
  | .ok quantity, .ok limit => do
      failIf (key == sofar.1 || requestInvalid value cutoff quantity limit) invalid
      let row ← replayRow books fees sofar.2.length value quantity limit
      pure (key, sofar.2 ++ [row])
  | _, _ => .error invalid

def orderedRequests (values : List ReplayInput) : List ReplayInput :=
  sortedBy (fun value => byteOrder (replayInputKey value)) values

def buildReplays (values : List ReplayInput) (books : List ParsedBook) (fees : List ParsedFee) (cutoff : Instant) :
    Outcome (List ReplayCanonical) := do
  failIf values.isEmpty (.errorf "prediction replay requires replay requests" [])
  let (_, rows) ← (orderedRequests values).foldlM (addReplay books fees cutoff) ("", [])
  pure rows

def EvidenceCanonical.members (c : EvidenceCanonical) : List (String × Bytes) := [
  ("partition_content_sha256", quote c.partitionContentSHA256),
  ("source_key", quote c.sourceKey),
  ("content_sha256", quote c.contentSHA256),
  ("available_at", quote c.availableAt)]

def LevelCanonical.marshal (c : LevelCanonical) : Bytes :=
  encodeObject [
    ("side", quote c.side),
    ("sequence", encodeInt c.sequence),
    ("price", quote c.price),
    ("size", quote c.size)]

def BookCanonical.marshal (c : BookCanonical) : Bytes :=
  encodeObject (c.toEvidenceCanonical.members ++ [
    ("market_id", quote c.marketID),
    ("outcome_id", quote c.outcomeID),
    ("venue", quote c.venue),
    ("exchange_at", quote c.exchangeAt),
    ("revision", encodeInt c.revision),
    ("correction_of", quote c.correctionOf),
    ("levels", encodeArray (c.levels.map LevelCanonical.marshal))])

def FeeCanonical.marshal (c : FeeCanonical) : Bytes :=
  encodeObject (c.toEvidenceCanonical.members ++ [
    ("instrument_id", quote c.instrumentID),
    ("venue", quote c.venue),
    ("role", quote c.role),
    ("effective_from", quote c.effectiveFrom),
    ("effective_to", quote c.effectiveTo),
    ("formula", quote c.formula),
    ("rate", quote c.rate),
    ("scale", encodeInt c.scale),
    ("rounding", quote c.rounding)])

def FillCanonical.marshal (c : FillCanonical) : Bytes :=
  encodeObject [
    ("sequence", encodeInt c.sequence),
    ("level", encodeInt c.level),
    ("price", quote c.price),
    ("quantity", quote c.quantity),
    ("gross", quote c.gross)]

def ReplayCanonical.marshal (c : ReplayCanonical) : Bytes :=
  encodeObject [
    ("sequence", encodeInt c.sequence),
    ("decision_at", quote c.decisionAt),
    ("market_id", quote c.marketID),
    ("outcome_id", quote c.outcomeID),
    ("side", quote c.side),
    ("role", quote c.role),
    ("quantity", quote c.quantity),
    ("limit_price", quote c.limitPrice),
    ("status", quote c.status.text),
    ("book_source_key", quote c.bookSourceKey),
    ("fee_source_key", quote c.feeSourceKey),
    ("filled_quantity", quote c.filledQuantity),
    ("residual_quantity", quote c.residualQuantity),
    ("weighted_price", quote c.weightedPrice),
    ("gross_cash", quote c.grossCash),
    ("fee", quote c.fee),
    ("net_cash", quote c.netCash),
    ("fills", encodeArray (c.fills.map FillCanonical.marshal))]

def RecorderCanonical.marshal (c : RecorderCanonical) : Bytes :=
  encodeObject [
    ("schema", quote schemaV1),
    ("state", quote "completed"),
    ("manifest_id", quote c.manifestID.toText),
    ("manifest_sha256", quote c.manifestSHA256),
    ("manifest_cutoff", quote c.manifestCutoff),
    ("books", encodeArray (c.books.map BookCanonical.marshal)),
    ("fees", encodeArray (c.fees.map FeeCanonical.marshal)),
    ("replays", encodeArray (c.replays.map ReplayCanonical.marshal))]

def newRecorder (input : Input) : Outcome Recorder := do
  let manifest ← required (.errorf "prediction replay manifest is required" []) input.manifest
  let index ← manifestIndex manifest
  let books ← normalizeBooks input.books index
  let fees ← normalizeFees input.fees index
  let replays ← buildReplays input.replays books fees manifest.decisionCutoff
  let canonical : RecorderCanonical :=
    { manifestID := manifest.id
      manifestSHA256 := manifest.digest
      manifestCutoff := formatTime manifest.decisionCutoff
      books := books.map ParsedBook.row
      fees := fees.map ParsedFee.row
      replays := replays }
  let encoded := canonical.marshal
  let digest := sha256Hex encoded
  pure ⟨canonical, encoded, digest,
    deterministicUUID "prediction-book-fee-recorder" [schemaV1 ++ "@sha256:" ++ digest]⟩

end Augr.Predictionreplay
