import Augr.Ledger.Replay
import Mathlib.Data.List.Sort

/-! Boundary of a projection and the valuation of a replayed state. -/

set_option autoImplicit false

namespace Augr.Ledger

open Foundation Text

structure ProjectionRequest where
  accountID : Uuid
  asOf : Instant
  (markSource markNamespace : String)
  maxMarkAge : Duration
  deriving DecidableEq

def truncateDuration (d : Duration) : Duration := d.tdiv 1000 * 1000

def microseconds (d : Duration) : Int := d.tdiv 1000

def normalizeProjectionBoundary (request : ProjectionRequest) (baseCurrency : String) :
    Outcome (ProjectionRequest × String) := do
  let asOf := request.asOf.normalize
  let markSource := toLower (trimSpace request.markSource)
  let markNamespace := trimSpace request.markNamespace
  let currency := toUpper (trimSpace baseCurrency)
  failIf (request.accountID == Uuid.nil || asOf.isZero) (.errorf "projection account and as-of time are required" [])
  failIf (!isNormalizedRequired markSource || markSource != toLower markSource ||
      !isNormalizedRequired markNamespace || request.maxMarkAge ≤ 0)
    (.errorf "projection mark source, namespace, and positive maximum age are required" [])
  let maxMarkAge := truncateDuration request.maxMarkAge
  failIf (maxMarkAge ≤ 0 || !isCurrencyUnit currency)
    (.errorf "projection base currency or maximum mark age is invalid" [])
  pure (⟨request.accountID, asOf, markSource, markNamespace, maxMarkAge⟩, currency)

def projectionMarkLater (left right : MarkObservation) : Bool :=
  if !left.effectiveAt.equal right.effectiveAt then left.effectiveAt.after right.effectiveAt
  else if !left.observedAt.equal right.observedAt then left.observedAt.after right.observedAt
  else right.id.toText < left.id.toText

/-- A mark the valuation may use: right currency and source, not from the future, not too old. -/
def markIsVisible (request : ProjectionRequest) (currency : String) (mark : MarkObservation) : Bool :=
  mark.priceCurrency == currency && mark.source == request.markSource &&
    mark.sourceNamespace == request.markNamespace && !mark.effectiveAt.after request.asOf &&
    !mark.observedAt.after request.asOf && request.asOf.sub mark.effectiveAt ≤ request.maxMarkAge

/-- The selected mark of each instrument, most recently stored first. -/
abbrev SelectedMarks := List MarkObservation

def SelectedMarks.lookup (selected : SelectedMarks) (instrumentID : Uuid) : Option MarkObservation :=
  selected.find? fun mark => mark.instrumentID == instrumentID

def selectMark (request : ProjectionRequest) (currency : String) (selected : SelectedMarks)
    (candidate : Option MarkObservation) : Outcome SelectedMarks :=
  match candidate with
  | none => .error (.errorf "projection mark cannot be nil" [])
  | some mark => do
      wrapping "projection mark %s: %w" [mark.id.toText] mark.validate
      if !markIsVisible request currency mark then pure selected
      else match selected.lookup mark.instrumentID with
        | none => pure (mark :: selected)
        | some current => pure (if projectionMarkLater mark current then mark :: selected else selected)

def selectMarks (request : ProjectionRequest) (currency : String) (candidates : List (Option MarkObservation)) :
    Outcome SelectedMarks :=
  candidates.foldlM (selectMark request currency) []

structure ProjectionMark where
  (id instrumentID : Uuid)
  price : Decimal
  (priceCurrency source sourceNamespace sourceObservationID sourceRevision : String)
  (effectiveAt observedAt : Instant)
  metadata : RawMessage
  deriving DecidableEq

def projectionMarkFromObservation (mark : MarkObservation) : ProjectionMark :=
  ⟨mark.id, mark.instrumentID, mark.price, mark.priceCurrency, mark.source, mark.sourceNamespace,
    mark.sourceObservationID, mark.sourceRevision, mark.effectiveAt, mark.observedAt, mark.metadata⟩

structure ProjectionPosition where
  instrumentID : Uuid
  isOpen : Bool
  (quantity remainingOpeningCash realizedPnL marketValue unrealizedPnL : Decimal)
  markObservationID : Uuid
  openLotCount : Nat
  deriving DecidableEq

structure ProjectionTotals where
  (cash netCapital fees rebates realizedPnL unrealizedPnL marketValue equity totalPnL : Decimal)
  deriving DecidableEq

/-- Running sum of one decimal per item, from the uninitialised decimal. -/
def sumDecimals {α : Type} (amount : α → Decimal) (items : List α) : Decimal :=
  items.foldl (fun total item => total.add (amount item)) .unset

namespace ProjectionState

def instrumentLots (state : ProjectionState) (instrumentID : Uuid) : List ProjectionLot :=
  state.lots.filter fun lot => lot.instrumentID == instrumentID

def closedPosition (state : ProjectionState) (instrumentID : Uuid) : ProjectionPosition :=
  let lots := state.instrumentLots instrumentID
  let quantity := sumDecimals ProjectionLot.remainingQuantity lots
  { instrumentID := instrumentID
    isOpen := !quantity.isZero
    quantity := quantity
    remainingOpeningCash := sumDecimals ProjectionLot.remainingOpeningCash lots
    realizedPnL := sumDecimals ProjectionMatch.realizedPnL
      (state.lotMatches.filter fun record => record.instrumentID == instrumentID)
    marketValue := .unset
    unrealizedPnL := .unset
    markObservationID := Uuid.nil
    openLotCount := lots.countP fun lot => !lot.remainingQuantity.isZero }

def marketValue (state : ProjectionState) (instrumentID : Uuid) (price : Decimal) : Decimal :=
  sumDecimals (fun lot => (lot.remainingQuantity.mul price).mul lot.markMultiplier)
    ((state.instrumentLots instrumentID).filter fun lot => !lot.remainingQuantity.isZero)

structure Valuation where
  marks : List ProjectionMark
  positions : List ProjectionPosition
  (marketValue unrealized : Decimal)

def valueInstrument (state : ProjectionState) (request : ProjectionRequest) (selected : SelectedMarks)
    (sofar : Valuation) (instrumentID : Uuid) : Outcome Valuation :=
  let position := state.closedPosition instrumentID
  if !position.isOpen then .ok { sofar with positions := sofar.positions ++ [position] }
  else match selected.lookup instrumentID with
    | none => .error (.errorf "open instrument %s has no fresh canonical mark for %s/%s"
        [instrumentID.toText, request.markSource, request.markNamespace])
    | some mark =>
        let marketValue := state.marketValue instrumentID mark.price
        let unrealized := marketValue.add position.remainingOpeningCash
        .ok
          { marks := sofar.marks ++ [projectionMarkFromObservation mark]
            positions := sofar.positions ++ [{ position with
              markObservationID := mark.id
              marketValue := marketValue
              unrealizedPnL := unrealized }]
            marketValue := sofar.marketValue.add marketValue
            unrealized := sofar.unrealized.add unrealized }

def sortByText {α : Type} (text : α → String) (items : List α) : List α :=
  items.insertionSort fun left right => ¬ text right < text left

def totals (state : ProjectionState) (valuation : Valuation) : ProjectionTotals :=
  let equity := state.cash.add valuation.marketValue
  { cash := state.cash
    netCapital := state.netCapital
    fees := state.fees
    rebates := state.rebates
    realizedPnL := state.realized
    unrealizedPnL := valuation.unrealized
    marketValue := valuation.marketValue
    equity := equity
    totalPnL := equity.sub state.netCapital }

def equationFault (totals : ProjectionTotals) : Fault :=
  .errorf "projection P&L equation failed: realized %s + unrealized %s != total %s"
    [totals.realizedPnL.toText, totals.unrealizedPnL.toText, totals.totalPnL.toText]

def finalize (state : ProjectionState) (request : ProjectionRequest) (currency : String)
    (candidates : List (Option MarkObservation)) :
    Outcome (List ProjectionMark × List ProjectionPosition × ProjectionTotals) := do
  let selected ← selectMarks request currency candidates
  let valuation ← (sortByText Uuid.toText state.activity).foldlM (state.valueInstrument request selected)
    ⟨[], [], .zero, .zero⟩
  let totals := state.totals valuation
  failIf (!(totals.realizedPnL.add totals.unrealizedPnL).equal totals.totalPnL) (equationFault totals)
  pure (sortByText (fun mark => mark.instrumentID.toText) valuation.marks, valuation.positions, totals)

end ProjectionState

end Augr.Ledger
