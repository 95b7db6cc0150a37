import Augr.Experimentrun.Result
import Augr.Foundation.Keyed

/-! The evaluation policy, and the observations and closed trades a report is made of. -/

set_option autoImplicit false

namespace Augr.Evaluation

open Foundation Json
open Experimentrun (canonicalText digestPattern formatTime parseTime requireFromString)

def policySchemaV1 : String := "evaluation-policy-v1"

inductive Frequency where
  | minute
  | daily
  | weekly
  | monthly
  | unrecognized (text : String)
  deriving DecidableEq

def Frequency.text : Frequency → String
  | .minute => "minute"
  | .daily => "daily"
  | .weekly => "weekly"
  | .monthly => "monthly"
  | .unrecognized text => text

def Frequency.known : Frequency → Bool
  | .unrecognized _ => false
  | _ => true

structure PolicyInput where
  version : String
  frequency : Frequency
  periodsPerYear : Int
  (returnKind cashConvention lotMethod recoveryDefinition : String)
  decimalScale : Int
  deriving DecidableEq

/-- The fields are private to the package: a policy comes from `newPolicy`. -/
structure Policy where
  canonical : PolicyInput
  bytes : RawMessage
  digest : String
  id : Uuid
  deriving DecidableEq

def PolicyInput.marshal (c : PolicyInput) : Bytes :=
  encodeObject [
    ("schema", quote policySchemaV1),
    ("version", quote c.version),
    ("frequency", quote c.frequency.text),
    ("periods_per_year", encodeInt c.periodsPerYear),
    ("return_kind", quote c.returnKind),
    ("cash_convention", quote c.cashConvention),
    ("lot_method", quote c.lotMethod),
    ("recovery_definition", quote c.recoveryDefinition),
    ("decimal_scale", encodeInt c.decimalScale)]

def newPolicy (input : PolicyInput) : Outcome Policy := do
  failIf (!canonicalText input.version 128 || !input.frequency.known || input.periodsPerYear ≤ 0 ||
      1000000 < input.periodsPerYear || input.returnKind != "simple" || input.cashConvention != "explicit_per_period" ||
      input.lotMethod != "fifo" || input.recoveryDefinition != "first_equity_at_or_above_prior_peak" ||
      input.decimalScale < 6 || 18 < input.decimalScale)
    (.errorf "evaluation policy is invalid" [])
  let encoded := input.marshal
  let digest := sha256Hex encoded
  pure ⟨input, encoded, digest, deterministicUUID "evaluation-policy" [policySchemaV1 ++ "@sha256:" ++ digest]⟩

/-- A decimal in its own text, of at most 128 bytes and not above `10 ^ 30`, that passes the test. -/
def decimalWhere (test : Decimal → Bool) (value : String) : Bool :=
  match Decimal.newFromString value with
  | .error _ => false
  | .ok d => Text.byteLength value ≤ 128 && d.toText == value && !d.abs.greaterThan ⟨1, 30⟩ && test d

def validDecimal (value : String) : Bool := decimalWhere (fun _ => true) value

def signed (value : String) : Bool := validDecimal value

def positive (value : String) : Bool := decimalWhere Decimal.isPositive value

def nonnegative (value : String) : Bool := decimalWhere (fun d => !d.isNegative) value

def ratio (value : String) : Bool := decimalWhere (fun d => !d.isNegative && !d.greaterThan (.newFromInt 1)) value

structure ObservationValues where
  (equity benchmarkValue cashReturn grossExposure netExposure largestPositionWeight : String)
  (cumulativeOwnershipCost cumulativeTurnover cumulativeModeledSlippage : String)
  cumulativeObservedSlippage : Option String
  evidenceID : Uuid
  evidenceSHA256 : String
  deriving DecidableEq

structure ObservationInput extends ObservationValues where
  observedAt : Instant
  deriving DecidableEq

structure ObservationCanonical extends ObservationValues where
  sequence : Nat
  observedAt : String
  deriving DecidableEq

def ObservationValues.invalid (value : ObservationValues) : Bool :=
  !positive value.equity || !positive value.benchmarkValue || !signed value.cashReturn ||
    !nonnegative value.grossExposure || !signed value.netExposure || !ratio value.largestPositionWeight ||
    !nonnegative value.cumulativeOwnershipCost || !nonnegative value.cumulativeTurnover ||
    !nonnegative value.cumulativeModeledSlippage ||
    value.cumulativeObservedSlippage.any (fun slippage => !nonnegative slippage) ||
    value.evidenceID == Uuid.nil || !digestPattern value.evidenceSHA256

/-- Later than the prior observation; before the first one there is none. -/
def observedOutOfPlace (start finish : Instant) (prior : Option ObservationInput) (value : ObservationInput) : Bool :=
  !value.observedAt.isCanonical || value.observedAt.before start || value.observedAt.after finish ||
    prior.any fun last => !value.observedAt.after last.observedAt

def decreases (prior current : String) : Outcome Bool := do
  let earlier ← requireFromString prior
  let later ← requireFromString current
  pure (later.lessThan earlier)

def observedSlippageDecreases : Option String → Option String → Outcome Bool
  | some earlier, some later => decreases earlier later
  | _, _ => pure false

def cumulativeDecreases (prior value : ObservationValues) : Outcome Bool := do
  let cost ← decreases prior.cumulativeOwnershipCost value.cumulativeOwnershipCost
  let turnover ← decreases prior.cumulativeTurnover value.cumulativeTurnover
  let modeled ← decreases prior.cumulativeModeledSlippage value.cumulativeModeledSlippage
  let observed ← observedSlippageDecreases prior.cumulativeObservedSlippage value.cumulativeObservedSlippage
  pure (cost || turnover || modeled || observed)

def fallsBehind (prior : Option ObservationInput) (value : ObservationInput) : Outcome Bool :=
  match prior with
  | none => pure false
  | some last => cumulativeDecreases last.toObservationValues value.toObservationValues

def canonicalObservation (start finish : Instant) (prior : Option ObservationInput) (index : Nat)
    (value : ObservationInput) : Outcome ObservationCanonical := do
  failIf (observedOutOfPlace start finish prior value || value.invalid)
    (.errorf "evaluation observation %d is invalid" [Text.itoa index])
  let falls ← fallsBehind prior value
  failIf falls (.errorf "evaluation cumulative evidence decreases" [])
  pure { value.toObservationValues with sequence := index, observedAt := formatTime value.observedAt }

def observationsFrom (start finish : Instant) :
    Option ObservationInput → Nat → List ObservationInput → Outcome (List ObservationCanonical)
  | _, _, [] => pure []
  | prior, index, value :: rest => do
      let row ← canonicalObservation start finish prior index value
      let rows ← observationsFrom start finish (some value) (index + 1) rest
      pure (row :: rows)

def canonicalObservations (values : List ObservationInput) (start finish : Instant) :
    Outcome (List ObservationCanonical) := do
  failIf (values.length < 2 || 100000 < values.length)
    (.errorf "evaluation requires at least two bounded observations" [])
  let rows ← observationsFrom start finish none 0 values
  failIf (!values.head?.any (·.observedAt.equal start) || !values.getLast?.any (·.observedAt.equal finish))
    (.errorf "evaluation observations do not span the declared window" [])
  pure rows

/-- The same day of the next month; a day the month does not have runs over into the one after. -/
def addMonth (t : Instant) : Instant :=
  let seconds := t.nanos / 1000000000
  let (year, month, day) := Instant.civil (seconds / Instant.secondsPerDay)
  let days := if month = 12 then Instant.daysFromCivil (year + 1) 1 day else Instant.daysFromCivil year (month + 1) day
  ⟨(days * Instant.secondsPerDay + seconds % Instant.secondsPerDay) * 1000000000 + t.nanos % 1000000000, t.utc⟩

example : (addMonth (parseTime "2023-01-31T08:30:00.000000Z")).format = "2023-03-03T08:30:00.000000Z" ∧
    (addMonth (parseTime "2023-12-05T00:00:00.000000Z")).format = "2024-01-05T00:00:00.000000Z" := by decide

def secondNanos : Duration := 1000000000

def Frequency.next (frequency : Frequency) (prior : Instant) : Option Instant :=
  match frequency with
  | .minute => some (prior.add (60 * secondNanos))
  | .daily => some (prior.add (24 * 3600 * secondNanos))
  | .weekly => some (prior.add (7 * 24 * 3600 * secondNanos))
  | .monthly => some (addMonth prior)
  | .unrecognized _ => none

/-- The times are read back from the canonical rows. -/
def followsFrequency (frequency : Frequency) (prior current : ObservationCanonical) : Bool :=
  (frequency.next (parseTime prior.observedAt)).any (parseTime current.observedAt).equal

def validateFrequencyFrom (frequency : Frequency) : Nat → List ObservationCanonical → Outcome Unit
  | index, prior :: current :: rest => do
      failIf (!followsFrequency frequency prior current)
        (.errorf "evaluation observation %d violates declared %s frequency" [Text.itoa index, frequency.text])
      validateFrequencyFrom frequency (index + 1) (current :: rest)
  | _, _ => pure ()

def validateFrequency (policy : Policy) (observations : List ObservationCanonical) : Outcome Unit :=
  validateFrequencyFrom policy.canonical.frequency 1 observations

inductive Side where
  | long
  | short
  | unrecognized (text : String)
  deriving DecidableEq

def Side.text : Side → String
  | .long => "long"
  | .short => "short"
  | .unrecognized text => text

structure TradeValues where
  instrumentID : Uuid
  side : Side
  quantity : String
  (entryFillIDs exitFillIDs : List Uuid)
  (entryPrice exitPrice entryFees exitFees otherOwnershipCost grossPnL afterCostPnL : String)
  deriving DecidableEq

structure ClosedTradeInput extends TradeValues where
  (entryAt exitAt : Instant)
  deriving DecidableEq

structure TradeCanonical extends TradeValues where
  sequence : Nat
  (entryAt exitAt : String)
  deriving DecidableEq

def ClosedTradeInput.invalid (start finish : Instant) (value : ClosedTradeInput) : Bool :=
  value.instrumentID == Uuid.nil || (value.side != .long && value.side != .short) || !positive value.quantity ||
    !value.entryAt.isCanonical || !value.exitAt.isCanonical || value.entryAt.before start || value.exitAt.after finish ||
    value.exitAt.before value.entryAt || !positive value.entryPrice || !positive value.exitPrice ||
    !nonnegative value.entryFees || !nonnegative value.exitFees || !nonnegative value.otherOwnershipCost ||
    !signed value.grossPnL || !signed value.afterCostPnL || value.entryFillIDs.isEmpty || value.exitFillIDs.isEmpty

/-- The loop over the fills of a trade; no fill is counted twice in a report. -/
def claimFill (seen : List Uuid) (id : Uuid) : Outcome (List Uuid) := do
  failIf (id == Uuid.nil) (.errorf "evaluation trade fill identity is invalid" [])
  failIf (seen.contains id) (.errorf "evaluation trade fill is reused" [])
  pure (id :: seen)

def expectedAfterCost (value : TradeValues) : Outcome Decimal := do
  let gross ← requireFromString value.grossPnL
  let entry ← requireFromString value.entryFees
  let exit ← requireFromString value.exitFees
  let other ← requireFromString value.otherOwnershipCost
  pure (((gross.sub entry).sub exit).sub other)

def addTrade (start finish : Instant) (state : List Uuid × List TradeCanonical) (value : ClosedTradeInput) :
    Outcome (List Uuid × List TradeCanonical) := do
  let index := state.2.length
  failIf (value.invalid start finish) (.errorf "evaluation closed trade %d is invalid" [Text.itoa index])
  let seen ← (value.entryFillIDs ++ value.exitFillIDs).foldlM claimFill state.1
  let expected ← expectedAfterCost value.toTradeValues
  let stated ← requireFromString value.afterCostPnL
  failIf (!expected.equal stated) (.errorf "evaluation trade after-cost pnl does not reconcile" [])
  let row : TradeCanonical :=
    { value.toTradeValues with
      sequence := index
      entryAt := formatTime value.entryAt
      exitAt := formatTime value.exitAt }
  pure (seen, state.2 ++ [row])

/-- Sorted by the text of the exit; trades that leave at once keep their order. -/
def canonicalTrades (values : List ClosedTradeInput) (start finish : Instant) : Outcome (List TradeCanonical) := do
  let (_, rows) ← values.foldlM (addTrade start finish) ([], [])
  let ordered := sortedBy (fun (row : TradeCanonical) => byteOrder row.exitAt) rows
  pure (ordered.zipIdx.map fun entry => { entry.1 with sequence := entry.2 })

end Augr.Evaluation
