import Augr.Capital.Assessment
import Augr.Experimentrun.Evidence

/-! The capital preflight: every step that executes is assessed before anything is written. -/

set_option autoImplicit false

namespace Augr.Experimentrun

open Foundation MarketData Capital

/-- The limit price, or the top of the book on the side the order takes. -/
def preflightPrice (spec : IntentSpecInput) (material : Option ObservationMaterial) : Outcome Decimal :=
  let missing := Fault.errorf "executable top-of-book price is required" []
  let executable (price : Option Decimal) : Outcome Decimal := do
    let price ← required missing price
    failIf (!price.isPositive) missing
    pure price
  match spec.limitPrice with
  | some price => requireFromString price
  | none =>
      if spec.side = "buy" then executable (material.bind fun m => m.snapshot.ask)
      else if spec.side = "sell" then executable (material.bind fun m => m.snapshot.bid)
      else .error missing

/-- What the whole quantity costs at the price, rounded up. -/
def executionNotional (quantity price multiplier : Decimal) (scale : Nat) : Decimal :=
  ((quantity.mul price).mul multiplier).roundCeil scale

def declaredNotional (decision : RawMessage) : Option String :=
  ((Json.decode Json.anyNumber decision).bind Json.fields?).bind fun fields => Json.textField fields "capital_notional"

/-- An option is assessed at the notional its decision declares. -/
def capitalAssessmentNotional (step : StepInput) (quantity : Decimal) (inst : Instrument) (contract : VenueContract)
    (price : Decimal) (scale : Nat) : Outcome Decimal :=
  let execution := executionNotional quantity price contract.multiplier scale
  if inst.assetClass != .option then .ok execution
  else do
    let declared := (declaredNotional step.decision).getD ""
    failIf (declared == "") (.errorf "option decision lacks declared capital notional" [])
    let refused := Fault.errorf "option decision capital notional is invalid" []
    match Decimal.newFromString declared with
    | .error _ => .error refused
    | .ok value => do
        failIf (!value.isPositive || value.toText != declared || value.lessThan execution) refused
        pure value

def stepAssessmentInput (g : CompleteGraph) (plan : Plan) (materials : List ObservationMaterial) (entry : StepInput × Nat) :
    Outcome AssessmentInput := do
  let (step, sequence) := entry
  let spec ← deref "step.Intent" step.intent
  let quantity ← requireFromString spec.quantity
  let price ← wrapping "experiment step %d capital price: %w" [Text.itoa sequence]
    (preflightPrice spec (materialFor materials step))
  let inst ← deref "inst" (g.instruments spec.instrumentID)
  let contract ← deref "contract" (g.venueContracts spec.venueContractID)
  let signed := if spec.side = "sell" then quantity.neg else quantity
  let notional ← wrapping "experiment step %d capital notional: %w" [Text.itoa sequence]
    (capitalAssessmentNotional step quantity inst contract price g.capitalPolicy.scale)
  pure
    { account := g.account
      binding := g.capitalBinding
      policy := some g.capitalPolicy
      state := some g.capitalState
      instrument := inst
      currency := g.account.baseCurrency
      scenarioID := plan.id.toText ++ "/step/" ++ Text.itoa sequence
      direction := if signed.isNegative then .increaseShort else .increaseLong
      proposedNotional := notional }

def preflightStep (g : CompleteGraph) (plan : Plan) (materials : List ObservationMaterial) (entry : StepInput × Nat) :
    Outcome (Option Assessment) := do
  let (step, sequence) := entry
  if step.action ≠ .execute then pure none
  else do
    let input ← stepAssessmentInput g plan materials entry
    let assessment ← wrapping "experiment step %d capital assessment: %w" [Text.itoa sequence] (assess input)
    failIf (assessment.decision != .admitted)
      (.errorf "experiment step %d capital rejected: %s" [Text.itoa sequence, assessment.reason.text])
    pure (some assessment)

/-- Each step is assessed against the same capital state. -/
def preflightCapital (g : CompleteGraph) (plan : Plan) (steps : List StepInput) (materials : List ObservationMaterial) :
    Outcome (List (Option Assessment)) :=
  steps.zipIdx.mapM (preflightStep g plan materials)

end Augr.Experimentrun
