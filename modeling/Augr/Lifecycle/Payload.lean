import Augr.Lifecycle.Aggregate

/-! When two events or fills carry the same retry evidence. -/

set_option autoImplicit false

namespace Augr.Lifecycle

open Foundation

def equalDecimal : Option Decimal → Option Decimal → Bool
  | none, none => true
  | some left, some right => left.equal right
  | _, _ => false

/-- Everything but the database sequence and the local persistence time. -/
def sameEventPayload (left right : Event) : Bool :=
  left.id == right.id && left.intentID == right.intentID && left.orderID == right.orderID &&
    left.bindingID == right.bindingID && left.fillID == right.fillID && left.kind == right.kind &&
    left.observationClass == right.observationClass &&
    left.observationDiscriminator == right.observationDiscriminator && left.priorState == right.priorState &&
    left.nextState == right.nextState && left.accountID == right.accountID &&
    left.environment == right.environment && left.originType == right.originType &&
    left.originID == right.originID && left.strategyVersionID == right.strategyVersionID &&
    left.policyKind == right.policyKind && left.policyVersion == right.policyVersion &&
    equalDecimal left.quantityDelta right.quantityDelta &&
    equalDecimal left.cumulativeFillQuantity right.cumulativeFillQuantity &&
    left.quoteSnapshotID == right.quoteSnapshotID && left.source == right.source &&
    left.sourceNamespace == right.sourceNamespace && left.sourceEventID == right.sourceEventID &&
    left.sourceRevision == right.sourceRevision && left.sourceAt.equal right.sourceAt &&
    left.receivedAt.equal right.receivedAt && left.actor == right.actor && left.reasonCode == right.reasonCode &&
    left.reason == right.reason && left.evidenceSHA256 == right.evidenceSHA256 && left.evidence == right.evidence &&
    left.originalFillID == right.originalFillID && left.originalSourceEventID == right.originalSourceEventID

def sameFillPayload (left right : Fill) : Bool :=
  left.id == right.id && left.intentID == right.intentID && left.orderID == right.orderID &&
    left.accountID == right.accountID && left.instrumentID == right.instrumentID &&
    left.venueContractID == right.venueContractID && left.economicSourceEventID == right.economicSourceEventID &&
    left.normalizationID == right.normalizationID && left.ledgerTransactionID == right.ledgerTransactionID &&
    left.side == right.side && left.quantity.equal right.quantity && left.price.equal right.price &&
    left.source == right.source && left.sourceNamespace == right.sourceNamespace &&
    left.sourceEventID == right.sourceEventID && left.sourceRevision == right.sourceRevision &&
    left.effectiveAt.equal right.effectiveAt && left.receivedAt.equal right.receivedAt

@[simp] theorem equalDecimal_self (value : Option Decimal) : equalDecimal value value = true := by
  cases value with
  | none => rfl
  | some value => simp [equalDecimal]

@[simp] theorem sameFillPayload_self (fill : Fill) : sameFillPayload fill fill = true := by
  simp [sameFillPayload]

/-- An event with the stamps that retries may change. -/
def Event.restamp (event : Event) (sequence : Int) (createdAt : Instant) : Event :=
  { event with ingestSequence := sequence, createdAt := createdAt }

@[simp] theorem sameEventPayload_restamp (event : Event) (sequence : Int) (createdAt : Instant) :
    sameEventPayload (event.restamp sequence createdAt) event = true := by
  simp [sameEventPayload, Event.restamp]

@[simp] theorem sameEventPayload_self (event : Event) : sameEventPayload event event = true :=
  sameEventPayload_restamp event event.ingestSequence event.createdAt

theorem sameEventPayload_source {left right : Event} (same : sameEventPayload left right = true) :
    left.kind = right.kind ∧ left.source = right.source ∧ left.sourceNamespace = right.sourceNamespace ∧
      left.sourceEventID = right.sourceEventID := by
  simp only [sameEventPayload, Bool.and_eq_true, beq_iff_eq, and_assoc] at same
  obtain ⟨_, _, _, _, _, kind, _, _, _, _, _, _, _, _, _, _, _, _, _, _, source, sourceNamespace, sourceEventID, _⟩ := same
  exact ⟨kind, source, sourceNamespace, sourceEventID⟩

end Augr.Lifecycle
