import Augr.Lifecycle.Commanded
import Augr.Lifecycle.Payload

/-! The local cancellation command of a bound venue order, and its persistence. -/

set_option autoImplicit false

namespace Augr.Venue

open Foundation Lifecycle

def policySchemaV1 : String := "venue-adapter-policy-v1"

inductive Provider where
  | alpaca
  | kalshi
  | unrecognized (text : String)
  deriving DecidableEq, Repr

def Provider.text : Provider → String
  | .alpaca => "alpaca"
  | .kalshi => "kalshi"
  | .unrecognized text => text

def Provider.ofText (text : String) : Provider :=
  if text = "alpaca" then .alpaca else if text = "kalshi" then .kalshi else .unrecognized text

def validProvider : Provider → Bool
  | .unrecognized _ => false
  | _ => true

/-- Written without escaping the characters that HTML reserves. -/
def quotePlain (text : String) : Bytes :=
  0x22 :: ((Text.characters text).flatMap fun c =>
    if c = '<' ∨ c = '>' ∨ c = '&' then String.utf8EncodeChar c else Json.encodeCharacter c) ++ [0x22]

/-- What identifies the command of one order, and what it records. -/
structure CancellationEvidence where
  evidence : RawMessage
  (sourceNamespace sourceEventID : String)

def Provider.cancelPath : Provider → String
  | .kalshi => "/portfolio/events/orders/\x7bexternal_order_id\x7d"
  | _ => "/v2/orders/\x7bexternal_order_id\x7d"

def cancellationEvidence (order : Order) (binding : OrderBinding) (provider : Provider) : CancellationEvidence :=
  { evidence := Json.encodeObject [
      ("schema", quotePlain "venue-cancel-request-v1"),
      ("order_id", quotePlain order.id.toText),
      ("provider", quotePlain provider.text),
      ("venue", quotePlain order.venue),
      ("policy_version", quotePlain order.policyVersion),
      ("client_order_id", quotePlain order.clientOrderID),
      ("binding_id", quotePlain binding.id.toText),
      ("external_order_id", quotePlain binding.externalOrderID),
      ("method", quotePlain "DELETE"),
      ("path_template", quotePlain provider.cancelPath),
      ("request_body", quotePlain "<empty>")]
    sourceNamespace := policySchemaV1 ++ "/" ++ provider.text ++ "/" ++ order.policyVersion ++ "/cancel-request-v1"
    sourceEventID := order.id.toText ++ "/cancel-request-v1" }

def cancellationCommandEvidence (a : Aggregate) (provider : Provider) : Outcome CancellationEvidence :=
  match a.order, a.binding with
  | some order, some binding => do
      failIf (!validProvider provider || order.venue != provider.text || order.policyKind != .venue ||
          order.policyVersion == "" || order.clientOrderID == "")
        (.errorf "venue cancellation command canonical order context is invalid" [])
      pure (cancellationEvidence order binding provider)
  | _, _ => .error (.errorf "venue cancellation command canonical order context is invalid" [])

namespace CancellationEvidence

def names (command : CancellationEvidence) (event : Event) : Bool :=
  event.kind == .cancelRequested && event.source == "venue_command" &&
    event.sourceNamespace == command.sourceNamespace && event.sourceEventID == command.sourceEventID

def eventInput (command : CancellationEvidence) (requestedAt : Instant) : EventInput :=
  { source := "venue_command"
    sourceNamespace := command.sourceNamespace
    sourceEventID := command.sourceEventID
    sourceRevision := ""
    observationClass := .unrecognized ""
    observationDiscriminator := ""
    sourceAt := requestedAt
    receivedAt := requestedAt
    actor := "venue-adapter"
    reasonCode := "cancel_requested"
    reason := ""
    evidence := command.evidence
    originalFillID := none
    originalSourceEventID := "" }

end CancellationEvidence

def newCancellationCommand (clock : Reading) (aggregate : Option Aggregate) (requestedAt : Instant) :
    Outcome Transition := do
  let a ← admitting aggregate (fun a => a.order.any (fun order => order.policyKind == .venue) && a.binding.isSome)
    "new venue cancellation command: bound venue lifecycle is required"
  let order ← deref "Order" a.order
  let provider := Provider.ofText order.venue
  failIf (!validProvider provider) (.errorf "new venue cancellation command: reviewed provider is required" [])
  let command ← cancellationCommandEvidence a provider
  match a.events.find? command.names with
  | some existing => do
      failIf (existing.evidence != command.evidence)
        (.errorf "new venue cancellation command: existing command evidence conflicts" [])
      pure existing.alone
  | none => do
      let requestedAt := requestedAt.normalize
      failIf requestedAt.isZero (.errorf "new venue cancellation command: request time is required" [])
      wrapping "new venue cancellation command: %w" []
        (requestCancel clock (some a) (command.eventInput requestedAt) requestedAt)

/-- A stored lifecycle that takes one more transition. An event that is already stored is
answered with the stored value when its payload is the same, and refused otherwise. -/
def applyExecutionTransition (sequence : Int) (stored : Aggregate) (accountID : Uuid) (t : Transition) :
    Outcome Aggregate := do
  failIf (accountID == Uuid.nil || t.event.intentID == Uuid.nil || t.event.accountID != accountID)
    (.errorf "postgres: apply execution transition: account and intent identity are required" [])
  match stored.events.find? fun event => event.id == t.event.id with
  | some existing => do
      failIf (!(sameEventPayload existing t.event && t.childless))
        (.errorf "postgres: execution transition identity reused with mismatched payload" [])
      pure stored
  | none => do
      let next ← wrapping "postgres: validate execution transition: %w" [] (stored.step t)
      pure { next with events := stored.events ++ [t.event.restamp sequence t.event.createdAt] }

def sameAggregateResult (left right : Aggregate) : Bool :=
  left.intent.id == right.intent.id && left.intent.accountID == right.intent.accountID &&
    left.state == right.state && left.events.length == right.events.length &&
    left.fills.length == right.fills.length && left.order.map Order.id == right.order.map Order.id &&
    left.binding.map OrderBinding.id == right.binding.map OrderBinding.id &&
    (left.events.zip right.events).all (fun pair => pair.1.id == pair.2.id && sameEventPayload pair.1 pair.2) &&
    (left.fills.zip right.fills).all fun pair => sameFillPayload pair.1 pair.2

/-- What is known of a command before the store is asked. -/
inductive Prepared where
  | recorded (aggregate : Aggregate)
  | expecting (expected : Aggregate) (command : Transition)

def prepareCancellation (accountID : Uuid) (aggregate : Option Aggregate) (command : Option Transition) :
    Outcome Prepared := do
  let a ← admitting (if accountID == Uuid.nil || command.isNone then none else aggregate)
    (fun a => a.order.isSome && a.intent.accountID == accountID)
    "persist venue cancellation command: matching store, account, aggregate, and command are required"
  let order ← deref "Order" a.order
  let t ← deref "command" command
  let evidence ← cancellationCommandEvidence a (Provider.ofText order.venue)
  failIf (!evidence.names t.event || t.event.sourceRevision != "" || t.event.evidence != evidence.evidence)
    (.errorf "persist venue cancellation command: identity or canonical evidence is invalid" [])
  match a.events.find? fun event => event.id == t.event.id with
  | some existing => do
      failIf (!sameEventPayload existing t.event)
        (.errorf "persist venue cancellation command: existing command payload conflicts" [])
      pure (.recorded a)
  | none => do
      let expected ← wrapping "persist venue cancellation command: %w" [] (applyTransition (some a) (some t))
      pure (.expecting expected t)

/-- The answer to the caller, and what is stored afterwards. -/
def persistCancellationCommand (sequence : Int) (stored : Aggregate) (accountID : Uuid)
    (aggregate : Option Aggregate) (command : Option Transition) : Outcome Aggregate × Aggregate :=
  match prepareCancellation accountID aggregate command with
  | .error fault => (.error fault, stored)
  | .ok (.recorded aggregate) => (.ok aggregate, stored)
  | .ok (.expecting expected t) =>
      match applyExecutionTransition sequence stored accountID t with
      | .error fault =>
          (.error (.wrapf "persist venue cancellation command %s: %w" [t.event.id.toText] fault), stored)
      | .ok persisted =>
          if sameAggregateResult persisted expected then (.ok persisted, persisted)
          else (.error (.errorf "persist venue cancellation command: persisted lifecycle differs from command" []),
            persisted)

end Augr.Venue
