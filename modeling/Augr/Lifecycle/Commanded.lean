import Augr.Ledger.Matching
import Augr.Lifecycle.Commands
import Augr.Lifecycle.Invariants

/-! The commands and the aggregate agree: what a command returns is accepted. -/

set_option autoImplicit false

namespace Augr.Lifecycle

open Foundation Ledger MarketData Text Aggregate

variable {event : Event} {kind : EventKind} {moment : Instant} {intent : Intent} {ts : List Transition} {order : Order}
  {binding : OrderBinding} {next : State} {externalOrderID : String} {a : Aggregate} {t : Transition}

theorem admitting_some_iff (a other : Aggregate) (ready : Aggregate → Bool) (refusal : String) :
    admitting (some a) ready refusal = .ok other ↔ ready a = true ∧ a = other := by
  cases passes : ready a <;> simp [admitting, Option.filter, passes]

/-- A new event repeats the intent and its input, and has no context of an order yet. -/
structure Drafted (input : EventInput) (intent : Intent) (kind : EventKind) (prior next : State) (event : Event) :
    Prop where
  context : sameContext intent event = true
  isKind : event.kind = kind
  isPrior : event.priorState = prior
  isNext : event.nextState = next
  unordered : event.orderID = none
  unbound : event.bindingID = none
  unfilled : event.fillID = none
  noPolicy : event.policyKind = .unrecognized "" ∧ event.policyVersion = ""
  unsequenced : event.ingestSequence = 0
  observed : event.observationClass = if input.observationClass.text = "" then .ordinary else input.observationClass
  original : event.originalFillID = input.originalFillID
  source : event.source = toLower (trimSpace input.source) ∧
    event.sourceNamespace = trimSpace input.sourceNamespace ∧
    event.sourceEventID = trimSpace input.sourceEventID ∧
    event.sourceRevision = trimSpace input.sourceRevision
  received : event.receivedAt = normalizeTime input.receivedAt

theorem newEvent_ok {clock : Reading} {prior : State} {input : EventInput} {createdAt : Instant}
    (ok : newEvent clock intent kind prior next input createdAt = .ok event) :
    Drafted input intent kind prior next event := by
  simp only [newEvent, returns_iff] at ok
  obtain ⟨_, _, _, _, _, _, _, _, _, _, _, _, rfl⟩ := ok
  constructor <;> simp [EventInput.toEvent, sameContext]

theorem Event.ordinary_of_validate (valid : event.validate = .ok ())
    (notCorrection : event.kind ≠ .fillCorrectionObserved) (notBust : event.kind ≠ .fillBustObserved) :
    event.observationClass = .ordinary := by
  simp only [Event.validate, check_bind_ok_iff] at valid
  obtain ⟨_, _, _, _, _, _, _, _, observation, _⟩ := valid
  unfold Event.validateObservation at observation
  cases observationClass : event.observationClass with
  | ordinary => rfl
  | correction =>
    simp [observationClass, bind_ok_iff, notCorrection] at observation
  | bust =>
    simp [observationClass, bind_ok_iff, notBust] at observation
  | unrecognized text =>
    simp [observationClass] at observation

theorem Drafted.accepted {input : EventInput} (drafted : Drafted input a.intent kind a.state next event)
    (same : t.event.kind = event.kind ∧ t.event.priorState = event.priorState ∧ t.event.nextState = event.nextState ∧
      sameContext a.intent t.event = sameContext a.intent event)
    (valid : t.event.validate = .ok ()) (policy : a.checkPolicyContext t.event = .ok ())
    (ordinary : kind ≠ .fillCorrectionObserved ∧ kind ≠ .fillBustObserved)
    (legal : validEventTransition kind .ordinary a.state next = true) : Accepted a t := by
  obtain ⟨sameKind, samePrior, sameNext, sameContext⟩ := same
  rw [drafted.isKind] at sameKind
  refine ⟨valid, sameContext.trans drafted.context, policy, samePrior.trans drafted.isPrior, ?_⟩
  rw [Event.ordinary_of_validate valid (sameKind ▸ ordinary.1) (sameKind ▸ ordinary.2), sameKind, sameNext,
    drafted.isNext]
  exact legal

/-- The aggregate accepts the transition, which has no place in the stored order yet. -/
structure Taken (a : Aggregate) (t : Transition) : Prop where
  unsequenced : t.event.ingestSequence = 0
  steps : ∃ after, a.step t = .ok after

theorem Accepted.taken (accepted : Accepted a t) (unsequenced : t.event.ingestSequence = 0) (next : Aggregate)
    (facts : a.applyFacts t = .ok next) : Taken a t :=
  ⟨unsequenced, _, (step_ok_iff a t _).mpr ⟨accepted, next, facts, rfl⟩⟩

section
variable {a : Aggregate} {t : Transition} {clock : Reading} {input : EventInput} {createdAt : Instant}

theorem policy_unplaced (unplaced : a.order = none) (unordered : event.orderID = none)
    (noPolicy : event.policyKind = .unrecognized "" ∧ event.policyVersion = "") :
    a.checkPolicyContext event = .ok () := by
  simp [checkPolicyContext, unplaced, unordered, noPolicy, PolicyKind.text]

theorem allocate_taken {quantity : Decimal} (invariant : Invariant a)
    (ok : allocate clock (some a) quantity input createdAt = .ok t) : Taken a t := by
  simp only [allocate, returns_iff, admitting_some_iff] at ok
  obtain ⟨_, ⟨ready, rfl⟩, fits, event, built, valid, rfl⟩ := ok
  have state : a.state = .proposed := by simpa using ready
  have drafted := newEvent_ok built
  have progress := invariant.progress
  rw [state] at progress
  rw [← state] at drafted
  refine Accepted.taken (drafted.accepted ⟨rfl, rfl, rfl, rfl⟩ valid
    (policy_unplaced progress.2.1 drafted.unordered drafted.noPolicy) (by decide) (by simp [validEventTransition, state]))
    drafted.unsequenced { a with allocatedQuantity := some quantity } ?_
  simp only [Bool.or_eq_false_iff, Bool.not_eq_false', bne_eq_false_iff_eq] at fits
  simp [applyFacts, Event.alone, drafted.isKind, applyAllocation, Transition.childless, fits,
    pure, Except.pure]

theorem riskTransition_taken {approved : Bool} (invariant : Invariant a)
    (ok : riskTransition clock (some a) approved input createdAt = .ok t) : Taken a t := by
  simp only [riskTransition, returns_iff, admitting_some_iff] at ok
  obtain ⟨_, ⟨ready, rfl⟩, event, built, valid, rfl⟩ := ok
  simp only [Bool.and_eq_true, beq_iff_eq] at ready
  obtain ⟨state, allocated⟩ := ready
  obtain ⟨quantity, isQuantity⟩ := Option.isSome_iff_exists.mp allocated
  have drafted := newEvent_ok built
  have progress := invariant.progress
  rw [state] at progress
  rw [← state] at drafted
  refine Accepted.taken (drafted.accepted ⟨rfl, rfl, rfl, rfl⟩ valid
    (policy_unplaced progress.1 drafted.unordered drafted.noPolicy) (by cases approved <;> decide)
    (by cases approved <;> simp [validEventTransition, state])) drafted.unsequenced a ?_
  have kind := drafted.isKind
  cases approved <;>
    simp [applyFacts, Event.alone, kind, applyRiskDecision, Transition.childless, isQuantity,
      pure, Except.pure]

theorem applyFacts_routed (kind : t.event.kind = .orderRouted) : a.applyFacts t = a.applyRoute t := by
  rw [applyFacts, kind]

theorem policy_placed (placed : a.order = some order) (ordered : event.orderID = some order.id)
    (policy : event.policyKind = order.policyKind) (version : event.policyVersion = order.policyVersion) :
    a.checkPolicyContext event = .ok () := by
  simp [checkPolicyContext, placed, ordered, policy, version]

theorem routes_named {routing : RouteInput} {allocated : Decimal} (isAllocated : a.allocatedQuantity = some allocated)
    (ordered : event.orderID = some (routing.toOrder a.intent allocated moment).named.id)
    (policy : event.policyKind = routing.policyKind)
    (version : event.policyVersion = trimSpace routing.policyVersion)
    (quote : event.quoteSnapshotID = some routing.routeSnapshot.id) :
    a.routes event (routing.toOrder a.intent allocated moment).named = true := by
  simp [routes, Order.named, RouteInput.toOrder, isAllocated, ordered, policy, version, quote]

theorem route_taken {routing : RouteInput} (ok : route clock (some a) routing = .ok t) :
    Taken a t := by
  simp only [route, returns_iff, admitting_some_iff] at ok
  obtain ⟨_, ⟨ready, rfl⟩, allocated, isAllocated, _, orderValid, event, built, valid, rfl⟩ := ok
  simp only [Bool.and_eq_true, beq_iff_eq, Option.isNone_iff_eq_none] at ready
  obtain ⟨⟨state, _⟩, unrouted⟩ := ready
  have drafted := newEvent_ok built
  rw [← state] at drafted
  obtain ⟨order, isOrder⟩ : ∃ order,
      (routing.toOrder a.intent allocated (creationTime clock routing.createdAt)).named = order := ⟨_, rfl⟩
  rw [isOrder] at orderValid valid ⊢
  have matching : a.routes { event.inContext a order with
      quoteSnapshotID := some order.routeQuoteSnapshotID } order = true := by
    subst isOrder
    exact routes_named isAllocated rfl rfl rfl rfl
  refine Accepted.taken (drafted.accepted ⟨rfl, rfl, rfl, rfl⟩ valid
    (by simp [checkPolicyContext, unrouted, Event.alone, Event.inContext, drafted.isKind]) (by decide)
    (by simp [validEventTransition, state])) drafted.unsequenced { a with order := some order } ?_
  exact (applyFacts_routed drafted.isKind).trans (applyRoute_of unrouted rfl ⟨rfl, rfl, rfl⟩ matching orderValid)

theorem newOrderBinding_ok (ok : newOrderBinding intent order externalOrderID moment = .ok binding) :
    binding.orderID = order.id ∧ binding.accountID = intent.accountID ∧ binding.venue = order.venue ∧
      binding.validate = .ok () := by
  simp only [newOrderBinding, returns_iff] at ok
  obtain ⟨_, valid, rfl⟩ := ok
  exact ⟨rfl, rfl, rfl, valid⟩

theorem applyFacts_working (kind : t.event.kind = .orderWorking) : a.applyFacts t = a.applyWorking t := by
  rw [applyFacts, kind]

theorem acknowledge_taken (ok : acknowledge clock (some a) externalOrderID input createdAt = .ok t) : Taken a t := by
  simp only [acknowledge, returns_iff, admitting_some_iff] at ok
  obtain ⟨_, ⟨ready, rfl⟩, order, placed, binding, bound, event, built, valid, rfl⟩ := ok
  simp only [Bool.and_eq_true, beq_iff_eq, Option.isNone_iff_eq_none] at ready
  obtain ⟨⟨state, _⟩, unbound⟩ := ready
  obtain ⟨ofOrder, ofAccount, ofVenue, bindingValid⟩ := newOrderBinding_ok bound
  have drafted := newEvent_ok built
  rw [← state] at drafted
  refine Accepted.taken (drafted.accepted ⟨rfl, rfl, rfl, rfl⟩ valid (policy_placed placed rfl rfl rfl) (by decide)
    (by simp [validEventTransition, state])) drafted.unsequenced { a with binding := some binding } ?_
  exact (applyFacts_working drafted.isKind).trans
    (applyWorking_of placed unbound rfl ⟨rfl, rfl, rfl⟩ rfl ofOrder ofAccount ofVenue bindingValid)

theorem bindFill_of {created : Option OrderBinding}
    (ok : fillBinding a order externalOrderID moment = .ok (binding, created))
    (kind : t.event.kind = if a.state = .routed then .fillAcknowledged else .fillRecorded)
    (carried : t.binding = created) (named : t.event.bindingID = some binding.id) :
    a.bindFill order t = .ok (some binding) := by
  unfold fillBinding at ok
  by_cases routed : a.state = .routed
  · simp only [routed, if_true, returns_iff, Prod.mk.injEq, Option.isSome_eq_false_iff,
      Option.isNone_iff_eq_none] at ok kind
    obtain ⟨unbound, _, new, rfl, rfl⟩ := ok
    obtain ⟨ofOrder, _, _, valid⟩ := newOrderBinding_ok new
    simp [bindFill, refusing, kind, routed, unbound, carried, named, ofOrder, valid, deref, wrapping,
      pure, Except.pure]
  · simp only [routed, if_false, returns_iff, Prod.mk.injEq] at ok kind
    obtain ⟨_, _, bound, _, rfl, rfl⟩ := ok
    simp [bindFill, kind, bound, carried, named, pure, Except.pure]

theorem fillBinding_routed {created : Option OrderBinding} (routed : a.state = .routed)
    (ok : fillBinding a order externalOrderID moment = .ok (binding, created)) :
    newOrderBinding a.intent order externalOrderID moment = .ok binding := by
  simp only [fillBinding, routed, if_true, returns_iff, Prod.mk.injEq] at ok
  obtain ⟨_, _, new, rfl, _⟩ := ok
  exact new

/-- What recording a fill puts into the transition. -/
structure Recorded (a : Aggregate) (t : Transition) (order : Order) (fill : Fill) (n : EconomicNormalization)
    (source : EconomicSourceEvent) (transaction : Transaction) (binding : OrderBinding) : Prop where
  accepted : Accepted a t
  unsequenced : t.event.ingestSequence = 0
  kind : t.event.kind = .fillAcknowledged ∨ t.event.kind = .fillRecorded
  carried : FillCarried a t order fill n source transaction
  sound : ∃ validated, n.validate validated = .ok ()
  bound : a.bindFill order t = .ok (some binding)
  venue : a.state = .routed → binding.accountID = a.intent.accountID ∧ binding.venue = order.venue
  identity : fill.id = fillIdentity order.id source.id
  side : fill.side = order.side
  quantity : n.quantity = some fill.quantity
  price : n.price = some fill.price
  effective : fill.effectiveAt = n.effectiveAt
  unordered : t.order = none
  evidence : t.event.source = source.source ∧ t.event.sourceNamespace = source.sourceNamespace ∧
    t.event.sourceEventID = source.sourceEventID ∧ t.event.sourceRevision = source.sourceRevision

theorem sameEvidence_iff {source : EconomicSourceEvent} :
    sameEvidence source input = true ↔
      source.source = toLower (trimSpace input.source) ∧
      source.sourceNamespace = trimSpace input.sourceNamespace ∧
      source.sourceEventID = trimSpace input.sourceEventID ∧
      source.sourceRevision = trimSpace input.sourceRevision ∧
      source.observedAt.equal (normalizeTime input.receivedAt) = true ∧ source.rawPayload = input.evidence := by
  simp [sameEvidence, and_assoc]

theorem linked_newFill {source : EconomicSourceEvent} {n : EconomicNormalization} {transaction : Transaction}
    {quantity price : Decimal} {prior : State} (drafted : Drafted input a.intent kind prior next event)
    (same : sameEvidence source input = true) :
    linked event (newFill a order source n transaction quantity price moment) source n transaction = true := by
  obtain ⟨isSource, isNamespace, isEvent, isRevision, isObserved, _⟩ := sameEvidence_iff.mp same
  have received : event.receivedAt.equal source.observedAt = true := by
    rw [drafted.received, Instant.equal_comm]
    exact isObserved
  simp [linked, newFill, drafted.source, isSource, isNamespace, isEvent, isRevision, received]

theorem legal_fill {state : State} (full : Bool)
    (takes : (state != .routed && state != .working && state != .partiallyFilled) = false) :
    validEventTransition (if state = .routed then .fillAcknowledged else .fillRecorded) .ordinary state
      (if full then .filled else .partiallyFilled) = true := by
  have known : state = .routed ∨ state = .working ∨ state = .partiallyFilled := by
    simpa only [Bool.and_eq_false_iff, bne_eq_false_iff_eq, or_assoc] using takes
  rcases known with rfl | rfl | rfl <;> cases full <;> decide

theorem recordFill_ok {validated : Reading} {filling : FillInput}
    (ok : recordFill validated clock (some a) filling = .ok t) :
    ∃ order fill n source transaction binding, Recorded a t order fill n source transaction binding := by
  simp only [recordFill, returns_iff, admitting_some_iff, Prod.exists] at ok
  obtain ⟨_, ⟨_, rfl⟩, order, placed, takes, _, n, isNormalization, sound, _, source, isSource, normalized, _, same,
    _, transaction, isTransaction, quantity, isQuantity, price, isPrice, fillValid, within, binding, created, bound,
    event, built, valid, rfl⟩ := ok
  have same : sameEvidence source filling.event = true := by simpa using same
  have drafted := newEvent_ok built
  have legal := legal_fill (((sumFillQuantity a.fills).add quantity).equal order.quantity) takes
  obtain ⟨sources, namespaces, events, revisions, _⟩ := sameEvidence_iff.mp same
  have linked : linked event
      (newFill a order source n transaction quantity price (creationTime clock filling.createdAt)) source n transaction =
        true := linked_newFill drafted same
  refine ⟨order, newFill a order source n transaction quantity price (creationTime clock filling.createdAt), n, source,
    transaction, binding, ?_⟩
  constructor
  case accepted =>
    exact drafted.accepted ⟨rfl, rfl, rfl, rfl⟩ valid (policy_placed placed rfl rfl rfl) (by split <;> decide) legal
  case unsequenced => exact drafted.unsequenced
  case kind =>
    change event.kind = _ ∨ event.kind = _
    rw [drafted.isKind]
    split <;> simp
  case carried =>
    refine ⟨placed, rfl, rfl, by simp [owns, newFill, Event.alone, Event.inContext], fillValid, normalized,
      isSource, isTransaction, linked, by simpa using within, ⟨_, rfl, by simp⟩, ?_⟩
    change event.nextState = .filled ↔ _
    rw [drafted.isNext, ← Decimal.toRat_add, ← Decimal.equal_iff]
    split <;> simp_all
  case sound => exact ⟨_, sound⟩
  case bound => exact bindFill_of bound drafted.isKind rfl rfl
  case venue =>
    intro routed
    obtain ⟨_, ofAccount, ofVenue, _⟩ := newOrderBinding_ok (fillBinding_routed routed bound)
    exact ⟨ofAccount, ofVenue⟩
  case evidence =>
    rw [sources, namespaces, events, revisions]
    exact drafted.source
  all_goals first | rfl | assumption

theorem recordFill_taken {validated : Reading} {filling : FillInput}
    (ok : recordFill validated clock (some a) filling = .ok t) : Taken a t := by
  obtain ⟨order, fill, n, source, transaction, binding, recorded⟩ := recordFill_ok ok
  have filling : a.applyFacts t = a.applyFill t := by
    rcases recorded.kind with kind | kind <;> rw [applyFacts, kind]
  exact recorded.accepted.taken recorded.unsequenced _
    (filling.trans (applyFill_of recorded.carried recorded.unordered recorded.bound))

theorem requestCancel_taken (ok : requestCancel clock (some a) input createdAt = .ok t) :
    Taken a t := by
  simp only [requestCancel, returns_iff, admitting_some_iff] at ok
  obtain ⟨_, ⟨ready, rfl⟩, order, placed, binding, bound, event, built, valid, rfl⟩ := ok
  simp only [Bool.and_eq_true] at ready
  have drafted := newEvent_ok built
  refine Accepted.taken (drafted.accepted ⟨rfl, rfl, rfl, rfl⟩ valid (policy_placed placed rfl rfl rfl) (by decide)
    (by simpa [validEventTransition] using ready.1.1)) drafted.unsequenced a ?_
  simp [applyFacts, Event.alone, Event.inContext, drafted.isKind, applyCancelRequest,
    Transition.childless, bound, pure, Except.pure]

theorem applyTerminal_of (childless : t.childless = true) (named : t.event.bindingID = a.binding.map OrderBinding.id)
    (bound : ((a.state == .working || a.state == .partiallyFilled) && a.binding.isNone) = false)
    (unbound : a.state = .routed → a.binding = none) : a.applyTerminal t = .ok a := by
  cases isBinding : a.binding with
  | none =>
    rw [isBinding] at bound
    simp_all [applyTerminal, pure, Except.pure]
  | some binding =>
    have routed : a.state ≠ .routed := by
      intro routed
      rw [unbound routed] at isBinding
      cases isBinding
    simp [applyTerminal, childless, named, isBinding, routed, pure, Except.pure]

theorem applyFacts_terminal
    (ends : t.event.kind = .orderCancelled ∨ t.event.kind = .orderExpired ∨ t.event.kind = .orderRejected) :
    a.applyFacts t = a.applyTerminal t := by
  rcases ends with kind | kind | kind <;> rw [applyFacts, kind]

theorem observeOrderTerminal_taken (invariant : Invariant a)
    (ok : observeOrderTerminal clock (some a) kind input createdAt = .ok t) : Taken a t := by
  simp only [observeOrderTerminal, returns_iff, admitting_some_iff] at ok
  obtain ⟨_, ⟨_, rfl⟩, order, placed, ok⟩ := ok
  cases terminal : terminalState kind with
  | none => simp [terminal] at ok
  | some next =>
    simp only [terminal, returns_iff] at ok
    obtain ⟨legal, bound, event, built, valid, rfl⟩ := ok
    have drafted := newEvent_ok built
    have ends : kind = .orderCancelled ∨ kind = .orderExpired ∨ kind = .orderRejected := by
      cases kind <;> simp_all [terminalState]
    have unbound : a.state = .routed → a.binding = none := by
      intro routed
      have progress := invariant.progress
      rw [routed] at progress
      exact progress.1
    refine Accepted.taken (drafted.accepted ⟨rfl, rfl, rfl, rfl⟩ valid (policy_placed placed rfl rfl rfl)
      (by rcases ends with rfl | rfl | rfl <;> decide) (by simpa using legal)) drafted.unsequenced a ?_
    rw [applyFacts_terminal (by rw [← drafted.isKind] at ends; exact ends)]
    exact applyTerminal_of rfl rfl bound unbound

theorem failure_of_checked {observationClass : ObservationClass}
    (checked : checkFailureClass kind observationClass = .ok ()) : kind.isFailure = true := by
  cases kind <;> simp [checkFailureClass] at checked <;> rfl

theorem legal_failure {observationClass : ObservationClass} {state : State}
    (checked : checkFailureClass kind observationClass = .ok ()) (started : state ≠ .none)
    (pending : state ≠ .failedReconciliation) :
    validEventTransition kind (if observationClass.text = "" then .ordinary else observationClass) state
      .failedReconciliation = true := by
  cases kind <;> simp [checkFailureClass] at checked
  case fillCorrectionObserved =>
    subst checked
    simp [validEventTransition, ObservationClass.text, started, pending]
  case fillBustObserved =>
    subst checked
    simp [validEventTransition, ObservationClass.text, started, pending]
  all_goals
    have ordinary : (if observationClass.text = "" then ObservationClass.ordinary else observationClass) = .ordinary := by
      split
      · rfl
      · exact checked ‹_›
    rw [ordinary]
    simp [validEventTransition, started, pending]

theorem Event.situated_same (event : Event) (a : Aggregate) :
    (event.situated a).kind = event.kind ∧ (event.situated a).priorState = event.priorState ∧
      (event.situated a).nextState = event.nextState ∧
      (event.situated a).observationClass = event.observationClass ∧
      (event.situated a).ingestSequence = event.ingestSequence ∧
      sameContext a.intent (event.situated a) = sameContext a.intent event := by
  unfold Event.situated
  cases a.order <;> exact ⟨rfl, rfl, rfl, rfl, rfl, rfl⟩

theorem Event.situated_policy (unordered : event.orderID = none)
    (noPolicy : event.policyKind = .unrecognized "" ∧ event.policyVersion = "") :
    a.checkPolicyContext (event.situated a) = .ok () := by
  cases placed : a.order with
  | none =>
    refine policy_unplaced placed ?_ ?_ <;> simp [Event.situated, placed, unordered, noPolicy]
  | some order =>
    refine policy_placed placed ?_ ?_ ?_ <;> simp [Event.situated, placed, Event.inContext]

theorem applyFacts_failure (childless : t.childless = true) (failure : t.event.kind.isFailure = true)
    (known : (t.event.kind == .fillCorrectionObserved || t.event.kind == .fillBustObserved) = true →
      t.event.originalFillID.any (fun id => a.hasFill id t.event.originalSourceEventID) = true) :
    a.applyFacts t = .ok a := by
  rw [applyFacts]
  cases kind : t.event.kind <;> simp [kind, EventKind.isFailure] at failure <;>
    simp_all [applyRevision, applyVenueFailure, pure, Except.pure]

theorem failReconciliation_taken (ok : failReconciliation clock (some a) kind input createdAt = .ok t) : Taken a t := by
  simp only [failReconciliation, returns_iff, admitting_some_iff] at ok
  obtain ⟨_, ⟨ready, rfl⟩, checked, event, built, known, valid, rfl⟩ := ok
  have drafted := newEvent_ok built
  have policy := Event.situated_policy (a := a) drafted.unordered drafted.noPolicy
  obtain ⟨isKind, isPrior, isNext, isClass, isSequence, isContext⟩ := event.situated_same a
  generalize event.situated a = situated at *
  rw [drafted.isKind] at isKind
  simp only [Bool.and_eq_true, bne_iff_ne] at ready
  have legal := legal_failure checked ready.1 ready.2
  have accepted : Accepted a situated.alone := by
    refine ⟨valid, isContext.trans drafted.context, policy, isPrior.trans drafted.isPrior, ?_⟩
    change validEventTransition situated.kind situated.observationClass a.state situated.nextState = true
    rw [isKind, isClass, drafted.observed, isNext, drafted.isNext]
    exact legal
  refine accepted.taken (isSequence.trans drafted.unsequenced) a (applyFacts_failure rfl ?_ ?_)
  · change situated.kind.isFailure = true
    rw [isKind]
    exact failure_of_checked checked
  · change (situated.kind == _ || situated.kind == _) = true → _
    rw [isKind]
    intro revision
    simpa [revision, Event.alone] using known

end

/-- A transition that one of the commands returns on the aggregate. -/
inductive Commanded (a : Aggregate) (t : Transition) : Prop where
  | allocate (clock : Reading) (quantity : Decimal) (input : EventInput) (createdAt : Instant)
      (ok : allocate clock (some a) quantity input createdAt = .ok t)
  | approveRisk (clock : Reading) (input : EventInput) (createdAt : Instant)
      (ok : approveRisk clock (some a) input createdAt = .ok t)
  | rejectRisk (clock : Reading) (input : EventInput) (createdAt : Instant)
      (ok : rejectRisk clock (some a) input createdAt = .ok t)
  | route (clock : Reading) (input : RouteInput) (ok : route clock (some a) input = .ok t)
  | acknowledge (clock : Reading) (externalOrderID : String) (input : EventInput) (createdAt : Instant)
      (ok : acknowledge clock (some a) externalOrderID input createdAt = .ok t)
  | recordFill (validated clock : Reading) (input : FillInput) (ok : recordFill validated clock (some a) input = .ok t)
  | requestCancel (clock : Reading) (input : EventInput) (createdAt : Instant)
      (ok : requestCancel clock (some a) input createdAt = .ok t)
  | observeOrderTerminal (clock : Reading) (kind : EventKind) (input : EventInput) (createdAt : Instant)
      (ok : observeOrderTerminal clock (some a) kind input createdAt = .ok t)
  | failReconciliation (clock : Reading) (kind : EventKind) (input : EventInput) (createdAt : Instant)
      (ok : failReconciliation clock (some a) kind input createdAt = .ok t)

/-- The aggregates that a proposal and transitions built by commands lead to, with the
transitions collected on the way. -/
inductive Built : Aggregate → List Transition → Prop where
  | propose {a : Aggregate} (clock : Reading) (input : ProposeInput) (ok : propose clock input = .ok a) :
      Built a (a.events.map Event.alone)
  | apply {a after : Aggregate} {ts : List Transition} {t : Transition} (built : Built a ts) (commanded : Commanded a t)
      (ok : applyTransition (some a) (some t) = .ok after) : Built after (ts ++ [t])

theorem Commanded.taken (invariant : Invariant a) (commanded : Commanded a t) : Taken a t := by
  cases commanded with
  | allocate _ _ _ _ ok => exact allocate_taken invariant ok
  | approveRisk _ _ _ ok => exact riskTransition_taken invariant ok
  | rejectRisk _ _ _ ok => exact riskTransition_taken invariant ok
  | route _ _ ok => exact route_taken ok
  | acknowledge _ _ _ _ ok => exact acknowledge_taken ok
  | recordFill _ _ _ ok => exact recordFill_taken ok
  | requestCancel _ _ _ ok => exact requestCancel_taken ok
  | observeOrderTerminal _ _ _ _ ok => exact observeOrderTerminal_taken invariant ok
  | failReconciliation _ _ _ _ ok => exact failReconciliation_taken ok

theorem Drafted.opens {input : EventInput} {opening : Event}
    (drafted : Drafted input intent .intentProposed .none .proposed event)
    (isOpening : opening = { event with
      quantityDelta := some intent.desiredQuantityDelta
      quoteSnapshotID := some intent.decisionQuoteSnapshotID })
    (valid : opening.validate = .ok ()) : Lifecycle.opens intent opening.alone = true := by
  have kind := drafted.isKind
  have context : sameContext intent opening = true := isOpening ▸ drafted.context
  simp only [Lifecycle.opens, Event.alone, context]
  subst isOpening
  have ordinary : event.observationClass = .ordinary :=
    Event.ordinary_of_validate valid (by rw [kind]; decide) (by rw [kind]; decide)
  simp [Transition.childless, kind, ordinary, drafted.isPrior, drafted.isNext, drafted.unordered, drafted.unbound,
    drafted.unfilled, drafted.noPolicy, PolicyKind.text]

theorem propose_ok {clock : Reading} {input : ProposeInput} (ok : propose clock input = .ok a) :
    ∃ event, a = .opened a.intent event ∧ a.intent.validate = .ok () ∧ opens a.intent event.alone = true ∧
      event.validate = .ok () ∧ event.ingestSequence = 0 := by
  simp only [propose, returns_iff] at ok
  obtain ⟨_, _, _, _, _, _, _, _, _, _, _, _, _, _, _, intentValid, event, built, valid, rfl⟩ := ok
  have drafted := newEvent_ok built
  exact ⟨_, rfl, intentValid, drafted.opens rfl valid, valid, drafted.unsequenced⟩

theorem Intent.account_of_validate (valid : intent.validate = .ok ()) : intent.accountID ≠ Uuid.nil := by
  simp only [Intent.validate, check_bind_ok_iff, failIf_ok_iff, Bool.or_eq_false_iff, beq_eq_false_iff_ne] at valid
  exact valid.1.1.1.2

theorem replay_opened (valid : intent.validate = .ok ()) (opening : opens intent event.alone = true)
    (eventValid : event.validate = .ok ()) :
    replay intent.accountID intent [event.alone] = .ok (.opened intent event) :=
  (replay_ok_iff _ _ _ _).mpr ⟨⟨intent.account_of_validate valid, rfl⟩, valid, event.alone, [],
    .start intent event.alone, rfl, opening, eventValid, rfl, rfl⟩

theorem Built.invariant (built : Built a ts) : Invariant a := by
  induction built with
  | propose clock input ok =>
    obtain ⟨event, opened, _, opening, _⟩ := propose_ok ok
    rw [opened]
    exact Invariant.opened opening
  | apply built commanded ok invariant => exact invariant.step ok

theorem Built.unsequenced (built : Built a ts) : ∀ t ∈ ts, t.event.ingestSequence = 0 := by
  induction built with
  | propose clock input ok =>
    obtain ⟨event, opened, _, _, _, unsequenced⟩ := propose_ok ok
    rw [opened]
    simpa [Aggregate.opened, Event.alone] using unsequenced
  | apply built commanded ok unsequenced =>
    exact List.forall_mem_append.mpr ⟨unsequenced,
      List.forall_mem_singleton.mpr (commanded.taken built.invariant).unsequenced⟩

theorem step_intent {after : Aggregate} (ok : a.step t = .ok after) : after.intent = a.intent := by
  obtain ⟨_, _, effect, rfl⟩ := step_effect ok
  cases effect <;> rfl

theorem step_order {after : Aggregate} (ok : a.step t = .ok after) (placed : a.order = some order) :
    after.order = some order := by
  obtain ⟨_, _, effect, rfl⟩ := step_effect ok
  cases effect with
  | routed _ _ _ _ unrouted =>
    rw [unrouted] at placed
    cases placed
  | _ => exact placed

theorem Built.replay (built : Built a ts) (distinct : (ts.map fun t => t.event.id).Nodup) :
    Lifecycle.replay a.intent.accountID a.intent ts = .ok a := by
  induction built with
  | propose clock input ok =>
    obtain ⟨event, opened, valid, opening, eventValid, _⟩ := propose_ok ok
    rw [opened]
    exact replay_opened valid opening eventValid
  | apply built commanded ok ih =>
    have unsequenced := (built.apply commanded ok).unsequenced
    rw [List.map_append, List.nodup_append] at distinct
    obtain ⟨earlier, _, fresh⟩ := distinct
    rw [step_intent ok]
    refine replay_extend (ih earlier) unsequenced ?_ ok
    intro member
    exact fresh _ member _ (by simp) rfl

/-- Whatever a command returns on a reached aggregate is accepted, and the collected
transitions replay to the aggregate. -/
theorem built_accepts_and_replays {a : Aggregate} {ts : List Transition} (built : Built a ts) :
    (∀ t, Commanded a t → ∃ after, applyTransition (some a) (some t) = .ok after) ∧
      ((ts.map fun t => t.event.id).Nodup → replay a.intent.accountID a.intent ts = .ok a) := by
  constructor
  · intro t commanded
    exact (commanded.taken built.invariant).steps
  · exact built.replay

def sampleSnapshot : QuoteSnapshot :=
  { sampleQuote (Uuid.ofByte 5) "q1" with
    venueContractID := none
    exchangeAt := none
    receivedAt := ⟨2000000, true⟩
    availableAt := some ⟨2000000, true⟩
    createdAt := ⟨2000000, true⟩ }

def sampleEventInput (sourceEventID : String) : EventInput :=
  { source := "alpaca"
    sourceNamespace := "fills"
    sourceEventID := sourceEventID
    sourceRevision := ""
    observationClass := .unrecognized ""
    observationDiscriminator := ""
    sourceAt := ⟨4000000, true⟩
    receivedAt := ⟨5000000, true⟩
    actor := "desk"
    reasonCode := "manual"
    reason := ""
    evidence := emptyObject
    originalFillID := none
    originalSourceEventID := "" }

def sampleProposal : ProposeInput :=
  { account := sampleAccount
    instrument := sampleInstrument
    decisionSnapshot := sampleSnapshot
    idempotencyKey := "buy-two"
    desiredQuantityDelta := Decimal.newFromInt 2
    decisionAt := ⟨2000000, true⟩
    originType := .operator
    originID := "desk"
    strategyVersionID := ""
    metadata := emptyObject
    event := sampleEventInput "s1"
    createdAt := ⟨5000000, true⟩ }

def sampleAllocatedAggregate : Aggregate :=
  { opened sampleIntent sampleProposedEvent with
    state := .allocated
    allocatedQuantity := some (Decimal.newFromInt 2)
    events := [sampleProposedEvent, sampleAllocated.event] }

theorem sampleAllocated_built : Built sampleAllocatedAggregate [sampleProposed, sampleAllocated] := by
  have proposed : propose sampleReading sampleProposal = .ok (.opened sampleIntent sampleProposedEvent) := by
    decide +kernel
  have allocated : allocate sampleReading (some (.opened sampleIntent sampleProposedEvent)) (Decimal.newFromInt 2)
      (sampleEventInput "s2") ⟨5000000, true⟩ = .ok sampleAllocated := by
    decide +kernel
  exact (Built.propose _ _ proposed).apply (.allocate _ _ _ _ allocated) (by decide +kernel)

theorem built_accepts_and_replays_allocated :
    (∀ t, Commanded sampleAllocatedAggregate t →
      ∃ after, applyTransition (some sampleAllocatedAggregate) (some t) = .ok after) ∧
    replay sampleIntent.accountID sampleIntent [sampleProposed, sampleAllocated] = .ok sampleAllocatedAggregate :=
  ⟨(built_accepts_and_replays sampleAllocated_built).1,
    (built_accepts_and_replays sampleAllocated_built).2 (by decide)⟩

end Augr.Lifecycle
