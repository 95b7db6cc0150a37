import Augr.Lifecycle.Aggregate

/-! What an accepted transition does, said once for every kind of event.

All invariants of histories are derived from `step_effect` and `replay_induction`.
-/

set_option autoImplicit false

namespace Augr.Lifecycle

open Foundation Ledger Aggregate

variable {after next : Aggregate} {intent : Intent} {ts : List Transition} {order : Order} {accountID : Uuid}
  {t : Transition}

structure Accepted (a : Aggregate) (t : Transition) : Prop where
  valid : t.event.validate = .ok ()
  context : sameContext a.intent t.event = true
  policy : a.checkPolicyContext t.event = .ok ()
  prior : t.event.priorState = a.state
  legal : validEventTransition t.event.kind t.event.observationClass a.state t.event.nextState = true

theorem step_ok_iff (a : Aggregate) (t : Transition) (after : Aggregate) :
    a.step t = .ok after ↔ Accepted a t ∧ ∃ next, a.applyFacts t = .ok next ∧
      { next with state := t.event.nextState, events := next.events ++ [t.event] } = after := by
  simp only [Aggregate.step, refusing, returns_iff, Bool.not_eq_false', bne_eq_false_iff_eq]
  constructor
  · rintro ⟨valid, context, policy, prior, legal, facts⟩
    rw [prior] at legal
    exact ⟨⟨valid, context, policy, prior, legal⟩, facts⟩
  · rintro ⟨⟨valid, context, policy, prior, legal⟩, facts⟩
    rw [← prior] at legal
    exact ⟨valid, context, policy, prior, legal, facts⟩

def State.live (state : State) : Prop := state = .working ∨ state = .partiallyFilled

def EventKind.isFailure : EventKind → Bool
  | .unknownVenueState | .contradictoryVenueState | .fillCorrectionObserved | .fillBustObserved => true
  | _ => false

/-- The state graph: which kind of event leads from which state to which. -/
inductive Leads : EventKind → State → State → Prop where
  | proposed : Leads .intentProposed .none .proposed
  | allocated : Leads .intentAllocated .proposed .allocated
  | approved : Leads .riskApproved .allocated .riskApproved
  | refused : Leads .riskRejected .allocated .riskRejected
  | routed : Leads .orderRouted .riskApproved .routed
  | working : Leads .orderWorking .routed .working
  | cancelRequested {state : State} (live : state.live) : Leads .cancelRequested state state
  | acknowledged {next : State} (filled : next = .partiallyFilled ∨ next = .filled) :
      Leads .fillAcknowledged .routed next
  | recorded {state next : State} (live : state.live) (filled : next = .partiallyFilled ∨ next = .filled) :
      Leads .fillRecorded state next
  | cancelled {state : State} (placed : state = .routed ∨ state.live) : Leads .orderCancelled state .cancelled
  | expired {state : State} (placed : state = .routed ∨ state.live) : Leads .orderExpired state .expired
  | rejected {state : State} (placed : state = .routed ∨ state.live) : Leads .orderRejected state .rejected
  | failed {kind : EventKind} {state : State} (failure : kind.isFailure = true) (started : state ≠ .none)
      (pending : state ≠ .failedReconciliation) : Leads kind state .failedReconciliation

theorem leads_of_legal {kind : EventKind} {observationClass : ObservationClass} {prior next : State}
    (legal : validEventTransition kind observationClass prior next = true) : Leads kind prior next := by
  unfold validEventTransition at legal
  split at legal
  · -- a correction or a bust, whatever its kind says
    simp only [Bool.and_eq_true, Bool.or_eq_true, beq_iff_eq, bne_iff_ne] at legal
    obtain ⟨⟨⟨revision, started⟩, pending⟩, rfl⟩ := legal
    refine .failed ?_ started pending
    rcases revision with rfl | rfl <;> rfl
  · split at legal
    · cases legal
    · cases kind <;>
        simp only [Bool.and_eq_true, Bool.or_eq_true, beq_iff_eq, bne_iff_ne, Bool.false_eq_true, or_assoc] at legal
      case intentProposed => obtain ⟨rfl, rfl⟩ := legal; exact .proposed
      case intentAllocated => obtain ⟨rfl, rfl⟩ := legal; exact .allocated
      case riskApproved => obtain ⟨rfl, rfl⟩ := legal; exact .approved
      case riskRejected => obtain ⟨rfl, rfl⟩ := legal; exact .refused
      case orderRouted => obtain ⟨rfl, rfl⟩ := legal; exact .routed
      case orderWorking => obtain ⟨rfl, rfl⟩ := legal; exact .working
      case cancelRequested => obtain ⟨live, rfl⟩ := legal; exact .cancelRequested live
      case fillAcknowledged => obtain ⟨rfl, filled⟩ := legal; exact .acknowledged filled
      case fillRecorded => exact .recorded legal.1 legal.2
      case orderCancelled => obtain ⟨placed, rfl⟩ := legal; exact .cancelled placed
      case orderExpired => obtain ⟨placed, rfl⟩ := legal; exact .expired placed
      case orderRejected => obtain ⟨placed, rfl⟩ := legal; exact .rejected placed
      case unknownVenueState => obtain ⟨⟨started, pending⟩, rfl⟩ := legal; exact .failed rfl started pending
      case contradictoryVenueState => obtain ⟨⟨started, pending⟩, rfl⟩ := legal; exact .failed rfl started pending

structure FillCarried (a : Aggregate) (t : Transition) (order : Order) (fill : Fill) (n : EconomicNormalization)
    (source : EconomicSourceEvent) (transaction : Transaction) : Prop where
  placed : a.order = some order
  isFill : t.fill = some fill
  isNormalization : t.normalization = some n
  owned : a.owns order t.event fill = true
  valid : fill.validate = .ok ()
  normalized : validateFillNormalization a.intent order fill.id n = .ok ()
  isSource : n.sourceEvent = some source
  isTransaction : n.transaction = some transaction
  linked : linked t.event fill source n transaction = true
  within : (sumFillQuantity a.fills).toRat + fill.quantity.toRat ≤ order.quantity.toRat
  cumulative : ∃ quantity, t.event.cumulativeFillQuantity = some quantity ∧
    quantity.toRat = (sumFillQuantity a.fills).toRat + fill.quantity.toRat
  full : t.event.nextState = .filled ↔
    (sumFillQuantity a.fills).toRat + fill.quantity.toRat = order.quantity.toRat

/-- The facts after a step, by the kind of its event; state and events are set apart. -/
inductive Effect (a : Aggregate) (t : Transition) : Aggregate → Prop where
  | proposed (kind : t.event.kind = .intentProposed) (prior : a.state = .none) : Effect a t a
  | allocated (quantity : Decimal) (kind : t.event.kind = .intentAllocated) (prior : a.state = .proposed)
      (next : t.event.nextState = .allocated) (exact : validExactDecimal quantity false = true)
      (side : quantity.sign = a.intent.desiredQuantityDelta.sign)
      (bounded : |quantity.toRat| ≤ |a.intent.desiredQuantityDelta.toRat|) :
      Effect a t { a with allocatedQuantity := some quantity }
  | decided (kind : t.event.kind = .riskApproved ∧ t.event.nextState = .riskApproved ∨
        t.event.kind = .riskRejected ∧ t.event.nextState = .riskRejected)
      (prior : a.state = .allocated) : Effect a t a
  | routed (order : Order) (kind : t.event.kind = .orderRouted) (prior : a.state = .riskApproved)
      (next : t.event.nextState = .routed) (unrouted : a.order = none) (matching : a.routes t.event order = true)
      (valid : order.validate = .ok ()) : Effect a t { a with order := some order }
  | working (order : Order) (binding : OrderBinding) (kind : t.event.kind = .orderWorking) (prior : a.state = .routed)
      (next : t.event.nextState = .working) (placed : a.order = some order) (unbound : a.binding = none)
      (named : t.event.bindingID = some binding.id) (ofOrder : binding.orderID = order.id)
      (ofAccount : binding.accountID = a.intent.accountID) (ofVenue : binding.venue = order.venue) :
      Effect a t { a with binding := some binding }
  | cancelRequested (binding : OrderBinding) (kind : t.event.kind = .cancelRequested) (prior : a.state.live)
      (next : t.event.nextState = a.state) (bound : a.binding = some binding)
      (named : t.event.bindingID = some binding.id) : Effect a t a
  | ended (kind : t.event.kind = .orderCancelled ∧ t.event.nextState = .cancelled ∨
        t.event.kind = .orderExpired ∧ t.event.nextState = .expired ∨
        t.event.kind = .orderRejected ∧ t.event.nextState = .rejected)
      (named : a.state.live ∧ (∃ binding, a.binding = some binding ∧ t.event.bindingID = some binding.id) ∨
        a.state = .routed ∧ t.event.bindingID = none) : Effect a t a
  | acknowledged (order : Order) (fill : Fill) (n : EconomicNormalization) (source : EconomicSourceEvent)
      (transaction : Transaction) (binding : OrderBinding) (kind : t.event.kind = .fillAcknowledged)
      (prior : a.state = .routed) (next : t.event.nextState = .partiallyFilled ∨ t.event.nextState = .filled)
      (carried : FillCarried a t order fill n source transaction) (unbound : a.binding = none)
      (new : t.binding = some binding) (named : t.event.bindingID = some binding.id)
      (ofOrder : binding.orderID = order.id) :
      Effect a t { a with binding := some binding, fills := a.fills ++ [fill] }
  | recorded (order : Order) (fill : Fill) (n : EconomicNormalization) (source : EconomicSourceEvent)
      (transaction : Transaction) (binding : OrderBinding) (kind : t.event.kind = .fillRecorded)
      (prior : a.state.live) (next : t.event.nextState = .partiallyFilled ∨ t.event.nextState = .filled)
      (carried : FillCarried a t order fill n source transaction) (bound : a.binding = some binding)
      (named : t.event.bindingID = some binding.id) : Effect a t { a with fills := a.fills ++ [fill] }
  | failed (kind : t.event.kind.isFailure = true) (started : a.state ≠ .none)
      (pending : a.state ≠ .failedReconciliation) (next : t.event.nextState = .failedReconciliation) : Effect a t a

section
variable {a : Aggregate} {t : Transition}

theorem applyFill_carried (ok : a.applyFill t = .ok next) :
    ∃ order fill n source transaction binding, FillCarried a t order fill n source transaction ∧
      a.bindFill order t = .ok binding ∧ next = { a with binding := binding, fills := a.fills ++ [fill] } := by
  simp only [applyFill, refusing, returns_iff, Bool.or_eq_false_iff, Bool.not_eq_false', bne_eq_false_iff_eq,
    Option.any_eq_true] at ok
  obtain ⟨⟨_, order, placed, fill, isFill, owned⟩, _, placed', _, isFill', n, isNormalization, valid, normalized, source,
    isSource, transaction, isTransaction, linked, ⟨⟨within, quantity, isQuantity, same⟩, full⟩, binding, bound, rfl⟩ := ok
  rw [placed] at placed'
  rw [isFill] at isFill'
  cases placed'
  cases isFill'
  refine ⟨order, fill, n, source, transaction, binding, ⟨placed, isFill, isNormalization, owned, valid, normalized,
    isSource, isTransaction, linked, ?_, ⟨quantity, isQuantity, ?_⟩, ?_⟩, bound, rfl⟩
  · simpa using within
  · simpa using same
  · rw [Bool.eq_iff_iff] at full
    simpa using full

theorem applyAllocation_ok (ok : a.applyAllocation t = .ok next) :
    ∃ quantity, validExactDecimal quantity false = true ∧ quantity.sign = a.intent.desiredQuantityDelta.sign ∧
      |quantity.toRat| ≤ |a.intent.desiredQuantityDelta.toRat| ∧
      next = { a with allocatedQuantity := some quantity } := by
  simp only [applyAllocation, returns_iff, Bool.not_eq_false', Option.any_eq_true, Bool.and_eq_true, beq_iff_eq] at ok
  obtain ⟨_, ⟨quantity, isQuantity, ⟨exact, side⟩, bounded⟩, rfl⟩ := ok
  refine ⟨quantity, exact, side, by simpa using bounded, ?_⟩
  rw [isQuantity]

theorem applyRiskDecision_ok (ok : a.applyRiskDecision t = .ok next) : next = a := by
  simp only [applyRiskDecision, returns_iff] at ok
  obtain ⟨_, _, _, _, rfl⟩ := ok
  rfl

theorem applyRevision_ok (ok : a.applyRevision t = .ok next) : next = a := by
  simp only [applyRevision, returns_iff] at ok
  obtain ⟨_, _, rfl⟩ := ok
  rfl

theorem applyVenueFailure_ok (ok : a.applyVenueFailure t = .ok next) : next = a := by
  simp only [applyVenueFailure, returns_iff] at ok
  obtain ⟨_, _, rfl⟩ := ok
  rfl

theorem applyCancelRequest_ok (ok : a.applyCancelRequest t = .ok next) :
    next = a ∧ ∃ binding, a.binding = some binding ∧ t.event.bindingID = some binding.id := by
  simp only [applyCancelRequest, returns_iff, Bool.or_eq_false_iff, Bool.not_eq_false', Option.any_eq_true,
    beq_iff_eq] at ok
  obtain ⟨⟨_, bound⟩, rfl⟩ := ok
  exact ⟨rfl, bound⟩

theorem applyRoute_ok (ok : a.applyRoute t = .ok next) :
    ∃ order, a.order = none ∧ a.routes t.event order = true ∧ order.validate = .ok () ∧
      next = { a with order := some order } := by
  simp only [applyRoute, refusing, returns_iff, Bool.or_eq_false_iff, Bool.not_eq_false', Option.any_eq_true,
    Option.isSome_eq_false_iff, Option.isNone_iff_eq_none] at ok
  obtain ⟨⟨⟨⟨⟨unrouted, _⟩, _⟩, _⟩, order, isOrder, matching⟩, _, isOrder', valid, rfl⟩ := ok
  rw [isOrder] at isOrder'
  cases isOrder'
  exact ⟨order, unrouted, matching, valid, rfl⟩

theorem applyRoute_of (unrouted : a.order = none) (carried : t.order = some order)
    (alone : t.binding = none ∧ t.fill = none ∧ t.normalization = none) (matching : a.routes t.event order = true)
    (valid : order.validate = .ok ()) : a.applyRoute t = .ok { a with order := some order } := by
  simp [applyRoute, refusing, unrouted, carried, alone, matching, valid, deref, wrapping, pure,
    Except.pure]

theorem applyWorking_ok (ok : a.applyWorking t = .ok next) :
    ∃ order binding, a.order = some order ∧ a.binding = none ∧ t.event.bindingID = some binding.id ∧
      binding.orderID = order.id ∧ binding.accountID = a.intent.accountID ∧ binding.venue = order.venue ∧
      next = { a with binding := some binding } := by
  simp only [applyWorking, refusing, returns_iff, Bool.or_eq_false_iff, Bool.not_eq_false', Option.any_eq_true,
    Bool.and_eq_true, beq_iff_eq, Option.isSome_eq_false_iff, Option.isNone_iff_eq_none] at ok
  obtain ⟨⟨⟨⟨⟨unbound, _⟩, _⟩, _⟩, order, placed, binding, isBinding, ⟨⟨named, ofOrder⟩, ofAccount⟩, ofVenue⟩, _,
    isBinding', _, rfl⟩ := ok
  rw [isBinding] at isBinding'
  cases isBinding'
  exact ⟨order, binding, placed, unbound, named, ofOrder, ofAccount, ofVenue, rfl⟩

theorem applyWorking_of {binding : OrderBinding} (placed : a.order = some order) (unbound : a.binding = none)
    (carried : t.binding = some binding) (alone : t.order = none ∧ t.fill = none ∧ t.normalization = none)
    (named : t.event.bindingID = some binding.id) (ofOrder : binding.orderID = order.id)
    (ofAccount : binding.accountID = a.intent.accountID) (ofVenue : binding.venue = order.venue)
    (valid : binding.validate = .ok ()) : a.applyWorking t = .ok { a with binding := some binding } := by
  simp [applyWorking, refusing, placed, unbound, carried, alone, named, ofOrder, ofAccount, ofVenue,
    valid, deref, wrapping, pure, Except.pure]

theorem applyFill_of {fill : Fill} {n : EconomicNormalization} {source : EconomicSourceEvent}
    {transaction : Transaction} {binding : Option OrderBinding}
    (carried : FillCarried a t order fill n source transaction) (noOrder : t.order = none)
    (bound : a.bindFill order t = .ok binding) :
    a.applyFill t = .ok { a with binding := binding, fills := a.fills ++ [fill] } := by
  obtain ⟨quantity, isQuantity, same⟩ := carried.cumulative
  have within : ((sumFillQuantity a.fills).add fill.quantity).greaterThan order.quantity = false := by
    simpa using carried.within
  have counted : quantity.equal ((sumFillQuantity a.fills).add fill.quantity) = true := by
    simpa using same
  have full : (t.event.nextState == .filled) =
      ((sumFillQuantity a.fills).add fill.quantity).equal order.quantity := by
    rw [Bool.eq_iff_iff]
    simpa using carried.full
  simp [applyFill, refusing, carried.placed, carried.isFill, carried.isNormalization, noOrder,
    carried.owned, carried.valid, carried.normalized, carried.isSource, carried.isTransaction, carried.linked,
    isQuantity, within, counted, full, bound, deref, wrapping, pure, Except.pure]

theorem bindFill_new {binding : Option OrderBinding} (kind : t.event.kind = .fillAcknowledged)
    (ok : a.bindFill order t = .ok binding) :
    ∃ new, binding = some new ∧ a.binding = none ∧ t.binding = some new ∧ t.event.bindingID = some new.id ∧
      new.orderID = order.id := by
  simp only [bindFill, kind, if_true, refusing, returns_iff, Bool.or_eq_false_iff, Bool.not_eq_false',
    Option.any_eq_true, Bool.and_eq_true, beq_iff_eq, Option.isSome_eq_false_iff, Option.isNone_iff_eq_none] at ok
  obtain ⟨⟨⟨_, unbound⟩, new, isNew, named, ofOrder⟩, _, isNew', _, rfl⟩ := ok
  rw [isNew] at isNew'
  cases isNew'
  exact ⟨new, rfl, unbound, isNew, named, ofOrder⟩

theorem bindFill_kept {binding : Option OrderBinding} (kind : t.event.kind ≠ .fillAcknowledged)
    (ok : a.bindFill order t = .ok binding) :
    ∃ kept, binding = a.binding ∧ a.binding = some kept ∧ t.event.bindingID = some kept.id := by
  simp only [bindFill, kind, if_false, returns_iff, Bool.or_eq_false_iff, Bool.not_eq_false', Option.any_eq_true,
    beq_iff_eq] at ok
  obtain ⟨⟨_, kept, isKept, named⟩, rfl⟩ := ok
  exact ⟨kept, rfl, isKept, named⟩

theorem applyTerminal_ok (placed : a.state = .routed ∨ a.state.live) (ok : a.applyTerminal t = .ok next) : next = a ∧
      (a.state.live ∧ (∃ binding, a.binding = some binding ∧ t.event.bindingID = some binding.id) ∨
        a.state = .routed ∧ t.event.bindingID = none) := by
  simp only [applyTerminal, returns_iff] at ok
  obtain ⟨_, bound, unbound, rfl⟩ := ok
  refine ⟨rfl, ?_⟩
  rcases placed with routed | live
  · right
    simpa [routed] using unbound
  · left
    refine ⟨live, ?_⟩
    rcases live with state | state <;> simpa [state, Option.any_eq_true] using bound

theorem step_effect (ok : a.step t = .ok after) :
    Accepted a t ∧ ∃ next, Effect a t next ∧
      after = { next with state := t.event.nextState, events := a.events ++ [t.event] } := by
  obtain ⟨accepted, next, facts, rfl⟩ := (step_ok_iff a t after).mp ok
  have leads := leads_of_legal accepted.legal
  suffices effect : Effect a t next ∧ next.events = a.events from
    ⟨accepted, next, effect.1, by rw [effect.2]⟩
  unfold applyFacts at facts
  generalize kind : t.event.kind = eventKind at leads facts
  generalize prior : a.state = priorState at leads
  generalize following : t.event.nextState = nextState at leads
  cases leads with
  | proposed =>
    cases facts
    exact ⟨.proposed kind prior, rfl⟩
  | allocated =>
    obtain ⟨quantity, exact, side, bounded, rfl⟩ := applyAllocation_ok facts
    exact ⟨.allocated quantity kind prior following exact side bounded, rfl⟩
  | approved =>
    obtain rfl := applyRiskDecision_ok facts
    exact ⟨.decided (Or.inl ⟨kind, following⟩) prior, rfl⟩
  | refused =>
    obtain rfl := applyRiskDecision_ok facts
    exact ⟨.decided (Or.inr ⟨kind, following⟩) prior, rfl⟩
  | routed =>
    obtain ⟨order, unrouted, matching, valid, rfl⟩ := applyRoute_ok facts
    exact ⟨.routed order kind prior following unrouted matching valid, rfl⟩
  | working =>
    obtain ⟨order, binding, placed, unbound, named, ofOrder, ofAccount, ofVenue, rfl⟩ := applyWorking_ok facts
    exact ⟨.working order binding kind prior following placed unbound named ofOrder ofAccount ofVenue, rfl⟩
  | cancelRequested live =>
    obtain ⟨rfl, binding, bound, named⟩ := applyCancelRequest_ok facts
    exact ⟨.cancelRequested binding kind (prior ▸ live) (following.trans prior.symm) bound named, rfl⟩
  | acknowledged filled =>
    obtain ⟨order, fill, n, source, transaction, _, carried, bind, rfl⟩ := applyFill_carried facts
    obtain ⟨binding, rfl, unbound, new, named, ofOrder⟩ := bindFill_new kind bind
    exact ⟨.acknowledged order fill n source transaction binding kind prior (following ▸ filled) carried unbound new
      named ofOrder, rfl⟩
  | recorded live filled =>
    obtain ⟨order, fill, n, source, transaction, _, carried, bind, rfl⟩ := applyFill_carried facts
    obtain ⟨binding, rfl, bound, named⟩ := bindFill_kept (by rw [kind]; decide) bind
    exact ⟨.recorded order fill n source transaction binding kind (prior ▸ live) (following ▸ filled) carried bound
      named, rfl⟩
  | cancelled placed =>
    obtain ⟨rfl, named⟩ := applyTerminal_ok (prior ▸ placed) facts
    exact ⟨.ended (Or.inl ⟨kind, following⟩) named, rfl⟩
  | expired placed =>
    obtain ⟨rfl, named⟩ := applyTerminal_ok (prior ▸ placed) facts
    exact ⟨.ended (Or.inr (Or.inl ⟨kind, following⟩)) named, rfl⟩
  | rejected placed =>
    obtain ⟨rfl, named⟩ := applyTerminal_ok (prior ▸ placed) facts
    exact ⟨.ended (Or.inr (Or.inr ⟨kind, following⟩)) named, rfl⟩
  | failed failure started pending =>
    have unchanged : next = a := by
      cases eventKind <;> first
        | exact applyRevision_ok facts
        | exact applyVenueFailure_ok facts
        | exact absurd failure Bool.false_ne_true
    subst unchanged
    exact ⟨.failed (kind ▸ failure) (prior ▸ started) (prior ▸ pending) following, rfl⟩

end

theorem advance_ok {c after : Cursor} (ok : c.advance t = .ok after) :
    t.event.id ∉ c.seen ∧ c.aggregate.step t = .ok after.aggregate ∧ after.seen = t.event.id :: c.seen := by
  simp only [Cursor.advance, returns_iff, applyTransition, List.contains_eq_mem, decide_eq_false_iff_not] at ok
  obtain ⟨fresh, _, next, stepped, rfl⟩ := ok
  exact ⟨fresh, stepped, rfl⟩

def Runs (start : Cursor) (ts : List Transition) (final : Cursor) : Prop := ts.foldlM Cursor.advance start = .ok final

theorem Runs.snoc {start after : Cursor} (runs : Runs start (ts ++ [t]) after) :
    ∃ before, Runs start ts before ∧ before.advance t = .ok after := by
  unfold Runs at runs
  rw [List.foldlM_append] at runs
  obtain ⟨before, first, last⟩ := bind_ok_iff.mp runs
  simp only [List.foldlM_cons, List.foldlM_nil, bind_pure] at last
  exact ⟨before, first, last⟩

theorem Runs.seen {start final : Cursor} (runs : Runs start ts final) :
    final.seen = (ts.map fun t => t.event.id).reverse ++ start.seen := by
  induction ts generalizing start with
  | nil =>
    cases runs
    rfl
  | cons t rest ih =>
    unfold Runs at runs
    rw [List.foldlM_cons] at runs
    obtain ⟨middle, first, others⟩ := bind_ok_iff.mp runs
    rw [ih others, (advance_ok first).2.2]
    simp

def Cursor.start (intent : Intent) (initial : Transition) : Cursor :=
  ⟨.opened intent initial.event, [initial.event.id], initial.event.ingestSequence, 1⟩

theorem replay_ok_iff (accountID : Uuid) (intent : Intent) (ts : List Transition) (a : Aggregate) :
    replay accountID intent ts = .ok a ↔ (accountID ≠ Uuid.nil ∧ intent.accountID = accountID) ∧
      intent.validate = .ok () ∧ ∃ initial rest final, ts = initial :: rest ∧ opens intent initial = true ∧
        initial.event.validate = .ok () ∧ Runs (.start intent initial) rest final ∧ final.aggregate = a := by
  cases ts with
  | nil => simp [replay, check_bind_ok_iff]
  | cons initial rest =>
    simp only [replay, returns_iff, Bool.or_eq_false_iff, beq_eq_false_iff_ne, bne_eq_false_iff_eq, Bool.not_eq_false']
    constructor
    · rintro ⟨account, valid, opening, eventValid, final, runs, same⟩
      exact ⟨account, valid, initial, rest, final, rfl, opening, eventValid, runs, same⟩
    · rintro ⟨account, valid, _, _, final, same, opening, eventValid, runs, result⟩
      cases same
      exact ⟨account, valid, opening, eventValid, final, runs, result⟩

theorem replay_snoc (ok : replay accountID intent (ts ++ [t]) = .ok after) (some : ts ≠ []) :
    ∃ before, replay accountID intent ts = .ok before ∧ before.step t = .ok after ∧
      t.event.id ∉ ts.map fun earlier => earlier.event.id := by
  obtain ⟨account, valid, initial, rest, final, split, opening, eventValid, runs, rfl⟩ :=
    (replay_ok_iff _ _ _ _).mp ok
  cases ts with
  | nil => exact absurd rfl some
  | cons first others =>
    rw [List.cons_append, List.cons.injEq] at split
    obtain ⟨rfl, rfl⟩ := split
    obtain ⟨before, earlier, last⟩ := runs.snoc
    obtain ⟨fresh, stepped, _⟩ := advance_ok last
    refine ⟨before.aggregate, (replay_ok_iff _ _ _ _).mpr
      ⟨account, valid, first, others, before, rfl, opening, eventValid, earlier, rfl⟩, stepped, ?_⟩
    rw [earlier.seen] at fresh
    simpa [Cursor.start, or_comm] using fresh

theorem Runs.unsequenced {start final : Cursor} (runs : Runs start ts final)
    (unset : ∀ t ∈ ts, t.event.ingestSequence = 0) (startUnset : start.lastSequence = 0) : final.lastSequence = 0 := by
  induction ts generalizing start with
  | nil =>
    cases runs
    exact startUnset
  | cons t rest ih =>
    unfold Runs at runs
    rw [List.foldlM_cons] at runs
    obtain ⟨middle, first, others⟩ := bind_ok_iff.mp runs
    obtain ⟨isUnset, restUnset⟩ := List.forall_mem_cons.mp unset
    refine ih others restUnset ?_
    simp only [Cursor.advance, returns_iff] at first
    obtain ⟨_, _, _, _, rfl⟩ := first
    simp [isUnset, startUnset]

theorem replay_extend {before : Aggregate} (ok : replay accountID intent ts = .ok before)
    (unset : ∀ earlier ∈ ts ++ [t], earlier.event.ingestSequence = 0)
    (fresh : t.event.id ∉ ts.map fun earlier => earlier.event.id) (stepped : before.step t = .ok after) :
    replay accountID intent (ts ++ [t]) = .ok after := by
  obtain ⟨account, valid, initial, rest, final, rfl, opening, eventValid, runs, rfl⟩ := (replay_ok_iff _ _ _ _).mp ok
  rw [List.cons_append, List.forall_mem_cons, List.forall_mem_append, List.forall_mem_singleton] at unset
  obtain ⟨initialUnset, restUnset, lastUnset⟩ := unset
  have unsequenced : final.lastSequence = 0 := runs.unsequenced restUnset initialUnset
  have unseen : t.event.id ∉ final.seen := by
    rw [runs.seen]
    simpa [Cursor.start, or_comm] using fresh
  have advanced : final.advance t = .ok ⟨after, t.event.id :: final.seen, 0, final.index + 1⟩ := by
    simp [Cursor.advance, unseen, lastUnset, unsequenced, applyTransition, stepped, wrapping, pure, Except.pure]
  refine (replay_ok_iff _ _ _ _).mpr ⟨account, valid, initial, rest ++ [t],
    ⟨after, t.event.id :: final.seen, 0, final.index + 1⟩, rfl, opening, eventValid, ?_, rfl⟩
  unfold Runs at runs ⊢
  rw [List.foldlM_append, runs]
  simp [advanced]

/-- A property of histories that the proposed event has and every step keeps. -/
theorem replay_induction (holds : List Transition → Aggregate → Prop)
    (start : ∀ initial, intent.validate = .ok () → opens intent initial = true → initial.event.validate = .ok () →
      holds [initial] (.opened intent initial.event))
    (step : ∀ ts before t after, replay accountID intent ts = .ok before → holds ts before → before.step t = .ok after →
      (t.event.id ∉ ts.map fun earlier => earlier.event.id) → holds (ts ++ [t]) after)
    {a : Aggregate} (ok : replay accountID intent ts = .ok a) : holds ts a := by
  induction ts using List.reverseRecOn generalizing a with
  | nil =>
    obtain ⟨_, _, _, _, _, impossible, _⟩ := (replay_ok_iff _ _ _ _).mp ok
    cases impossible
  | append_singleton earlier t ih =>
    by_cases first : earlier = []
    · subst first
      obtain ⟨_, valid, initial, rest, final, split, opening, eventValid, runs, rfl⟩ :=
        (replay_ok_iff _ _ _ _).mp ok
      cases split
      cases runs
      exact start t valid opening eventValid
    · obtain ⟨before, replayed, stepped, fresh⟩ := replay_snoc ok first
      exact step earlier before t a replayed (ih replayed) stepped fresh

theorem replay_take {a : Aggregate} (ok : replay accountID intent ts = .ok a) {count : Nat} (some : 0 < count) :
    ∃ before, replay accountID intent (ts.take count) = .ok before := by
  induction ts using List.reverseRecOn generalizing a with
  | nil => exact ⟨a, by simpa using ok⟩
  | append_singleton earlier t ih =>
    by_cases whole : earlier.length < count
    · refine ⟨a, ?_⟩
      rwa [List.take_of_length_le (by simp; omega)]
    · have first : earlier ≠ [] := by
        rintro rfl
        simp at whole
        omega
      obtain ⟨before, replayed, _⟩ := replay_snoc ok first
      rw [List.take_append_of_le_length (by omega)]
      exact ih replayed

end Augr.Lifecycle
