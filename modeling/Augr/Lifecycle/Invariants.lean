import Augr.Lifecycle.Steps

/-! Quantities and states of every accepted history. -/

set_option autoImplicit false

namespace Augr.Lifecycle

open Foundation Ledger Aggregate

def Aggregate.filledQuantity (a : Aggregate) : ℚ := (sumFillQuantity a.fills).toRat

@[simp] theorem sumFillQuantity_nil : (sumFillQuantity []).toRat = 0 := Decimal.toRat_zero

@[simp] theorem sumFillQuantity_snoc (fills : List Fill) (fill : Fill) :
    (sumFillQuantity (fills ++ [fill])).toRat = (sumFillQuantity fills).toRat + fill.quantity.toRat := by
  simp [sumFillQuantity]

def Aggregate.fillEvents (a : Aggregate) : List Event := a.events.filter Event.isFill

def Aggregate.Progress (a : Aggregate) : State → Prop
  | .proposed => a.allocatedQuantity = none ∧ a.order = none ∧ a.binding = none ∧ a.fills = []
  | .allocated | .riskApproved | .riskRejected => a.order = none ∧ a.binding = none ∧ a.fills = []
  | .routed => a.binding = none ∧ a.fills = [] ∧ ∃ order, a.order = some order
  | .working => a.fills = [] ∧ ∃ order, a.order = some order
  | .partiallyFilled => ∃ order, a.order = some order ∧ 0 < a.filledQuantity ∧ a.filledQuantity < order.quantity.toRat
  | .filled => ∃ order, a.order = some order ∧ a.filledQuantity = order.quantity.toRat
  | .cancelled | .expired | .rejected => ∃ order, a.order = some order ∧ a.filledQuantity < order.quantity.toRat
  | .failedReconciliation => True
  | .none | .unrecognized _ => False

structure Invariant (a : Aggregate) : Prop where
  allocation : ∀ quantity, a.allocatedQuantity = some quantity →
    quantity.sign = a.intent.desiredQuantityDelta.sign ∧ |quantity.toRat| ≤ |a.intent.desiredQuantityDelta.toRat|
  sized : ∀ order, a.order = some order → 0 < order.quantity.toRat ∧
    ∃ quantity, a.allocatedQuantity = some quantity ∧ order.quantity.toRat = |quantity.toRat|
  routedOnce : (a.events.countP fun event => event.kind == .orderRouted) = if a.order.isSome then 1 else 0
  within : ∀ order, a.order = some order → a.filledQuantity ≤ order.quantity.toRat
  unplaced : a.order = none → a.fills = []
  counted : a.fills.length = a.fillEvents.length
  cumulative : ∀ event, a.fillEvents.getLast? = some event →
    ∃ quantity, event.cumulativeFillQuantity = some quantity ∧ quantity.toRat = a.filledQuantity
  progress : a.Progress a.state

theorem Invariant.opened {intent : Intent} {initial : Transition} (opening : opens intent initial = true) :
    Invariant (.opened intent initial.event) := by
  simp only [opens, Bool.and_eq_true, beq_iff_eq] at opening
  have kind : initial.event.kind = .intentProposed := by tauto
  have plain : initial.event.isFill = false := by simp [Event.isFill, kind]
  constructor
  case progress => exact ⟨rfl, rfl, rfl, rfl⟩
  all_goals simp [Aggregate.opened, fillEvents, plain, kind]

theorem Fill.quantity_of_validate {fill : Fill} (valid : fill.validate = .ok ()) : 0 < fill.quantity.toRat := by
  simp only [Fill.validate, failIf_bind_ok_iff, Bool.or_eq_false_iff, Bool.not_eq_false'] at valid
  exact (Decimal.isPositive_iff _).mp valid.2.1.1.1.1.2

section
variable {a : Aggregate} {t : Transition}

abbrev stamped (next : Aggregate) (t : Transition) (a : Aggregate) : Aggregate :=
  { next with state := t.event.nextState, events := a.events ++ [t.event] }

theorem fillEvents_stamped (next : Aggregate) (plain : t.event.isFill = false) :
    (stamped next t a).fillEvents = a.fillEvents := by
  simp [fillEvents, plain]

theorem Invariant.same_facts (invariant : Invariant a) {binding : Option OrderBinding}
    (plain : t.event.isFill = false) (notRouted : t.event.kind ≠ .orderRouted)
    (progress : { a with binding := binding }.Progress t.event.nextState) :
    Invariant (stamped { a with binding := binding } t a) := by
  refine ⟨invariant.allocation, invariant.sized, ?_, invariant.within, invariant.unplaced, ?_, ?_, progress⟩
  · simpa [List.countP_append, notRouted] using invariant.routedOnce
  · rw [fillEvents_stamped _ plain]
    exact invariant.counted
  · rw [fillEvents_stamped _ plain]
    exact invariant.cumulative

theorem Invariant.fill (invariant : Invariant a) {binding : Option OrderBinding} {order : Order} {fill : Fill}
    {n : EconomicNormalization} {source : EconomicSourceEvent} {transaction : Transaction}
    (carried : FillCarried a t order fill n source transaction) (isFill : t.event.isFill = true)
    (next : t.event.nextState = .partiallyFilled ∨ t.event.nextState = .filled)
    (nonnegative : 0 ≤ a.filledQuantity) :
    Invariant (stamped { a with binding := binding, fills := a.fills ++ [fill] } t a) := by
  have added : (stamped { a with binding := binding, fills := a.fills ++ [fill] } t a).filledQuantity =
      a.filledQuantity + fill.quantity.toRat := sumFillQuantity_snoc _ _
  have fillEvents : (stamped { a with binding := binding, fills := a.fills ++ [fill] } t a).fillEvents =
      a.fillEvents ++ [t.event] := by
    simp [fillEvents, isFill]
  have notRouted : t.event.kind ≠ .orderRouted := by
    intro kind
    simp [Event.isFill, kind] at isFill
  have positive : 0 < fill.quantity.toRat := fill.quantity_of_validate carried.valid
  have within : a.filledQuantity + fill.quantity.toRat ≤ order.quantity.toRat := carried.within
  refine ⟨invariant.allocation, invariant.sized, ?_, ?_, ?_, ?_, ?_, ?_⟩
  · simpa [List.countP_append, notRouted] using invariant.routedOnce
  · intro other placed
    rw [carried.placed] at placed
    cases placed
    rw [added]
    exact within
  · intro unplaced
    rw [carried.placed] at unplaced
    cases unplaced
  · rw [fillEvents]
    simpa using invariant.counted
  · intro event last
    rw [fillEvents, List.getLast?_concat, Option.some.injEq] at last
    subst last
    rw [added]
    exact carried.cumulative
  · have full := carried.full
    change Aggregate.Progress _ t.event.nextState
    rcases next with isPartial | isFull
    · -- the order would be filled if nothing of it were left
      rw [isPartial] at full ⊢
      refine ⟨order, carried.placed, ?_, ?_⟩
      · rw [added]
        exact add_pos_of_nonneg_of_pos nonnegative positive
      · rw [added]
        exact lt_of_le_of_ne within fun filled => State.noConfusion (full.mpr filled)
    · rw [isFull] at full ⊢
      exact ⟨order, carried.placed, added.trans (full.mp rfl)⟩

theorem Invariant.nonnegative (invariant : Invariant a) (placed : a.state = .routed ∨ a.state.live) :
    0 ≤ a.filledQuantity := by
  have progress := invariant.progress
  rcases placed with state | state | state <;> rw [state] at progress
  · simp [filledQuantity, progress.2.1]
  · simp [filledQuantity, progress.1]
  · obtain ⟨_, _, positive, _⟩ := progress
    exact positive.le

theorem Invariant.unfinished (invariant : Invariant a) (placed : a.state = .routed ∨ a.state.live) :
    ∃ order, a.order = some order ∧ a.filledQuantity < order.quantity.toRat := by
  have progress := invariant.progress
  rcases placed with state | state | state <;> rw [state] at progress
  · obtain ⟨_, empty, order, isOrder⟩ := progress
    refine ⟨order, isOrder, ?_⟩
    simpa [filledQuantity, empty] using (invariant.sized order isOrder).1
  · obtain ⟨empty, order, isOrder⟩ := progress
    refine ⟨order, isOrder, ?_⟩
    simpa [filledQuantity, empty] using (invariant.sized order isOrder).1
  · obtain ⟨order, isOrder, _, left⟩ := progress
    exact ⟨order, isOrder, left⟩

theorem Invariant.allocate (invariant : Invariant a) {quantity : Decimal} (kind : t.event.kind = .intentAllocated)
    (prior : a.state = .proposed) (next : t.event.nextState = .allocated)
    (side : quantity.sign = a.intent.desiredQuantityDelta.sign)
    (bounded : |quantity.toRat| ≤ |a.intent.desiredQuantityDelta.toRat|) :
    Invariant (stamped { a with allocatedQuantity := some quantity } t a) := by
  have progress := invariant.progress
  rw [prior] at progress
  obtain ⟨_, unplaced, unbound, empty⟩ := progress
  have plain : t.event.isFill = false := by simp [Event.isFill, kind]
  refine ⟨?_, ?_, ?_, invariant.within, invariant.unplaced, ?_, ?_, ?_⟩
  · intro other isOther
    cases isOther
    exact ⟨side, bounded⟩
  · intro order isOrder
    rw [unplaced] at isOrder
    cases isOrder
  · simpa [List.countP_append, kind] using invariant.routedOnce
  · rw [fillEvents_stamped _ plain]
    exact invariant.counted
  · rw [fillEvents_stamped _ plain]
    exact invariant.cumulative
  · change Aggregate.Progress _ t.event.nextState
    rw [next]
    exact ⟨unplaced, unbound, empty⟩

theorem quantity_of_routes {order : Order} (matching : a.routes t.event order = true) :
    ∃ quantity, a.allocatedQuantity = some quantity ∧ order.quantity.toRat = |quantity.toRat| := by
  simp only [routes, Bool.and_eq_true, Option.any_eq_true] at matching
  obtain ⟨⟨⟨⟨_, quantity, allocated, same, _⟩, _⟩, _⟩, _⟩ := matching
  exact ⟨quantity, allocated, by simpa using same⟩

theorem Order.quantity_of_validate {order : Order} (valid : order.validate = .ok ()) : 0 < order.quantity.toRat := by
  simp only [Order.validate, failIf_bind_ok_iff, Bool.or_eq_false_iff, Bool.not_eq_false'] at valid
  exact (Decimal.isPositive_iff _).mp valid.2.2.2.1.1.2

theorem Invariant.route (invariant : Invariant a) {order : Order} (kind : t.event.kind = .orderRouted)
    (prior : a.state = .riskApproved) (next : t.event.nextState = .routed) (unrouted : a.order = none)
    (matching : a.routes t.event order = true) (valid : order.validate = .ok ()) :
    Invariant (stamped { a with order := some order } t a) := by
  have progress := invariant.progress
  rw [prior] at progress
  obtain ⟨_, unbound, empty⟩ := progress
  have positive := order.quantity_of_validate valid
  have plain : t.event.isFill = false := by simp [Event.isFill, kind]
  refine ⟨invariant.allocation, ?_, ?_, ?_, nofun, ?_, ?_, ?_⟩
  · intro other isOther
    cases isOther
    exact ⟨positive, quantity_of_routes matching⟩
  · have none := invariant.routedOnce
    rw [unrouted] at none
    simpa [List.countP_append, kind] using none
  · intro other isOther
    cases isOther
    simpa [filledQuantity, empty] using positive.le
  · rw [fillEvents_stamped _ plain]
    exact invariant.counted
  · rw [fillEvents_stamped _ plain]
    exact invariant.cumulative
  · change Aggregate.Progress _ t.event.nextState
    rw [next]
    exact ⟨unbound, empty, order, rfl⟩

theorem Invariant.step (invariant : Invariant a) {after : Aggregate} (ok : a.step t = .ok after) : Invariant after := by
  obtain ⟨accepted, next, effect, rfl⟩ := step_effect ok
  have progress := invariant.progress
  cases effect with
  | proposed kind prior =>
    rw [prior] at progress
    exact progress.elim
  | allocated quantity kind prior next exact side bounded => exact invariant.allocate kind prior next side bounded
  | decided kind prior =>
    rw [prior] at progress
    rcases kind with ⟨kind, next⟩ | ⟨kind, next⟩
    all_goals
      refine invariant.same_facts (by simp [Event.isFill, kind]) (by simp [kind]) ?_
      rw [next]
      exact progress
  | routed order kind prior next unrouted matching valid =>
    exact invariant.route kind prior next unrouted matching valid
  | working order binding kind prior next placed unbound named ofOrder ofAccount ofVenue =>
    rw [prior] at progress
    refine invariant.same_facts (by simp [Event.isFill, kind]) (by simp [kind]) ?_
    rw [next]
    exact ⟨progress.2.1, order, placed⟩
  | cancelRequested binding kind prior next bound named =>
    refine invariant.same_facts (by simp [Event.isFill, kind]) (by simp [kind]) ?_
    rw [next]
    exact progress
  | ended kind named =>
    have placed : a.state = .routed ∨ a.state.live := by
      rcases named with ⟨live, _⟩ | ⟨routed, _⟩
      · exact Or.inr live
      · exact Or.inl routed
    have left := invariant.unfinished placed
    rcases kind with ⟨kind, next⟩ | ⟨kind, next⟩ | ⟨kind, next⟩
    all_goals
      refine invariant.same_facts (by simp [Event.isFill, kind]) (by simp [kind]) ?_
      rw [next]
      exact left
  | acknowledged order fill n source transaction binding kind prior next carried unbound new named ofOrder =>
    exact invariant.fill carried (by simp [Event.isFill, kind]) next (invariant.nonnegative (Or.inl prior))
  | recorded order fill n source transaction binding kind prior next carried bound named =>
    exact invariant.fill carried (by simp [Event.isFill, kind]) next (invariant.nonnegative (Or.inr prior))
  | failed kind started pending next =>
    have plain : t.event.isFill = false ∧ t.event.kind ≠ .orderRouted := by
      cases eventKind : t.event.kind <;> simp_all [Event.isFill, EventKind.isFailure]
    refine invariant.same_facts plain.1 plain.2 ?_
    rw [next]
    trivial

end

theorem replay_invariant {accountID : Uuid} {intent : Intent} {ts : List Transition} {a : Aggregate}
    (ok : replay accountID intent ts = .ok a) : Invariant a := by
  refine replay_induction (fun _ a => Invariant a) ?_ ?_ ok
  · intro initial _ opening _
    exact .opened opening
  · intro ts before t after _ invariant stepped _
    exact invariant.step stepped

def State.unfilled : State → Bool
  | .proposed | .allocated | .riskApproved | .riskRejected | .routed | .working => true
  | _ => false

def State.closedByVenue : State → Bool
  | .cancelled | .expired | .rejected => true
  | _ => false

/-- Allocation, order, fills and state of an aggregate agree. -/
structure Quantities (a : Aggregate) : Prop where
  allocation : ∀ quantity, a.allocatedQuantity = some quantity →
    quantity.sign = a.intent.desiredQuantityDelta.sign ∧ |quantity.toRat| ≤ |a.intent.desiredQuantityDelta.toRat|
  routed : a.order.isSome = true ↔ ∃ event ∈ a.events, event.kind = .orderRouted
  routedOnce : (a.events.countP fun event => event.kind == .orderRouted) ≤ 1
  ordered : ∀ order, a.order = some order →
    ∃ quantity, a.allocatedQuantity = some quantity ∧ order.quantity.toRat = |quantity.toRat|
  within : ∀ order, a.order = some order → a.filledQuantity ≤ order.quantity.toRat
  unplaced : a.order = none → a.fills = []
  counted : a.fills.length = a.fillEvents.length
  cumulative : ∀ event, a.fillEvents.getLast? = some event →
    ∃ quantity, event.cumulativeFillQuantity = some quantity ∧ quantity.toRat = a.filledQuantity
  unfilled : a.state.unfilled = true → a.fills = []
  partiallyFilled : a.state = .partiallyFilled →
    ∃ order, a.order = some order ∧ 0 < a.filledQuantity ∧ a.filledQuantity < order.quantity.toRat
  filled : a.state = .filled → ∃ order, a.order = some order ∧ a.filledQuantity = order.quantity.toRat
  closedByVenue : a.state.closedByVenue = true →
    ∃ order, a.order = some order ∧ a.filledQuantity < order.quantity.toRat

theorem Invariant.quantities {a : Aggregate} (invariant : Invariant a) : Quantities a := by
  have progress := invariant.progress
  refine ⟨invariant.allocation, ?_, ?_, fun order isOrder => (invariant.sized order isOrder).2, invariant.within,
    invariant.unplaced, invariant.counted, invariant.cumulative, ?_, ?_, ?_, ?_⟩
  · have counted := invariant.routedOnce
    have positive := List.countP_pos_iff (p := fun event : Event => event.kind == .orderRouted) (l := a.events)
    simp only [beq_iff_eq] at positive
    rw [← positive, counted]
    cases a.order <;> simp
  · rw [invariant.routedOnce]
    split <;> simp
  · intro early
    cases state : a.state <;> rw [state] at early progress <;> first
      | exact absurd early Bool.false_ne_true
      | exact progress.2.2.2
      | exact progress.2.2
      | exact progress.2.1
      | exact progress.2
      | exact progress.1
  · intro state
    rwa [state] at progress
  · intro state
    rwa [state] at progress
  · intro closed
    cases state : a.state <;> rw [state] at closed progress <;> first
      | exact absurd closed Bool.false_ne_true
      | exact progress

/-- After every start of an accepted history, allocation, order, fills and state agree. -/
theorem replay_quantities {accountID : Uuid} {intent : Intent} {ts : List Transition} {a : Aggregate}
    (ok : replay accountID intent ts = .ok a) (count : Nat) (some : 0 < count) :
    ∃ before, replay accountID intent (ts.take count) = .ok before ∧ Quantities before := by
  obtain ⟨before, replayed⟩ := replay_take ok some
  exact ⟨before, replayed, (replay_invariant replayed).quantities⟩

def sampleIntent : Intent :=
  { id := ⟨[50, 35, 21, 136, 164, 212, 88, 19, 38, 5, 70, 146, 165, 212, 217, 23], rfl⟩
    accountID := Uuid.ofByte 1
    environment := .paperScored
    instrumentID := Uuid.ofByte 2
    idempotencyKey := "buy-two"
    desiredQuantityDelta := Decimal.newFromInt 2
    decisionQuoteSnapshotID := Uuid.ofByte 5
    decisionAt := ⟨2000000, true⟩
    originType := .operator
    originID := "desk"
    strategyVersionID := ""
    metadata := emptyObject
    createdAt := ⟨5000000, true⟩ }

/-- An event with the evidence of an empty object, whose digest is written out. -/
def sampleEvent (id : Uuid) (kind : EventKind) (prior next : State) (sourceEventID : String) : Event :=
  { id := id
    ingestSequence := 0
    intentID := sampleIntent.id
    orderID := none
    bindingID := none
    fillID := none
    kind := kind
    observationClass := .ordinary
    observationDiscriminator := ""
    priorState := prior
    nextState := next
    accountID := Uuid.ofByte 1
    environment := .paperScored
    originType := .operator
    originID := "desk"
    strategyVersionID := ""
    policyKind := .unrecognized ""
    policyVersion := ""
    quantityDelta := some (Decimal.newFromInt 2)
    cumulativeFillQuantity := none
    quoteSnapshotID := none
    source := "alpaca"
    sourceNamespace := "fills"
    sourceEventID := sourceEventID
    sourceRevision := ""
    sourceAt := ⟨4000000, true⟩
    receivedAt := ⟨5000000, true⟩
    actor := "desk"
    reasonCode := "manual"
    reason := ""
    evidence := emptyObject
    evidenceSHA256 := "44136fa355b3678a1146ad16f7e8649e94fb4fc21fe77e8310c060f61caaff8a"
    originalFillID := none
    originalSourceEventID := ""
    createdAt := ⟨5000000, true⟩ }

def sampleOrder : Order :=
  { id := ⟨[70, 189, 190, 239, 12, 25, 206, 135, 124, 240, 42, 241, 216, 59, 7, 56], rfl⟩
    intentID := sampleIntent.id
    accountID := Uuid.ofByte 1
    instrumentID := Uuid.ofByte 2
    idempotencyKey := "order-1"
    clientOrderID := "46bdbeef-0c19-ce87-7cf0-2af1d83b0738"
    side := .buy
    orderType := .market
    timeInForce := .day
    quantity := Decimal.newFromInt 2
    limitPrice := none
    stopPrice := none
    venue := "alpaca"
    venueContractID := Uuid.ofByte 3
    routeQuoteSnapshotID := Uuid.ofByte 6
    routedAt := ⟨3000000, true⟩
    policyKind := .venue
    policyVersion := "v1"
    createdAt := ⟨5000000, true⟩ }

def sampleProposedEvent : Event :=
  { sampleEvent ⟨[196, 88, 46, 97, 172, 8, 84, 181, 148, 147, 68, 226, 227, 142, 62, 16], rfl⟩ .intentProposed
      .none .proposed "s1" with
    quoteSnapshotID := some (Uuid.ofByte 5) }

def sampleProposed : Transition := ⟨sampleProposedEvent, none, none, none, none⟩

def sampleAllocated : Transition :=
  ⟨sampleEvent ⟨[242, 147, 176, 160, 158, 205, 66, 105, 61, 83, 145, 95, 53, 95, 233, 194], rfl⟩ .intentAllocated
    .proposed .allocated "s2", none, none, none, none⟩

def sampleApproved : Transition :=
  ⟨sampleEvent ⟨[205, 143, 85, 24, 203, 214, 54, 90, 99, 190, 242, 99, 49, 39, 21, 67], rfl⟩ .riskApproved
    .allocated .riskApproved "s3", none, none, none, none⟩

def sampleRoutedEvent : Event :=
  { sampleEvent ⟨[112, 213, 71, 182, 50, 184, 48, 83, 255, 140, 241, 46, 113, 220, 131, 94], rfl⟩ .orderRouted
      .riskApproved .routed "s4" with
    orderID := some sampleOrder.id
    policyKind := .venue
    policyVersion := "v1"
    quoteSnapshotID := some (Uuid.ofByte 6) }

def sampleRouted : Transition := ⟨sampleRoutedEvent, some sampleOrder, none, none, none⟩

def sampleAggregate : Aggregate :=
  { intent := sampleIntent
    state := .routed
    allocatedQuantity := some (Decimal.newFromInt 2)
    order := some sampleOrder
    binding := none
    fills := []
    events := [sampleProposedEvent, sampleAllocated.event, sampleApproved.event, sampleRoutedEvent] }

def sampleHistory : List Transition := [sampleProposed, sampleAllocated, sampleApproved, sampleRouted]

theorem sampleHistory_replayed : replay (Uuid.ofByte 1) sampleIntent sampleHistory = .ok sampleAggregate := by
  decide +kernel

def State.isTerminal : State → Bool
  | .riskRejected | .filled | .cancelled | .expired | .rejected => true
  | _ => false

/-- A step only adds facts; after a terminal state it can only record a failure. -/
theorem replay_write_once {accountID : Uuid} {intent : Intent} {ts : List Transition} {a after : Aggregate}
    {t : Transition} (reached : replay accountID intent ts = .ok a)
    (ok : applyTransition (some a) (some t) = .ok after) :
    after.intent = a.intent ∧
    (∀ quantity, a.allocatedQuantity = some quantity → after.allocatedQuantity = some quantity) ∧
    (∀ order, a.order = some order → after.order = some order) ∧
    (∀ binding, a.binding = some binding → after.binding = some binding) ∧
    (∃ added, after.fills = a.fills ++ added) ∧ after.events = a.events ++ [t.event] ∧
    (a.state.isTerminal = true →
      after = { a with state := .failedReconciliation, events := a.events ++ [t.event] }) ∧
    a.state ≠ .failedReconciliation := by
  have progress := (replay_invariant reached).progress
  obtain ⟨_, next, effect, rfl⟩ := step_effect ok
  cases effect with
  | proposed kind prior =>
    rw [prior] at progress
    exact progress.elim
  | allocated quantity kind prior next exact side bounded =>
    rw [prior] at progress
    simp [prior, progress.1, State.isTerminal]
  | decided kind prior => simp [prior, State.isTerminal]
  | routed order kind prior next unrouted matching valid => simp [prior, unrouted, State.isTerminal]
  | working order binding kind prior next placed unbound named ofOrder ofAccount ofVenue =>
    simp [prior, unbound, State.isTerminal]
  | cancelRequested binding kind prior next bound named =>
    rcases prior with state | state <;> simp [state, State.isTerminal]
  | ended kind named =>
    rcases named with ⟨state | state, _⟩ | ⟨state, _⟩ <;> simp [state, State.isTerminal]
  | acknowledged order fill n source transaction binding kind prior next carried unbound new named ofOrder =>
    simp [prior, unbound, State.isTerminal]
  | recorded order fill n source transaction binding kind prior next carried bound named =>
    rcases prior with state | state <;> simp [state, State.isTerminal]
  | failed kind started pending next => simp [pending, next]

theorem replay_write_once_routed : ∃ before, replay (Uuid.ofByte 1) sampleIntent
    [sampleProposed, sampleAllocated, sampleApproved] = .ok before ∧
    applyTransition (some before) (some sampleRouted) = .ok sampleAggregate ∧
    sampleAggregate.events = before.events ++ [sampleRouted.event] := by
  have split : sampleHistory = [sampleProposed, sampleAllocated, sampleApproved] ++ [sampleRouted] := rfl
  obtain ⟨before, replayed, stepped, _⟩ := replay_snoc (split ▸ sampleHistory_replayed) (by simp)
  exact ⟨before, replayed, stepped, (replay_write_once replayed stepped).2.2.2.2.2.1⟩

end Augr.Lifecycle
