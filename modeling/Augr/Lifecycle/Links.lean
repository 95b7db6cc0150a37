import Augr.Lifecycle.Commanded

/-! The fills of a history and the ledger facts that they point to.

Replaying compares a fill with the identifiers of its normalization and with nothing
else of it; the values agree when the fill was made by `recordFill`.
-/

set_option autoImplicit false

namespace Augr.Lifecycle

open Foundation Ledger

variable {after : Aggregate} {n : EconomicNormalization} {t : Transition}

/-- A condition on every transition, in the aggregate that the transitions before it give. -/
def AtEachStep (accountID : Uuid) (intent : Intent) (ts : List Transition)
    (condition : Aggregate → Transition → Prop) : Prop :=
  ∀ earlier t later before, ts = earlier ++ t :: later → replay accountID intent earlier = .ok before →
    condition before t

/-- The transition as its command returned it, before the store numbered it. -/
def Transition.unstored (t : Transition) : Transition := { t with event := { t.event with ingestSequence := 0 } }

/-- The transition, its stored number aside, is one that `recordFill` returns on the aggregate. -/
def FromRecordFill (before : Aggregate) (t : Transition) : Prop :=
  ∃ validated clock input, recordFill validated clock (some before) input = .ok t.unstored

section
variable {accountID : Uuid} {intent : Intent} {ts : List Transition} {a : Aggregate}
  {condition : Aggregate → Transition → Prop}

theorem AtEachStep.init (each : AtEachStep accountID intent (ts ++ [t]) condition) :
    AtEachStep accountID intent ts condition := by
  intro earlier other later before split replayed
  refine each earlier other (later ++ [t]) before ?_ replayed
  simp [split]

theorem AtEachStep.last (each : AtEachStep accountID intent (ts ++ [t]) condition)
    (replayed : replay accountID intent ts = .ok a) : condition a t :=
  each ts t [] a rfl replayed

theorem AtEachStep.snoc (each : AtEachStep accountID intent ts condition)
    (last : ∀ before, replay accountID intent ts = .ok before → condition before t) :
    AtEachStep accountID intent (ts ++ [t]) condition := by
  intro earlier other later before split replayed
  rcases List.eq_nil_or_concat later with rfl | ⟨later, final, rfl⟩
  · obtain ⟨rfl, rfl⟩ := List.append_singleton_inj.mp split
    exact last before replayed
  · rw [List.concat_eq_append, ← List.cons_append, ← List.append_assoc] at split
    obtain ⟨rfl, rfl⟩ := List.append_singleton_inj.mp split
    exact each earlier other later before rfl replayed

theorem replay_induction_of (holds : List Transition → Aggregate → Prop)
    (start : ∀ initial, intent.validate = .ok () → opens intent initial = true → initial.event.validate = .ok () →
      holds [initial] (.opened intent initial.event))
    (step : ∀ ts before t after, replay accountID intent ts = .ok before → holds ts before →
      before.step t = .ok after → condition before t → holds (ts ++ [t]) after)
    (ok : replay accountID intent ts = .ok a) (each : AtEachStep accountID intent ts condition) : holds ts a := by
  refine replay_induction (fun ts a => AtEachStep accountID intent ts condition → holds ts a) ?_ ?_ ok each
  · intro initial valid opening eventValid _
    exact start initial valid opening eventValid
  · intro ts before t after replayed ih stepped _ each
    exact step ts before t after replayed (ih each.init) stepped (each.last replayed)

/-- The fill of a transition with the normalization that it points to. -/
def Transition.link (t : Transition) : Option (Fill × EconomicNormalization) :=
  match t.fill, t.normalization with
  | some fill, some n => some (fill, n)
  | _, _ => none

def links (ts : List Transition) : List (Fill × EconomicNormalization) :=
  (ts.filter fun t => t.event.isFill).filterMap Transition.link

theorem links_snoc (ts : List Transition) (t : Transition) : links (ts ++ [t]) = links ts ++ links [t] := by
  simp [links]

theorem links_plain (plain : t.event.isFill = false) : links [t] = [] := by
  simp [links, plain]

theorem links_fill {fill : Fill} (isEvent : t.event.isFill = true) (isFill : t.fill = some fill)
    (isNormalization : t.normalization = some n) : links [t] = [(fill, n)] := by
  simp [links, isEvent, Transition.link, isFill, isNormalization]

theorem Transition.link_eq_some {link : Fill × EconomicNormalization} :
    t.link = some link ↔ t.fill = some link.1 ∧ t.normalization = some link.2 := by
  unfold Transition.link
  split <;> simp_all [Prod.ext_iff]

theorem mem_links {link : Fill × EconomicNormalization} :
    link ∈ links ts ↔ ∃ t ∈ ts, t.event.isFill = true ∧ t.fill = some link.1 ∧ t.normalization = some link.2 := by
  simp [links, Transition.link_eq_some, and_assoc]

theorem step_links (ok : a.step t = .ok after) : after.fills = a.fills ++ (links [t]).map Prod.fst := by
  obtain ⟨_, next, effect, rfl⟩ := step_effect ok
  cases effect with
  | acknowledged order fill n source transaction binding kind _ _ carried =>
    simp [links_fill (by simp [Event.isFill, kind]) carried.isFill carried.isNormalization]
  | recorded order fill n source transaction binding kind _ _ carried =>
    simp [links_fill (by simp [Event.isFill, kind]) carried.isFill carried.isNormalization]
  | ended kind =>
    rw [links_plain (by rcases kind with ⟨kind, _⟩ | ⟨kind, _⟩ | ⟨kind, _⟩ <;> simp [Event.isFill, kind])]
    simp
  | decided kind =>
    rw [links_plain (by rcases kind with ⟨kind, _⟩ | ⟨kind, _⟩ <;> simp [Event.isFill, kind])]
    simp
  | failed kind =>
    rw [links_plain (by cases isKind : t.event.kind <;> simp_all [Event.isFill, EventKind.isFailure])]
    simp
  | proposed kind | allocated _ kind | routed _ kind | working _ _ kind | cancelRequested _ kind =>
    rw [links_plain (by simp [Event.isFill, kind])]
    simp

theorem replay_links (ok : replay accountID intent ts = .ok a) : a.fills = (links ts).map Prod.fst := by
  refine replay_induction (fun ts a => a.fills = (links ts).map Prod.fst) ?_ ?_ ok
  · intro initial _ opening _
    have kind : initial.event.kind = .intentProposed := by
      simp only [opens, Bool.and_eq_true, beq_iff_eq] at opening
      tauto
    rw [links_plain (by simp [Event.isFill, kind])]
    rfl
  · intro ts before t after _ held stepped _
    rw [step_links stepped, held, links_snoc, List.map_append]

/-- Side, quantity, price and effective time of the fill are those of the normalization. -/
structure Fill.Agrees (fill : Fill) (n : EconomicNormalization) : Prop where
  side : fill.side = .buy ∧ n.eventType = .fillBuy ∨ fill.side = .sell ∧ n.eventType = .fillSell
  quantity : n.quantity = some fill.quantity
  price : n.price = some fill.price
  effective : fill.effectiveAt = n.effectiveAt

theorem Fill.side_of_validate {fill : Fill} (valid : fill.validate = .ok ()) : fill.side = .buy ∨ fill.side = .sell := by
  simp only [Fill.validate, check_bind_ok_iff, failIf_ok_iff, Bool.or_eq_false_iff, Bool.and_eq_false_iff,
    bne_eq_false_iff_eq] at valid
  exact valid.2.1.1.1.1.1

theorem validateFillNormalization_side {order : Order} {fillID : Uuid}
    (ok : validateFillNormalization intent order fillID n = .ok ()) :
    n.eventType = if order.side = .sell then .fillSell else .fillBuy := by
  simp only [validateFillNormalization, returns_iff, Bool.or_eq_false_iff, bne_eq_false_iff_eq] at ok
  obtain ⟨_, _, _, ⟨isType, _⟩, _⟩ := ok
  exact isType

theorem Recorded.agrees {order : Order} {fill : Fill} {source : EconomicSourceEvent} {transaction : Transaction}
    {binding : OrderBinding} (recorded : Recorded a t order fill n source transaction binding) : fill.Agrees n := by
  refine ⟨?_, recorded.quantity, recorded.price, recorded.effective⟩
  have isType := validateFillNormalization_side recorded.carried.normalized
  rw [← recorded.side] at isType
  rcases Fill.side_of_validate recorded.carried.valid with buy | sell
  · exact Or.inl ⟨buy, by simpa [buy] using isType⟩
  · exact Or.inr ⟨sell, by simpa [sell] using isType⟩

theorem FromRecordFill.recorded {before : Aggregate} (made : FromRecordFill before t) :
    ∃ order fill n source transaction binding, Recorded before t.unstored order fill n source transaction binding := by
  obtain ⟨validated, clock, input, ok⟩ := made
  exact recordFill_ok ok

theorem replay_intent (ok : replay accountID intent ts = .ok a) : a.intent = intent := by
  refine replay_induction (fun _ a => a.intent = intent) ?_ ?_ ok
  · intro initial _ _ _
    rfl
  · intro ts before t after _ held stepped _
    rw [step_intent stepped, held]

theorem forall_fills {holds : Transition → Prop}
    (of_recorded : ∀ before t, before.intent = intent → FromRecordFill before t → holds t)
    (ok : replay accountID intent ts = .ok a)
    (recorded : AtEachStep accountID intent ts fun before t => t.event.isFill = true → FromRecordFill before t) :
    ∀ t ∈ ts, t.event.isFill = true → holds t := by
  refine replay_induction_of (fun ts _ => ∀ t ∈ ts, t.event.isFill = true → holds t) ?_ ?_ ok recorded
  · intro initial _ opening _ t member isFill
    rw [List.mem_singleton.mp member] at isFill
    have kind : initial.event.kind = .intentProposed := by
      simp only [opens, Bool.and_eq_true, beq_iff_eq] at opening
      tauto
    simp [Event.isFill, kind] at isFill
  · intro ts before t after replayed held _ made
    exact forall_mem_concat held fun isFill => of_recorded before t (replay_intent replayed) (made isFill)

theorem sumFillQuantity_eq (fills : List Fill) :
    (sumFillQuantity fills).toRat = (fills.map fun fill => fill.quantity.toRat).sum := by
  induction fills using List.reverseRecOn with
  | nil => simp
  | append_singleton earlier fill ih => simp [ih]

def bookedQuantity (n : EconomicNormalization) : ℚ := (n.quantity.map Decimal.toRat).getD 0

/-- What the ledger transaction moves of the instrument, counted in the direction of the trade. -/
def postedQuantity (n : EconomicNormalization) : ℚ :=
  match n.transaction, n.instrument with
  | some transaction, some instrument =>
    transaction.assetMovement instrument.id * (if n.eventType = .fillSell then -1 else 1)
  | _, _ => 0

/-- The ledger transaction repeats no posting key. -/
def PostsOnce (n : EconomicNormalization) : Prop :=
  ∀ transaction ∈ n.transaction, (transaction.postings.map Posting.idempotencyKey).Nodup

/-- The ledger transaction moves the quantity of the fill to the side of the fill, and no other instrument. -/
def Fill.Posted (fill : Fill) (n : EconomicNormalization) : Prop :=
  ∃ transaction instrument, n.transaction = some transaction ∧ n.instrument = some instrument ∧
    ∀ id, transaction.assetMovement id =
      movedOnly instrument.id (fill.quantity.toRat * (if fill.side = .sell then -1 else 1)) id

theorem Fill.Agrees.posted {fill : Fill} (agrees : fill.Agrees n) {clock : Reading} (valid : n.validate clock = .ok ())
    {transaction : Transaction} (isTransaction : n.transaction = some transaction) (once : PostsOnce n) : fill.Posted n := by
  obtain ⟨instrument, quantity, isInstrument, isQuantity, moves⟩ := EconomicNormalization.moves_of_distinct isTransaction
    valid (once transaction isTransaction) (agrees.side.imp And.right And.right)
  cases Option.some.inj (agrees.quantity.symm.trans isQuantity)
  refine ⟨transaction, instrument, isTransaction, isInstrument, fun id => ?_⟩
  rw [moves]
  rcases agrees.side with ⟨side, type⟩ | ⟨side, type⟩ <;> simp [side, type]

theorem Fill.Posted.quantity {fill : Fill} (posted : fill.Posted n) (agrees : fill.Agrees n) :
    postedQuantity n = fill.quantity.toRat := by
  obtain ⟨transaction, instrument, isTransaction, isInstrument, moves⟩ := posted
  rw [postedQuantity, isTransaction, isInstrument]
  simp only [moves, movedOnly, if_pos]
  rcases agrees.side with ⟨side, type⟩ | ⟨side, type⟩ <;> simp [side, type]

theorem filledQuantity_eq (ok : replay accountID intent ts = .ok a) {counted : EconomicNormalization → ℚ}
    (same : ∀ link ∈ links ts, counted link.2 = link.1.quantity.toRat) :
    a.filledQuantity = ((links ts).map fun link => counted link.2).sum := by
  rw [Aggregate.filledQuantity, replay_links ok, sumFillQuantity_eq, List.map_map, List.map_congr_left same]
  rfl

/-- When every fill comes from `recordFill` and no ledger transaction repeats a posting key, the
fills are those of the ledger: the filled quantity is what the normalizations book and what
their transactions post. -/
theorem replay_fills_agree (ok : replay accountID intent ts = .ok a)
    (recorded : AtEachStep accountID intent ts fun before t => t.event.isFill = true → FromRecordFill before t)
    (once : ∀ link ∈ links ts, PostsOnce link.2) :
    a.fills = (links ts).map Prod.fst ∧
    (∀ t ∈ ts, t.event.isFill = true →
      ∃ fill n, t.fill = some fill ∧ t.normalization = some n ∧ fill.Agrees n ∧ fill.Posted n) ∧
    a.filledQuantity = ((links ts).map fun link => bookedQuantity link.2).sum ∧
    a.filledQuantity = ((links ts).map fun link => postedQuantity link.2).sum := by
  have agreeing : ∀ t ∈ ts, t.event.isFill = true → ∃ fill n, t.fill = some fill ∧ t.normalization = some n ∧
      fill.Agrees n ∧ (PostsOnce n → fill.Posted n) := by
    refine forall_fills ?_ ok recorded
    intro before t _ made
    obtain ⟨order, fill, n, source, transaction, binding, facts⟩ := made.recorded
    obtain ⟨clock, valid⟩ := facts.sound
    exact ⟨fill, n, facts.carried.isFill, facts.carried.isNormalization, facts.agrees,
      facts.agrees.posted valid facts.carried.isTransaction⟩
  have agree : ∀ link ∈ links ts, link.1.Agrees link.2 ∧ link.1.Posted link.2 := by
    intro link member
    obtain ⟨t, inHistory, isEvent, isFill, isNormalization⟩ := mem_links.mp member
    obtain ⟨fill, n, isFill', isNormalization', agrees, posts⟩ := agreeing t inHistory isEvent
    cases Option.some.inj (isFill.symm.trans isFill')
    cases Option.some.inj (isNormalization.symm.trans isNormalization')
    exact ⟨agrees, posts (once link member)⟩
  refine ⟨replay_links ok, ?_, filledQuantity_eq ok ?_, filledQuantity_eq ok ?_⟩
  · intro t member isEvent
    obtain ⟨fill, n, isFill, isNormalization, agrees, posts⟩ := agreeing t member isEvent
    exact ⟨fill, n, isFill, isNormalization, agrees,
      posts (once (fill, n) (mem_links.mpr ⟨t, member, isEvent, isFill, isNormalization⟩))⟩
  · intro link member
    simp [bookedQuantity, (agree link member).1.quantity]
  · intro link member
    exact (agree link member).2.quantity (agree link member).1

end

def sampleFillID : Uuid := ⟨[154, 126, 6, 128, 250, 229, 74, 22, 183, 163, 161, 70, 223, 14, 36, 187], rfl⟩

def sampleTradeSource (sourceEventID : String) : EconomicSourceEvent :=
  { sampleSource with
    id := EconomicSourceEvent.sourceIdentity (Uuid.ofByte 1) "alpaca" "fills" sourceEventID
    sourceEventID := sourceEventID }

/-- A purchase of shares at ten, booked for a fill of the sample order. -/
def sampleTrade (sourceEventID : String) (quantity : Int) : Outcome EconomicNormalization :=
  newFillEconomicNormalization sampleClocks
    { base := { sampleBase with
        sourceEvent := some (sampleTradeSource sourceEventID)
        referenceType := "execution_fill"
        referenceID := (fillIdentity sampleOrder.id (sampleTradeSource sourceEventID).id).toText }
      instrument := sampleInstrument
      venueContract := sampleContract
      side := .buy
      quantity := Decimal.newFromInt quantity
      price := Decimal.newFromInt 10
      cost := none }

def sampleExecution : Outcome EconomicNormalization := sampleTrade "f1" 2

def sampleBinding : OrderBinding :=
  { id := ⟨[38, 160, 211, 192, 119, 19, 102, 226, 67, 174, 103, 195, 148, 126, 25, 215], rfl⟩
    orderID := sampleOrder.id
    accountID := Uuid.ofByte 1
    venue := "alpaca"
    externalOrderID := "x1"
    createdAt := ⟨5000000, true⟩ }

/-- One share of the sample order, booked and recorded. -/
def sampleRecord (a : Aggregate) (sourceEventID : String) : Outcome (Transition × Aggregate) := do
  let n ← sampleTrade sourceEventID 1
  let t ← recordFill sampleReading sampleReading (some a)
    { normalization := some n
      externalOrderID := "x1"
      event := sampleEventInput sourceEventID
      createdAt := ⟨5000000, true⟩ }
  pure (t, ← a.step t)

/-- A fill of the sample order that names the normalization and carries its own values. -/
def sampleLinkedFill (n : EconomicNormalization) (transaction : Transaction) (sourceEventID : String) (side : Side)
    (quantity price : Decimal) (effectiveAt : Instant) : Fill :=
  { id := sampleFillID
    intentID := sampleIntent.id
    orderID := sampleOrder.id
    accountID := Uuid.ofByte 1
    instrumentID := Uuid.ofByte 2
    venueContractID := Uuid.ofByte 3
    economicSourceEventID := sampleSource.id
    normalizationID := n.id
    ledgerTransactionID := transaction.id
    side := side
    quantity := quantity
    price := price
    source := "alpaca"
    sourceNamespace := "fills"
    sourceEventID := sourceEventID
    sourceRevision := ""
    effectiveAt := effectiveAt
    receivedAt := ⟨5000000, true⟩
    createdAt := ⟨5000000, true⟩ }

def sampleFillEvent (id : Uuid) (kind : EventKind) (prior next : State) (sourceEventID : String) (cumulative : Int) :
    Event :=
  { sampleEvent id kind prior next sourceEventID with
    orderID := some sampleOrder.id
    bindingID := some sampleBinding.id
    fillID := some sampleFillID
    policyKind := .venue
    policyVersion := "v1"
    cumulativeFillQuantity := some (Decimal.newFromInt cumulative) }

def sampleFirstFillEvent (next : State) (cumulative : Int) : Event :=
  sampleFillEvent ⟨[253, 223, 114, 239, 105, 250, 48, 193, 235, 0, 75, 244, 179, 87, 255, 241], rfl⟩ .fillAcknowledged
    .routed next "f1" cumulative

/-- The sale of one share at seven, a millisecond early, beside the purchase of two at ten. -/
def sampleSold (n : EconomicNormalization) (transaction : Transaction) : Fill :=
  sampleLinkedFill n transaction "f1" .sell (Decimal.newFromInt 1) (Decimal.newFromInt 7) ⟨3000000, true⟩

def sampleDrifted (n : EconomicNormalization) (transaction : Transaction) : Transition :=
  { event := sampleFirstFillEvent .partiallyFilled 1
    order := none
    binding := some sampleBinding
    fill := some (sampleSold n transaction)
    normalization := some n }

/-- The same normalization once more, under another event. -/
def sampleBought (n : EconomicNormalization) (transaction : Transaction) : Fill :=
  sampleLinkedFill n transaction "f2" .buy (Decimal.newFromInt 1) (Decimal.newFromInt 10) ⟨4000000, true⟩

def sampleRepeated (n : EconomicNormalization) (transaction : Transaction) : Transition :=
  { event := sampleFillEvent ⟨[248, 169, 175, 123, 15, 97, 73, 30, 66, 233, 154, 215, 177, 41, 36, 53], rfl⟩
      .fillRecorded .partiallyFilled .filled "f2" 2
    order := none
    binding := none
    fill := some (sampleBought n transaction)
    normalization := some n }

def sampleForeignBinding : OrderBinding :=
  { sampleBinding with
    accountID := Uuid.ofByte 9
    venue := "kalshi" }

/-- An immediate fill whose binding names another account and another venue. -/
def sampleMisbound (n : EconomicNormalization) (transaction : Transaction) : Transition :=
  { event := sampleFirstFillEvent .filled 2
    order := none
    binding := some sampleForeignBinding
    fill := some (sampleLinkedFill n transaction "f1" .buy (Decimal.newFromInt 2) (Decimal.newFromInt 10)
      ⟨4000000, true⟩)
    normalization := some n }

/-- An unknown venue state that names a binding of no order. -/
def sampleUnknown (prior : State) : Transition :=
  ⟨{ sampleEvent ⟨[76, 170, 85, 183, 214, 219, 246, 77, 23, 96, 0, 53, 170, 30, 46, 85], rfl⟩ .unknownVenueState prior
      .failedReconciliation "u1" with
    orderID := some sampleOrder.id
    bindingID := some (Uuid.ofByte 7)
    policyKind := .venue
    policyVersion := "v1" }, none, none, none, none⟩

/-- The identifiers of the fill and of the ledger facts that it points to. -/
def Fill.names (fill : Fill) : List Uuid :=
  [fill.economicSourceEventID, fill.id, fill.normalizationID, fill.ledgerTransactionID]

def sampleReplay (ts : List Transition) : Outcome Aggregate :=
  replay (Uuid.ofByte 1) sampleIntent (sampleHistory ++ ts)

theorem sampleExecution_evaluated :
    (sampleExecution.toOption.any fun n => n.transaction.any fun transaction =>
      let drifted := sampleDrifted n transaction
      let misbound := sampleMisbound n transaction
      n.eventType == .fillBuy && n.quantity != some (Decimal.newFromInt 1) && n.price != some (Decimal.newFromInt 7) &&
      n.effectiveAt != ⟨3000000, true⟩ &&
      ((sampleReplay [drifted]).toOption.any fun a => a.fills == [sampleSold n transaction]) &&
      ((sampleReplay [drifted, sampleRepeated n transaction]).toOption.any fun a =>
        a.fills == [sampleSold n transaction, sampleBought n transaction]) &&
      ((sampleReplay [misbound]).toOption.any fun a => a.binding == some sampleForeignBinding) &&
      ((sampleReplay [misbound, sampleUnknown .filled]).toOption.any fun a =>
        a.intent == sampleIntent && a.order == some sampleOrder && a.binding == some sampleForeignBinding)) = true := by
  decide +kernel

theorem sampleExecution_uses : ∃ n, sampleExecution = .ok n ∧ ∃ transaction, n.transaction = some transaction ∧
    n.eventType = .fillBuy ∧ n.quantity ≠ some (Decimal.newFromInt 1) ∧ n.price ≠ some (Decimal.newFromInt 7) ∧
    n.effectiveAt ≠ ⟨3000000, true⟩ ∧
    (∃ a, sampleReplay [sampleDrifted n transaction] = .ok a ∧ a.fills = [sampleSold n transaction]) ∧
    (∃ a, sampleReplay [sampleDrifted n transaction, sampleRepeated n transaction] = .ok a ∧
      a.fills = [sampleSold n transaction, sampleBought n transaction]) ∧
    (∃ a, sampleReplay [sampleMisbound n transaction] = .ok a ∧ a.binding = some sampleForeignBinding) ∧
    ∃ a, sampleReplay [sampleMisbound n transaction, sampleUnknown .filled] = .ok a ∧ a.intent = sampleIntent ∧
      a.order = some sampleOrder ∧ a.binding = some sampleForeignBinding := by
  have seen := sampleExecution_evaluated
  simp only [Option.any_eq_true, toOption_eq_some, Bool.and_eq_true, beq_iff_eq, bne_iff_ne, and_assoc] at seen
  exact seen

theorem sampleHistory_plain {made : Aggregate → Transition → Prop} : AtEachStep (Uuid.ofByte 1) sampleIntent sampleHistory
    fun before t => t.event.isFill = true → made before t := by
  intro earlier t later before split _ isFill
  have plain : ∀ t ∈ sampleHistory, t.event.isFill = false := by decide
  rw [plain t (by simp [split])] at isFill
  cases isFill

theorem sampleRecord_ok {a : Aggregate} {sourceEventID : String} (ok : sampleRecord a sourceEventID = .ok (t, after)) :
    FromRecordFill a t := by
  simp only [sampleRecord, returns_iff, Prod.mk.injEq] at ok
  obtain ⟨n, _, t, recorded, after, _, rfl, rfl⟩ := ok
  have unstored : t.unstored = t := by simp [Transition.unstored, ← (recordFill_taken recorded).unsequenced]
  exact ⟨_, _, _, by rw [unstored]; exact recorded⟩

/-- The sample order, filled share by share. -/
def sampleFills : Outcome (Transition × Aggregate × Transition × Aggregate) := do
  let (first, partly) ← sampleRecord sampleAggregate "f1"
  let (second, filled) ← sampleRecord partly "f2"
  pure (first, partly, second, filled)

instance (n : EconomicNormalization) : Decidable (PostsOnce n) :=
  inferInstanceAs (Decidable (∀ transaction ∈ n.transaction, _))

theorem sampleFills_evaluated : (sampleFills.toOption.any fun (first, partly, second, filled) =>
    let history := sampleHistory ++ [first, second]
    decide (sampleReplay [first] = .ok partly ∧ sampleReplay [first, second] = .ok filled ∧
      (∀ t ∈ history, t.event.kind.isFailure = false) ∧ (∀ link ∈ links history, PostsOnce link.2) ∧
      ((links history).flatMap fun link => link.1.names).Nodup ∧ filled.fills.length = 2 ∧
      filled.filledQuantity = 2)) = true := by
  decide +kernel

/-- Two fills of one share each, which `recordFill` returned one after the other. -/
structure FilledTwice (ts : List Transition) (a : Aggregate) : Prop where
  replayed : replay (Uuid.ofByte 1) sampleIntent ts = .ok a
  recorded : AtEachStep (Uuid.ofByte 1) sampleIntent ts fun before t => t.event.isFill = true → FromRecordFill before t
  reconciled : ∀ t ∈ ts, t.event.kind.isFailure = false
  once : ∀ link ∈ links ts, PostsOnce link.2
  names : ((links ts).flatMap fun link => link.1.names).Nodup
  count : a.fills.length = 2
  quantity : a.filledQuantity = 2

theorem sampleFills_replayed : ∃ first second a, FilledTwice (sampleHistory ++ [first, second]) a := by
  obtain ⟨⟨first, partly, second, filled⟩, ok, seen⟩ := ok_of_evaluated sampleFills_evaluated
  obtain ⟨one, both, reconciled, once, names, count, quantity⟩ := of_decide_eq_true seen
  simp only [sampleFills, returns_iff, Prod.exists, Prod.mk.injEq] at ok
  obtain ⟨_, _, recorded, _, _, again, rfl, rfl, rfl, rfl⟩ := ok
  refine ⟨_, _, _, both, ?_, reconciled, once, names, count, quantity⟩
  rw [List.append_cons]
  refine (sampleHistory_plain.snoc ?_).snoc ?_
  · intro before replayed _
    cases Except.ok.inj (replayed.symm.trans sampleHistory_replayed)
    exact sampleRecord_ok recorded
  · intro before replayed _
    cases Except.ok.inj (replayed.symm.trans one)
    exact sampleRecord_ok again

theorem replay_fills_agree_recorded : ∃ ts a, FilledTwice ts a ∧
    a.filledQuantity = ((links ts).map fun link => postedQuantity link.2).sum := by
  obtain ⟨first, second, a, twice⟩ := sampleFills_replayed
  exact ⟨_, a, twice, (replay_fills_agree twice.replayed twice.recorded twice.once).2.2.2⟩

/-- The fifth transition of the history is the first fill. -/
theorem replay_quantities_filled : ∃ ts a, FilledTwice ts a ∧
    ∃ before, replay (Uuid.ofByte 1) sampleIntent (ts.take 5) = .ok before ∧ Quantities before := by
  obtain ⟨first, second, a, twice⟩ := sampleFills_replayed
  exact ⟨_, a, twice, replay_quantities twice.replayed 5 (by decide)⟩

/-- Replaying accepts a sale of one share at another price and time as the fill of a
booked purchase of two. -/
theorem replay_fills_drift : ∃ n t a fill, sampleExecution = .ok n ∧
    replay (Uuid.ofByte 1) sampleIntent (sampleHistory ++ [t]) = .ok a ∧ t.event.isFill = true ∧
    t.fill = some fill ∧ t.normalization = some n ∧ a.fills = [fill] ∧ fill.side = .sell ∧ n.eventType = .fillBuy ∧
    n.quantity ≠ some fill.quantity ∧ n.price ≠ some fill.price ∧ fill.effectiveAt ≠ n.effectiveAt := by
  obtain ⟨n, made, transaction, _, isType, quantity, price, effective, ⟨a, replayed, fills⟩, _⟩ := sampleExecution_uses
  exact ⟨n, sampleDrifted n transaction, a, _, made, replayed, rfl, rfl, rfl, fills, rfl, isType, quantity, price,
    effective.symm⟩

end Augr.Lifecycle
