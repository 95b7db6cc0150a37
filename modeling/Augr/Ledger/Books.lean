import Augr.Ledger.Lots

/-! What every reachable projection state satisfies, and what one transaction adds to it. -/

set_option autoImplicit false

namespace Augr.Ledger

open Foundation ProjectionState

variable {added : List ProjectionMatch} {mechanics : ProjectionMechanics} {after state : ProjectionState}
  {trace : Trace} {transaction : Transaction} {remaining : ℚ} {cash : Decimal}

/-- Each lot is named by its position among the lots of one transaction and instrument. -/
def Numbered (identities : List (Uuid × Uuid × Uuid)) : Prop :=
  ∀ earlier name later, identities = earlier ++ name :: later →
    name.1 = lotID name.2.1 name.2.2 (earlier.countP fun other => other.2 == name.2)

theorem Numbered.append {identities : List (Uuid × Uuid × Uuid)} {name : Uuid × Uuid × Uuid}
    (numbered : Numbered identities)
    (next : name.1 = lotID name.2.1 name.2.2 (identities.countP fun other => other.2 == name.2)) :
    Numbered (identities ++ [name]) := by
  intro earlier this later split
  rcases List.eq_nil_or_concat later with rfl | ⟨front, last, rfl⟩
  · obtain ⟨rfl, same⟩ := List.append_inj' split rfl
    cases same
    exact next
  · rw [List.concat_eq_append, ← List.cons_append, ← List.append_assoc] at split
    exact numbered earlier this front (List.append_inj' split rfl).1

theorem openedSegments_eq (lots : List ProjectionLot) (transactionID instrumentID : Uuid) :
    openedSegments lots transactionID instrumentID =
      (lots.map ProjectionLot.identity).countP fun other => other.2 == (transactionID, instrumentID) := by
  rw [List.countP_map]
  rfl

/-- The lots of a state, with a trace of the matches made against each, form ordered
FIFO inventories; every inventory is listed once as active. -/
structure Books (state : ProjectionState) (trace : Trace) : Prop where
  lots : state.lots = trace.lots
  records : state.lotMatches.Perm trace.records
  linked : trace.Linked
  sound : ∀ lot ∈ trace.view, lot.Sound
  ordered : Fifo.Ordered trace.view
  active : ∀ lot ∈ state.lots, lot.instrumentID ∈ state.activity
  distinct : state.activity.Nodup
  numbered : Numbered (state.lots.map ProjectionLot.identity)

theorem Books.transport {other : ProjectionState} (books : Books state trace) (lots : other.lots = state.lots)
    (records : other.lotMatches = state.lotMatches) (activity : other.activity = state.activity) :
    Books other trace where
  lots := lots.trans books.lots
  records := records ▸ books.records
  linked := books.linked
  sound := books.sound
  ordered := books.ordered
  active := by simpa only [lots, activity] using books.active
  distinct := activity ▸ books.distinct
  numbered := lots ▸ books.numbered

/-- What an event does to the books: it is worth `gain`. -/
structure Posted (before after : ProjectionState) (trace trace' : Trace) (gain : ℚ) : Prop where
  books : Books after trace'
  value : after.realized.toRat + Fifo.heldCost trace'.view = before.realized.toRat + Fifo.heldCost trace.view + gain
  cash : after.cash = before.cash
  netCapital : after.netCapital = before.netCapital

theorem Books.initial : Books .initial [] where
  lots := rfl
  records := .refl _
  linked := fun _ member => absurd member List.not_mem_nil
  sound := fun _ member => absurd member List.not_mem_nil
  ordered := .nil
  active := fun _ member => absurd member List.not_mem_nil
  distinct := .nil
  numbered := fun earlier name later none => absurd none (by simp [ProjectionState.initial])

theorem releasedCost_view (trace : Trace) : Fifo.releasedCost trace.view = openingTotal trace.records := by
  induction trace with
  | nil => rfl
  | cons entry rest ih =>
    simp only [Trace.view, Trace.records, Fifo.releasedCost, openingTotal, List.map_cons, List.sum_cons,
      List.flatMap_cons, List.map_append, List.sum_append] at ih ⊢
    rw [ih]
    simp only [Fifo.Lot.released, TracedLot.view, List.map_map, ProjectionMatch.piece, Function.comp_def]

theorem openingTotal_append (first second : List ProjectionMatch) :
    openingTotal (first ++ second) = openingTotal first + openingTotal second := by
  simp [openingTotal]

theorem Trace.Consumed.held {key : Uuid} {left : ℚ} {before after : Trace}
    (consumed : Trace.Consumed key left before after remaining added) :
    Fifo.heldCost after.view + openingTotal added = Fifo.heldCost before.view := by
  have total := consumed.drains.cost
  have records : openingTotal after.records = openingTotal before.records + openingTotal added := by
    rw [← openingTotal_append, openingTotal, (consumed.records.map _).sum_eq]
    rfl
  rw [releasedCost_view, releasedCost_view, records] at total
  linarith

theorem Trace.Consumed.instruments {key : Uuid} {left : ℚ} {before after : Trace}
    (consumed : Trace.Consumed key left before after remaining added) :
    after.lots.map ProjectionLot.instrumentID = before.lots.map ProjectionLot.instrumentID := by
  have keys := consumed.drains.keys
  simp only [Trace.view, Trace.lots, List.map_map] at keys ⊢
  exact keys

theorem Books.consumed {after : Trace} {key : Uuid} {left : ℚ} (books : Books state trace)
    (consumed : Trace.Consumed key left trace after remaining added) (realized : Decimal) :
    Books { state with
      lots := after.lots
      lotMatches := state.lotMatches ++ added
      realized := realized
      activity := state.activity.insert key } after where
  lots := rfl
  records := (books.records.append_right added).trans consumed.records.symm
  linked := consumed.linked books.linked
  sound := consumed.drains.sound books.sound
  ordered := consumed.drains.ordered books.ordered
  active := by
    intro lot member
    have listed : lot.instrumentID ∈ after.lots.map ProjectionLot.instrumentID := List.mem_map_of_mem member
    rw [consumed.instruments, ← books.lots] at listed
    obtain ⟨old, oldMember, same⟩ := List.mem_map.mp listed
    rw [← same]
    exact List.mem_insert_of_mem (books.active old oldMember)
  distinct := books.distinct.insert
  numbered := by
    have numbered := books.numbered
    rwa [books.lots, ← consumed.identities] at numbered

theorem Books.opened {lot : ProjectionLot} (books : Books state trace)
    (fresh : TracedLot.view (lot, []) = Fifo.Lot.fresh lot.instrumentID lot.quantity.toRat lot.openingCash.toRat)
    (nonzero : lot.quantity.toRat ≠ 0) (clear : Fifo.Clear lot.instrumentID lot.quantity.toRat trace.view)
    (active : lot.instrumentID ∈ state.activity)
    (name : lot.id = lotID lot.openingTransactionID lot.instrumentID
      (openedSegments state.lots lot.openingTransactionID lot.instrumentID)) :
    Books { state with lots := state.lots ++ [lot] } (trace ++ [(lot, [])]) where
  lots := by simp [books.lots, Trace.lots]
  records := by simpa [Trace.records] using books.records
  linked := forall_mem_concat books.linked fun record inNone => absurd inNone List.not_mem_nil
  sound := by
    rw [Trace.view, List.map_append]
    refine forall_mem_concat books.sound ?_
    rw [fresh]
    exact Fifo.Lot.fresh_sound _ _ nonzero
  ordered := by
    have opened := books.ordered.open lot.openingCash.toRat clear
    rw [← fresh] at opened
    simpa [Trace.view] using opened
  active := forall_mem_concat books.active active
  distinct := books.distinct
  numbered := by
    rw [List.map_append]
    rw [openedSegments_eq] at name
    exact books.numbered.append name

theorem applyMovement_ok_iff (state after : ProjectionState) (m : Movement) (exact : Bool) :
    state.applyMovement m exact = .ok after ↔
      (m.movement.toRat ≠ 0 ∧ m.instrumentID ≠ Uuid.nil ∧ 0 < m.multiplier.toRat) ∧
      (exact = true → (state.segments m).2.toRat = 0) ∧ state.segmentCount m ≠ 0 ∧
      { state with
        lots := (state.closing m).lots ++ state.opening m
        lotMatches := (state.closing m).lotMatches
        realized := (state.closing m).realized
        activity := state.activity.insert m.instrumentID } = after := by
  simp only [ProjectionState.applyMovement, failIf_bind_ok_iff, pure_ok_iff]
  simp [and_assoc]

theorem closing_consumed (m : Movement) (lots : state.lots = trace.lots) (nonzero : m.movement.toRat ≠ 0) :
    ∃ closed added, (state.closing m).lots = Trace.lots closed ∧
      Trace.Consumed m.instrumentID m.movement.toRat trace closed (state.segments m).2.toRat added ∧
      CloseState.Adds ⟨state.lots, state.lotMatches, state.realized, m.eventCash, m.movement.abs, 0⟩
        (state.closing m) added ∧
      ((state.segments m).1 ≠ [] → (state.segments m).1.length = state.segmentCount m →
        (state.closing m).remainingCash.toRat = 0) := by
  have pass := closeSegments_consumed m (state.segmentCount m) trace [] m.movement
    ⟨state.lots, state.lotMatches, state.realized, m.eventCash, m.movement.abs, 0⟩ (mul_self_pos.mpr nonzero) lots
  simp only [List.length_nil, List.nil_append, ← lots, zero_add] at pass
  exact pass

theorem applyMovement_posted {m : Movement} {exact : Bool} (books : Books state trace)
    (ok : state.applyMovement m exact = .ok after) : ∃ trace', Posted state after trace trace' m.eventCash.toRat := by
  obtain ⟨⟨nonzero, _, _⟩, _, parts, rfl⟩ := (applyMovement_ok_iff _ _ _ _).mp ok
  obtain ⟨closed, added, lots, consumed, adds, last⟩ := closing_consumed m books.lots nonzero
  have closedBooks := books.consumed consumed (state.closing m).realized
  have held := consumed.held
  have realized := adds.realized
  have cash := adds.cash
  by_cases exhausted : (state.segments m).2.isZero = true
  · -- the movement is used up, so the last segment took all remaining cash
    have count : state.segmentCount m = (state.segments m).1.length := by
      simp [segmentCount, exhausted]
    have nonempty : (state.segments m).1 ≠ [] := fun none => parts (by rw [count, none]; rfl)
    have spent := last nonempty count.symm
    refine ⟨closed, ?_, ?_, rfl, rfl⟩
    · have opening : state.opening m = [] := by rw [ProjectionState.opening, if_pos exhausted]
      rw [opening, List.append_nil, lots, adds.records]
      exact closedBooks
    · simp only at realized cash ⊢
      rw [realized]
      linarith
  · have rest : (state.segments m).2.toRat ≠ 0 := mt (Decimal.isZero_iff _).mpr exhausted
    let lot := m.openLot (state.closing m).lots (state.segments m).2 (state.closing m).remainingCash
    have clear : Fifo.Clear lot.instrumentID lot.quantity.toRat closed.view := (consumed.drains.clear rest).2
    have name : lot.id = lotID lot.openingTransactionID lot.instrumentID
        (openedSegments closed.lots lot.openingTransactionID lot.instrumentID) := by
      rw [← lots]
      rfl
    have fresh : TracedLot.view (lot, []) =
        Fifo.Lot.fresh lot.instrumentID lot.quantity.toRat lot.openingCash.toRat := rfl
    have openedBooks := closedBooks.opened fresh rest clear List.mem_insert_self name
    refine ⟨closed ++ [(lot, [])], ?_, ?_, rfl, rfl⟩
    · have opening : state.opening m = [lot] := by rw [ProjectionState.opening, if_neg exhausted]
      rw [opening, lots, adds.records]
      exact openedBooks
    · have view : Trace.view (closed ++ [(lot, [])]) =
          closed.view ++ [Fifo.Lot.fresh m.instrumentID (state.segments m).2.toRat
            (state.closing m).remainingCash.toRat] := by
        simp only [Trace.view, List.map_append, List.map_cons, List.map_nil]
        rfl
      simp only at realized cash ⊢
      rw [view, Fifo.heldCost_append, realized]
      simp only [Fifo.heldCost, Fifo.Lot.fresh, List.map_cons, List.map_nil, List.sum_cons, List.sum_nil, add_zero]
        at held ⊢
      linarith

theorem Posted.trans {first second third : ProjectionState} {trace' trace'' : Trace} {gain more : ℚ}
    (left : Posted first second trace trace' gain) (right : Posted second third trace' trace'' more) :
    Posted first third trace trace'' (gain + more) where
  books := right.books
  value := by
    rw [right.value, left.value]
    ring
  cash := right.cash.trans left.cash
  netCapital := right.netCapital.trans left.netCapital

theorem position_of_validate (valid : mechanics.validate = .ok ())
    (physical : mechanics.eventType = .optionExercise ∨ mechanics.eventType = .optionAssignment) :
    ∀ quantity, mechanics.positionQuantity = some quantity → quantity.toRat ≠ 0 := by
  intro quantity same
  simp only [ProjectionMechanics.validate, check_bind_ok_iff] at valid
  have shape := valid.2.2.2.2.2.2
  have open' : mechanics.validatePhysicalOption = .ok () := by
    rcases physical with kind | kind <;> simpa [ProjectionMechanics.validateShape, kind] using shape
  simp only [ProjectionMechanics.validatePhysicalOption, failIf_ok_iff, Bool.or_eq_false_iff, same,
    Option.any_some, Bool.not_eq_false', Bool.not_eq_true', Decimal.isZero_eq_false_iff] at open'
  tauto

/-- What an event does to the books: it moves its instrument, costs, or turns options into a delivery. -/
inductive Action
  | move (movement : Movement) (exact : Bool)
  | cost
  | deliver (option underlying : Decimal)

def ProjectionState.handOver (state : ProjectionState) (transaction : Transaction) (mechanics : ProjectionMechanics)
    (option : Decimal) : ProjectionState :=
  let transfer := transferLots transaction mechanics option 0 option .zero state.lots
  { state with
    lots := transfer.lots
    lotMatches := state.lotMatches ++ transfer.lotMatches
    activity := state.activity.insert mechanics.instrumentID }

section
variable (transaction : Transaction) (mechanics : ProjectionMechanics) (cash : Decimal)

/-- The delivery takes over the basis of the options in `lots`. -/
def delivery (option underlying : Decimal) (lots : List ProjectionLot) : Movement :=
  { transaction := transaction
    mechanics := mechanics
    instrumentID := mechanics.secondaryInstrumentID
    movement := underlying
    eventCash := cash.add (transferLots transaction mechanics option 0 option .zero lots).transferredCash
    multiplier := mechanics.secondaryMultiplier
    disposition := "physical_delivery" }

def Performs (state after : ProjectionState) : Action → Prop
  | .move m exact => state.applyMovement m exact = .ok after
  | .cost => { state with realized := state.realized.add cash } = after
  | .deliver option underlying =>
      (transferLots transaction mechanics option 0 option .zero state.lots).remaining.isZero = true ∧
      (state.handOver transaction mechanics option).applyMovement
        (delivery transaction mechanics cash option underlying state.lots) false = .ok after

/-- The action of an event of each type, with the postings it reads. -/
inductive Planned : Action → Prop
  | fill {movement : Decimal} (kind : mechanics.eventType = .fillBuy ∨ mechanics.eventType = .fillSell)
      (found : projectionInstrumentMovement transaction "inventory" mechanics.instrumentID = .ok movement) :
      Planned (.move (primaryMovement transaction mechanics movement cash "trade") false)
  | cost (kind : mechanics.eventType = .fee ∨ mechanics.eventType = .rebate) : Planned .cost
  | settlement {movement : Decimal} (kind : mechanics.eventType = .optionCashSettlement ∨
        mechanics.eventType = .optionExpiration ∨ mechanics.eventType = .predictionPayout)
      (found : projectionInstrumentMovement transaction "inventory-settlement" mechanics.instrumentID = .ok movement) :
      Planned (.move (primaryMovement transaction mechanics movement cash "settlement") true)
  | physical {option underlying position : Decimal}
      (kind : mechanics.eventType = .optionExercise ∨ mechanics.eventType = .optionAssignment)
      (found : projectionInstrumentMovement transaction "option-close" mechanics.instrumentID = .ok option)
      (foundUnderlying : projectionInstrumentMovement transaction "underlying-delivery" mechanics.secondaryInstrumentID =
        .ok underlying)
      (held : mechanics.positionQuantity = some position) (opposite : option.toRat = -position.toRat) :
      Planned (.deliver option underlying)

/-- The checks before the action do not read the books: another state passes them as well. -/
def Enacts (run : ProjectionState → Outcome ProjectionState) : Prop :=
  ∀ state after, run state = .ok after → ∃ action, Planned transaction mechanics cash action ∧
    Performs transaction mechanics cash state after action ∧
    ∀ other next, Performs transaction mechanics cash other next action → run other = .ok next

end

theorem applyFill_enacts (kind : mechanics.eventType = .fillBuy ∨ mechanics.eventType = .fillSell) :
    Enacts transaction mechanics cash fun state => state.applyFill transaction mechanics cash := by
  intro state after ok
  simp only [applyFill, bind_ok_iff] at ok ⊢
  obtain ⟨movement, found, _, direction, quantity, isQuantity, _, size, price, isPrice, _, paid, applied⟩ := ok
  exact ⟨_, .fill kind found, applied, fun _ _ performs =>
    ⟨movement, found, _, direction, quantity, isQuantity, _, size, price, isPrice, _, paid, performs⟩⟩

theorem applyCost_enacts (kind : mechanics.eventType = .fee ∨ mechanics.eventType = .rebate) :
    Enacts transaction mechanics cash fun state => state.applyCost transaction mechanics cash := by
  intro state after ok
  simp only [applyCost, returns_iff] at ok ⊢
  obtain ⟨plain, direction, amount, isAmount, paid, applied⟩ := ok
  exact ⟨_, .cost kind, applied, fun _ _ performs => ⟨plain, direction, amount, isAmount, paid, performs⟩⟩

theorem applySettlement_enacts
    (kind : mechanics.eventType = .optionCashSettlement ∨
      mechanics.eventType = .optionExpiration ∨ mechanics.eventType = .predictionPayout) :
    Enacts transaction mechanics cash fun state => state.applySettlement transaction mechanics cash := by
  intro state after ok
  simp only [applySettlement, bind_ok_iff] at ok ⊢
  obtain ⟨movement, found, position, isPosition, price, isPrice, _, paid, applied⟩ := ok
  exact ⟨_, .settlement kind found, applied, fun _ _ performs =>
    ⟨movement, found, position, isPosition, price, isPrice, _, paid, performs⟩⟩

theorem applyPhysicalOption_enacts
    (kind : mechanics.eventType = .optionExercise ∨ mechanics.eventType = .optionAssignment) :
    Enacts transaction mechanics cash fun state => state.applyPhysicalOption transaction mechanics cash := by
  intro state after ok
  simp only [applyPhysicalOption, returns_iff, Bool.not_eq_false'] at ok ⊢
  obtain ⟨option, found, underlying, foundUnderlying, position, held, deliverable, isDeliverable, strike, isStrike, terms,
    spent, applied⟩ := ok
  have opposite : option.toRat = -position.toRat := by
    simp only [Bool.or_eq_false_iff, Bool.not_eq_false', Decimal.equal_iff, Decimal.toRat_neg] at terms
    exact terms.1.1
  exact ⟨_, .physical kind found foundUnderlying held opposite, ⟨spent, applied⟩, fun _ _ performs =>
    ⟨option, found, underlying, foundUnderlying, position, held, deliverable, isDeliverable, strike, isStrike, terms,
      performs⟩⟩

theorem applyEconomicTransaction_enacts (transaction : Transaction) (mechanics : ProjectionMechanics) (cash : Decimal) :
    Enacts transaction mechanics cash fun state => state.applyEconomicTransaction transaction mechanics cash := by
  intro state after ok
  simp only [applyEconomicTransaction, failIf_bind_ok_iff] at ok ⊢
  obtain ⟨provenance, applied⟩ := ok
  simp only [provenance, true_and]
  cases kind : mechanics.eventType with
  | fillBuy => exact applyFill_enacts (.inl kind) state after (by simpa only [kind] using applied)
  | fillSell => exact applyFill_enacts (.inr kind) state after (by simpa only [kind] using applied)
  | fee => exact applyCost_enacts (.inl kind) state after (by simpa only [kind] using applied)
  | rebate => exact applyCost_enacts (.inr kind) state after (by simpa only [kind] using applied)
  | optionCashSettlement => exact applySettlement_enacts (.inl kind) state after (by simpa only [kind] using applied)
  | optionExpiration => exact applySettlement_enacts (.inr (.inl kind)) state after (by simpa only [kind] using applied)
  | predictionPayout => exact applySettlement_enacts (.inr (.inr kind)) state after (by simpa only [kind] using applied)
  | optionExercise => exact applyPhysicalOption_enacts (.inl kind) state after (by simpa only [kind] using applied)
  | optionAssignment => exact applyPhysicalOption_enacts (.inr kind) state after (by simpa only [kind] using applied)
  | unrecognized text => simp [kind] at applied

/-- A physical settlement is worth its strike cash: the basis that leaves the option lots
enters the delivery. -/
theorem handOver_posted {option : Decimal} (books : Books state trace) (nonzero : option.toRat ≠ 0)
    {underlying : Decimal}
    (applied : (state.handOver transaction mechanics option).applyMovement
      (delivery transaction mechanics cash option underlying state.lots) false = .ok after) :
    ∃ trace', Posted state after trace trace' cash.toRat := by
  obtain ⟨transferred, lots, consumed, paid⟩ := transferLots_consumed transaction mechanics option trace 0 option .zero
    (mul_self_pos.mpr nonzero)
  simp only [← books.lots] at lots consumed paid
  have transferBooks := books.consumed consumed state.realized
  rw [← lots] at transferBooks
  have held := consumed.held
  let transfer := transferLots transaction mechanics option 0 option .zero state.lots
  have transferPosted : Posted state (state.handOver transaction mechanics option) trace transferred
      (-(openingTotal transfer.lotMatches)) := ⟨transferBooks, by simp only [handOver]; linarith, rfl, rfl⟩
  obtain ⟨delivered, deliveryPosted⟩ := applyMovement_posted transferBooks applied
  have gain : -(openingTotal transfer.lotMatches) + (cash.add transfer.transferredCash).toRat = cash.toRat := by
    rw [Decimal.toRat_add, paid, Decimal.toRat_zero]
    ring
  rw [← gain]
  exact ⟨delivered, transferPosted.trans deliveryPosted⟩

theorem applyEconomicTransaction_posted (books : Books state trace) (valid : mechanics.validate = .ok ())
    (ok : state.applyEconomicTransaction transaction mechanics cash = .ok after) :
    ∃ trace', Posted state after trace trace' cash.toRat := by
  obtain ⟨action, planned, performs, _⟩ := applyEconomicTransaction_enacts transaction mechanics cash state after ok
  cases planned with
  | fill | settlement => exact applyMovement_posted books performs
  | cost =>
    subst performs
    refine ⟨trace, books.transport rfl rfl rfl, ?_, rfl, rfl⟩
    simp only [Decimal.toRat_add]
    ring
  | physical kind _ _ held opposite =>
    refine handOver_posted books ?_ performs.2
    rw [opposite]
    exact neg_ne_zero.mpr (position_of_validate valid kind _ held)

/-- Cash is net capital, realised results and the cash still invested in lots. -/
def Conserved (state : ProjectionState) (trace : Trace) : Prop :=
  state.cash.toRat = state.netCapital.toRat + state.realized.toRat + Fifo.heldCost trace.view

def MechanicsMap.Valid (mechanics : MechanicsMap) : Prop := ∀ row ∈ mechanics, row.validate = .ok ()

theorem MechanicsMap.Valid.lookup {mechanics : MechanicsMap} (valid : mechanics.Valid) {id : Uuid}
    {row : ProjectionMechanics} (found : mechanics.lookup id = some row) : row.validate = .ok () :=
  valid row (List.mem_of_find?_eq_some found)

theorem replayTransaction_kept {currency : String} {mechanics : MechanicsMap} (valid : mechanics.Valid)
    (books : Books state trace) (conserved : Conserved state trace)
    (ok : state.replayTransaction currency mechanics transaction = .ok after) :
    ∃ trace', Books after trace' ∧ Conserved after trace' := by
  simp only [replayTransaction, bind_ok_iff] at ok
  obtain ⟨⟨cash, fees, rebates⟩, _, applied⟩ := ok
  simp only at applied
  split at applied
  · -- capital enters cash and net capital together
    simp only [applyCapital, failIf_bind_ok_iff] at applied
    obtain ⟨_, _, _, same⟩ := applied
    cases same
    refine ⟨trace, books.transport rfl rfl rfl, ?_⟩
    simp only [Conserved, Decimal.toRat_add] at conserved ⊢
    linarith
  · simp only [applyEconomic] at applied
    split at applied
    · cases applied
    · case h_2 row found =>
      simp only [failIf_bind_ok_iff] at applied
      obtain ⟨_, _, applied⟩ := applied
      have charged : Books { state with
          cash := state.cash.add cash
          fees := state.fees.add fees
          rebates := state.rebates.add rebates } trace := books.transport rfl rfl rfl
      obtain ⟨trace', posted⟩ := applyEconomicTransaction_posted charged (valid.lookup found) applied
      refine ⟨trace', posted.books, ?_⟩
      have value := posted.value
      simp only [Conserved, posted.cash, posted.netCapital, Decimal.toRat_add] at conserved value ⊢
      linarith

theorem replay_kept {currency : String} {mechanics : MechanicsMap} (valid : mechanics.Valid)
    {transactions : List Transaction} (books : Books state trace) (conserved : Conserved state trace)
    (ok : state.replay currency mechanics transactions = .ok after) :
    ∃ trace', Books after trace' ∧ Conserved after trace' := by
  induction transactions generalizing state trace with
  | nil =>
    cases ok
    exact ⟨trace, books, conserved⟩
  | cons transaction rest ih =>
    simp only [replay, List.foldlM_cons, bind_ok_iff] at ok
    obtain ⟨next, first, others⟩ := ok
    obtain ⟨trace', books', conserved'⟩ := replayTransaction_kept valid books conserved first
    exact ih books' conserved' others

end Augr.Ledger
