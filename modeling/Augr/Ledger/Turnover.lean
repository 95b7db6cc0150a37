import Augr.Foundation.Interleave
import Augr.Ledger.Determinism

/-! What an event opens and closes together.

The quantities of the lots and of the matches grow with every movement by its size,
whatever lots it meets. -/

set_option autoImplicit false

namespace Augr.Ledger

open Foundation ProjectionState

variable {mechanics : MechanicsMap} {after state : ProjectionState} {currency : String} {transaction : Transaction}

def openedQuantity (lots : List ProjectionLot) : ℚ := (lots.map fun lot => |lot.quantity.toRat|).sum

def closedQuantity (records : List ProjectionMatch) : ℚ := (records.map fun record => record.quantity.toRat).sum

def ProjectionState.turnover (state : ProjectionState) : ℚ :=
  openedQuantity state.lots + closedQuantity state.lotMatches

theorem openedQuantity_append (first second : List ProjectionLot) :
    openedQuantity (first ++ second) = openedQuantity first + openedQuantity second := by
  simp [openedQuantity]

theorem closedQuantity_append (first second : List ProjectionMatch) :
    closedQuantity (first ++ second) = closedQuantity first + closedQuantity second := by
  simp [closedQuantity]

def bare (lots : List ProjectionLot) : Trace := lots.map fun lot => (lot, [])

theorem bare_lots (lots : List ProjectionLot) : (bare lots).lots = lots := by
  simp [bare, Trace.lots, Function.comp_def]

theorem bare_records (lots : List ProjectionLot) : (bare lots).records = [] := by
  simp [bare, Trace.records]

theorem turnover_view (trace : Trace) :
    Fifo.turnover trace.view = openedQuantity trace.lots + closedQuantity trace.records := by
  induction trace with
  | nil => simp [Fifo.turnover, Trace.view, Trace.lots, Trace.records, openedQuantity, closedQuantity]
  | cons entry rest ih =>
    have taken : entry.view.taken = closedQuantity entry.2 := by
      simp [Fifo.Lot.taken, TracedLot.view, closedQuantity, ProjectionMatch.piece, Function.comp_def]
    have lots : Trace.lots (entry :: rest) = entry.1 :: Trace.lots rest := rfl
    have records : Trace.records (entry :: rest) = entry.2 ++ Trace.records rest := rfl
    have view : Trace.view (entry :: rest) = entry.view :: Trace.view rest := rfl
    rw [lots, records, view, closedQuantity_append]
    simp only [Fifo.turnover, openedQuantity, List.map_cons, List.sum_cons, taken] at ih ⊢
    rw [ih]
    simp only [TracedLot.view]
    ring

theorem Trace.Consumed.turnover {key : Uuid} {left remaining : ℚ} {lots : List ProjectionLot} {after : Trace}
    {added : List ProjectionMatch} (consumed : Trace.Consumed key left (bare lots) after remaining added) :
    openedQuantity after.lots + closedQuantity added + |remaining| = openedQuantity lots + |left| := by
  have total := consumed.drains.turnover
  have records : closedQuantity after.records = closedQuantity added := by
    have perm := consumed.records
    rw [bare_records, List.nil_append] at perm
    exact (perm.map _).sum_eq
  rw [turnover_view, turnover_view, bare_lots, bare_records, records] at total
  simpa [closedQuantity] using total

theorem applyMovement_turnover {m : Movement} {exact : Bool} (ok : state.applyMovement m exact = .ok after) :
    after.turnover = state.turnover + |m.movement.toRat| := by
  obtain ⟨⟨nonzero, _, _⟩, _, _, rfl⟩ := (applyMovement_ok_iff _ _ _ _).mp ok
  obtain ⟨closed, added, lots, consumed, adds, _⟩ := closing_consumed m (bare_lots state.lots).symm nonzero
  have total := consumed.turnover
  have opening : openedQuantity (state.opening m) = |(state.segments m).2.toRat| := by
    rw [ProjectionState.opening]
    split_ifs with exhausted
    · rw [(Decimal.isZero_iff _).mp exhausted]
      simp [openedQuantity]
    · simp [openedQuantity, Movement.openLot]
  simp only [ProjectionState.turnover, openedQuantity_append, opening, lots, adds.records, closedQuantity_append]
  linarith

theorem handOver_turnover {mechanics : ProjectionMechanics} {option : Decimal} (nonzero : option.toRat ≠ 0)
    (spent : (transferLots transaction mechanics option 0 option .zero state.lots).remaining.isZero = true) :
    (state.handOver transaction mechanics option).turnover = state.turnover + |option.toRat| := by
  obtain ⟨transferred, lots, consumed, _⟩ := transferLots_consumed transaction mechanics option (bare state.lots) 0
    option .zero (mul_self_pos.mpr nonzero)
  rw [bare_lots] at lots consumed
  have total := consumed.turnover
  rw [(Decimal.isZero_iff _).mp spent, abs_zero, add_zero, ← lots] at total
  simp only [ProjectionState.turnover, handOver, closedQuantity_append]
  linarith

def movedBy (transaction : Transaction) (key : String) (instrumentID : Uuid) : ℚ :=
  ((projectionInstrumentMovement transaction key instrumentID).toOption.map fun movement => |movement.toRat|).getD 0

theorem movedBy_eq {key : String} {instrumentID : Uuid} {movement : Decimal}
    (found : projectionInstrumentMovement transaction key instrumentID = .ok movement) :
    movedBy transaction key instrumentID = |movement.toRat| := by
  rw [movedBy, found]
  rfl

def handled (transaction : Transaction) (mechanics : ProjectionMechanics) : ℚ :=
  match mechanics.eventType with
  | .fillBuy | .fillSell => movedBy transaction "inventory" mechanics.instrumentID
  | .optionCashSettlement | .optionExpiration | .predictionPayout =>
      movedBy transaction "inventory-settlement" mechanics.instrumentID
  | .optionExercise | .optionAssignment => movedBy transaction "option-close" mechanics.instrumentID +
      movedBy transaction "underlying-delivery" mechanics.secondaryInstrumentID
  | .fee | .rebate | .unrecognized _ => 0

/-- Capital flows and standalone costs leave the lots alone. -/
def Transaction.isStill (transaction : Transaction) : Bool :=
  transaction.eventType == "capital_flow.deposit" || transaction.eventType == "capital_flow.withdrawal" ||
    transaction.eventType == EconomicEventType.fee.text || transaction.eventType == EconomicEventType.rebate.text

theorem applyEconomicTransaction_turnover {mechanics : ProjectionMechanics} {cash : Decimal}
    (valid : mechanics.validate = .ok ()) (ok : state.applyEconomicTransaction transaction mechanics cash = .ok after) :
    after.turnover = state.turnover + handled transaction mechanics ∧ 0 ≤ handled transaction mechanics ∧
      (handled transaction mechanics = 0 ↔ mechanics.eventType = .fee ∨ mechanics.eventType = .rebate) := by
  obtain ⟨action, planned, performs, _⟩ := applyEconomicTransaction_enacts transaction mechanics cash state after ok
  have moving {m : Movement} {exact : Bool} {from_ : ProjectionState} (applied : from_.applyMovement m exact = .ok after) :
      after.turnover = from_.turnover + |m.movement.toRat| ∧ 0 < |m.movement.toRat| :=
    ⟨applyMovement_turnover applied, abs_pos.mpr ((applyMovement_ok_iff _ _ _ _).mp applied).1.1⟩
  cases planned with
  | fill kind found =>
    obtain ⟨total, positive⟩ := moving performs
    have size : handled transaction mechanics = movedBy transaction "inventory" mechanics.instrumentID := by
      rcases kind with kind | kind <;> simp [handled, kind]
    rw [size, movedBy_eq found]
    exact ⟨total, positive.le, iff_of_false positive.ne' (by rcases kind with kind | kind <;> simp [kind])⟩
  | cost kind =>
    subst performs
    rcases kind with kind | kind <;> simp [handled, kind, ProjectionState.turnover]
  | settlement kind found =>
    obtain ⟨total, positive⟩ := moving performs
    have size : handled transaction mechanics = movedBy transaction "inventory-settlement" mechanics.instrumentID := by
      rcases kind with kind | kind | kind <;> simp [handled, kind]
    rw [size, movedBy_eq found]
    exact ⟨total, positive.le, iff_of_false positive.ne' (by rcases kind with kind | kind | kind <;> simp [kind])⟩
  | @physical option underlying _ kind found foundUnderlying held opposite =>
    obtain ⟨spent, applied⟩ := performs
    have nonzero : option.toRat ≠ 0 := by
      rw [opposite]
      exact neg_ne_zero.mpr (position_of_validate valid kind _ held)
    obtain ⟨total, positive⟩ := moving applied
    have size : handled transaction mechanics = |option.toRat| + |underlying.toRat| := by
      rw [← movedBy_eq found, ← movedBy_eq foundUnderlying]
      rcases kind with kind | kind <;> simp [handled, kind]
    rw [size, total, handOver_turnover nonzero spent]
    refine ⟨add_assoc _ _ _, by positivity, iff_of_false ?_ (by rcases kind with kind | kind <;> simp [kind])⟩
    exact (add_pos_of_nonneg_of_pos (abs_nonneg _) positive).ne'

def Transaction.isCapital (transaction : Transaction) : Bool :=
  transaction.eventType == "capital_flow.deposit" || transaction.eventType == "capital_flow.withdrawal"

def handledBy (mechanics : MechanicsMap) (transaction : Transaction) : ℚ :=
  if transaction.isCapital then 0 else ((mechanics.lookup transaction.id).map (handled transaction)).getD 0

theorem replayTransaction_ok_iff :
    state.replayTransaction currency mechanics transaction = .ok after ↔ ∃ cash fees rebates,
      projectionCashAndCosts transaction currency = .ok (cash, fees, rebates) ∧
      let charged := { state with
        cash := state.cash.add cash, fees := state.fees.add fees, rebates := state.rebates.add rebates }
      (transaction.isCapital = true ∧ charged.applyCapital transaction (mechanics.lookup transaction.id) cash = .ok after ∨
        transaction.isCapital = false ∧ ∃ row, mechanics.lookup transaction.id = some row ∧
          row.eventType.text = transaction.eventType ∧ row.cashCurrency = currency ∧
          charged.applyEconomicTransaction transaction row cash = .ok after) := by
  have capital : transaction.isCapital = true ↔
      transaction.eventType = "capital_flow.deposit" ∨ transaction.eventType = "capital_flow.withdrawal" := by
    simp [Transaction.isCapital]
  simp only [replayTransaction, bind_ok_iff, Prod.exists]
  refine exists_congr fun cash => exists_congr fun fees => exists_congr fun rebates => and_congr_right fun _ => ?_
  simp only [← capital]
  cases isCapital : transaction.isCapital with
  | true => simp
  | false =>
    cases found : mechanics.lookup transaction.id with
    | none => simp [applyEconomic]
    | some row => simp [applyEconomic, failIf_bind_ok_iff]

theorem still_iff {row : ProjectionMechanics} {cash : Decimal} (economic : transaction.isCapital = false)
    (same : row.eventType.text = transaction.eventType)
    (applied : state.applyEconomicTransaction transaction row cash = .ok after) :
    transaction.isStill = true ↔ row.eventType = .fee ∨ row.eventType = .rebate := by
  have still : transaction.isStill = true ↔
      row.eventType.text = EconomicEventType.fee.text ∨ row.eventType.text = EconomicEventType.rebate.text := by
    simp only [Transaction.isCapital] at economic
    simp [Transaction.isStill, economic, same]
  rw [still]
  simp only [applyEconomicTransaction, failIf_bind_ok_iff] at applied
  obtain ⟨_, applied⟩ := applied
  cases kind : row.eventType with
  | unrecognized text => simp [kind] at applied
  | _ => simp [EconomicEventType.text]

theorem replayTransaction_turnover (valid : mechanics.Valid)
    (ok : state.replayTransaction currency mechanics transaction = .ok after) :
    after.turnover = state.turnover + handledBy mechanics transaction ∧ 0 ≤ handledBy mechanics transaction ∧
      (handledBy mechanics transaction = 0 ↔ transaction.isStill = true) := by
  obtain ⟨cash, fees, rebates, _, ⟨capital, applied⟩ | ⟨economic, row, found, same, _, applied⟩⟩ :=
    replayTransaction_ok_iff.mp ok
  · have still : transaction.isStill = true := by
      simp only [Transaction.isCapital] at capital
      simp [Transaction.isStill, capital]
    simp only [applyCapital, failIf_bind_ok_iff] at applied
    obtain ⟨_, _, _, applied⟩ := applied
    cases applied
    simp [handledBy, capital, still, ProjectionState.turnover]
  · have size : handledBy mechanics transaction = handled transaction row := by
      simp [handledBy, economic, found]
    obtain ⟨total, nonneg, zero⟩ := applyEconomicTransaction_turnover (valid.lookup found) applied
    rw [size]
    exact ⟨total, nonneg, zero.trans (still_iff economic same applied).symm⟩

theorem replay_turnover (valid : mechanics.Valid) {transactions : List Transaction}
    (ok : state.replay currency mechanics transactions = .ok after) :
    after.turnover = state.turnover + (transactions.map (handledBy mechanics)).sum ∧
      ∀ t ∈ transactions, 0 ≤ handledBy mechanics t ∧ (handledBy mechanics t = 0 ↔ t.isStill = true) := by
  induction transactions generalizing state with
  | nil =>
    cases ok
    exact ⟨by simp, by simp⟩
  | cons transaction rest ih =>
    simp only [replay, List.foldlM_cons, bind_ok_iff] at ok
    obtain ⟨next, first, others⟩ := ok
    obtain ⟨total, size⟩ := replayTransaction_turnover valid first
    obtain ⟨restTotal, sizes⟩ := ih others
    refine ⟨?_, List.forall_mem_cons.mpr ⟨size, sizes⟩⟩
    rw [restTotal, total, List.map_cons, List.sum_cons]
    ring

end Augr.Ledger
