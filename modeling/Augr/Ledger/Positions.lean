import Augr.Ledger.Events
import Augr.Ledger.Turnover

/-! What an account holds of each instrument.

The lots of an instrument hold together the signed sum of what the replayed postings
moved, however the movements were split over lots and matches. -/

set_option autoImplicit false

namespace Augr.Ledger

open Foundation ProjectionState

variable {mechanics : MechanicsMap} {after state : ProjectionState} {currency : String} {transaction : Transaction}
  {trace : Trace}

/-- Signed quantity that lots hold of an instrument. -/
def heldIn (lots : List ProjectionLot) (id : Uuid) : ℚ :=
  (lots.map fun lot => if lot.instrumentID = id then lot.remainingQuantity.toRat else 0).sum

theorem heldIn_append (first second : List ProjectionLot) (id : Uuid) :
    heldIn (first ++ second) id = heldIn first id + heldIn second id := by
  simp [heldIn]

theorem net_eq_heldIn (trace : Trace) (id : Uuid) : Fifo.net id trace.view = heldIn trace.lots id := by
  simp only [Fifo.net, heldIn, Trace.view, Trace.lots, List.map_map]
  rfl

/-- Consuming lots takes from the inventory what the movement lost. -/
theorem Trace.Consumed.heldIn {key : Uuid} {left remaining : ℚ} {lots : List ProjectionLot} {closed : Trace}
    {added : List ProjectionMatch} (consumed : Trace.Consumed key left (bare lots) closed remaining added) (id : Uuid) :
    Ledger.heldIn closed.lots id = Ledger.heldIn lots id + movedOnly key (left - remaining) id := by
  have total := consumed.drains.net id
  rw [net_eq_heldIn, net_eq_heldIn, bare_lots] at total
  rw [total, movedOnly, if_congr eq_comm rfl rfl]

theorem applyMovement_held {m : Movement} {exact : Bool} (ok : state.applyMovement m exact = .ok after) (id : Uuid) :
    heldIn after.lots id = heldIn state.lots id + movedOnly m.instrumentID m.movement.toRat id := by
  obtain ⟨⟨nonzero, _, _⟩, _, _, rfl⟩ := (applyMovement_ok_iff _ _ _ _).mp ok
  obtain ⟨closed, added, lots, consumed, _⟩ := closing_consumed m (bare_lots state.lots).symm nonzero
  have opening : heldIn (state.opening m) id = movedOnly m.instrumentID (state.segments m).2.toRat id := by
    rw [ProjectionState.opening]
    split_ifs with exhausted
    · rw [(Decimal.isZero_iff _).mp exhausted]
      simp [heldIn, movedOnly]
    · simp [heldIn, movedOnly, Movement.openLot, eq_comm]
  simp only [heldIn_append, lots, consumed.heldIn, opening, movedOnly]
  split_ifs <;> ring

theorem handOver_held {row : ProjectionMechanics} {option : Decimal} (nonzero : option.toRat ≠ 0)
    (spent : (transferLots transaction row option 0 option .zero state.lots).remaining.isZero = true) (id : Uuid) :
    heldIn (state.handOver transaction row option).lots id =
      heldIn state.lots id + movedOnly row.instrumentID option.toRat id := by
  obtain ⟨transferred, lots, consumed, _⟩ := transferLots_consumed transaction row option (bare state.lots) 0
    option .zero (mul_self_pos.mpr nonzero)
  rw [bare_lots] at lots consumed
  have total := consumed.heldIn id
  rw [(Decimal.isZero_iff _).mp spent, sub_zero, ← lots] at total
  exact total

/-- Signed quantity of the posting under a key, for the instrument that the mechanics name. -/
def postedTo (transaction : Transaction) (key : String) (instrumentID id : Uuid) : ℚ :=
  movedOnly instrumentID (((projectionInstrumentMovement transaction key instrumentID).toOption.map Decimal.toRat).getD 0) id

theorem postedTo_eq {key : String} {instrumentID : Uuid} {movement : Decimal}
    (found : projectionInstrumentMovement transaction key instrumentID = .ok movement) (id : Uuid) :
    postedTo transaction key instrumentID id = movedOnly instrumentID movement.toRat id := by
  rw [postedTo, found]
  rfl

def movedIn (id : Uuid) (transaction : Transaction) (row : ProjectionMechanics) : ℚ :=
  match row.eventType with
  | .fillBuy | .fillSell => postedTo transaction "inventory" row.instrumentID id
  | .optionCashSettlement | .optionExpiration | .predictionPayout =>
      postedTo transaction "inventory-settlement" row.instrumentID id
  | .optionExercise | .optionAssignment => postedTo transaction "option-close" row.instrumentID id +
      postedTo transaction "underlying-delivery" row.secondaryInstrumentID id
  | .fee | .rebate | .unrecognized _ => 0

theorem applyEconomicTransaction_held {row : ProjectionMechanics} {cash : Decimal} (valid : row.validate = .ok ())
    (ok : state.applyEconomicTransaction transaction row cash = .ok after) (id : Uuid) :
    heldIn after.lots id = heldIn state.lots id + movedIn id transaction row := by
  obtain ⟨action, planned, performs, _⟩ := applyEconomicTransaction_enacts transaction row cash state after ok
  cases planned with
  | fill kind found =>
    rw [applyMovement_held performs]
    rcases kind with kind | kind <;> simp [movedIn, kind, postedTo_eq found, primaryMovement]
  | cost kind =>
    subst performs
    rcases kind with kind | kind <;> simp [movedIn, kind]
  | settlement kind found =>
    rw [applyMovement_held performs]
    rcases kind with kind | kind | kind <;> simp [movedIn, kind, postedTo_eq found, primaryMovement]
  | @physical option underlying _ kind found foundUnderlying held opposite =>
    obtain ⟨spent, applied⟩ := performs
    have nonzero : option.toRat ≠ 0 := by
      rw [opposite]
      exact neg_ne_zero.mpr (position_of_validate valid kind _ held)
    rw [applyMovement_held applied, handOver_held nonzero spent, add_assoc]
    rcases kind with kind | kind <;>
      simp [movedIn, kind, postedTo_eq found, postedTo_eq foundUnderlying, delivery]

def movedFor (mechanics : MechanicsMap) (id : Uuid) (transaction : Transaction) : ℚ :=
  if transaction.isCapital then 0 else ((mechanics.lookup transaction.id).map (movedIn id transaction)).getD 0

theorem replayTransaction_held (valid : mechanics.Valid)
    (ok : state.replayTransaction currency mechanics transaction = .ok after) (id : Uuid) :
    heldIn after.lots id = heldIn state.lots id + movedFor mechanics id transaction := by
  obtain ⟨cash, fees, rebates, _, ⟨capital, applied⟩ | ⟨economic, row, found, _, _, applied⟩⟩ :=
    replayTransaction_ok_iff.mp ok
  · simp only [applyCapital, failIf_bind_ok_iff] at applied
    obtain ⟨_, _, _, applied⟩ := applied
    cases applied
    simp [movedFor, capital]
  · rw [applyEconomicTransaction_held (valid.lookup found) applied id]
    simp [movedFor, economic, found]

theorem replay_held (valid : mechanics.Valid) {transactions : List Transaction}
    (ok : state.replay currency mechanics transactions = .ok after) (id : Uuid) :
    heldIn after.lots id = heldIn state.lots id + (transactions.map (movedFor mechanics id)).sum := by
  induction transactions generalizing state with
  | nil =>
    cases ok
    simp
  | cons transaction rest ih =>
    simp only [replay, List.foldlM_cons, bind_ok_iff] at ok
    obtain ⟨next, first, others⟩ := ok
    rw [ih others, replayTransaction_held valid first, List.map_cons, List.sum_cons, add_assoc]

/-- After every step of a rebuild, the position in an instrument is the sum of what the replayed events moved of it. -/
theorem replay_positions {input : ProjectionInput} {prepared : Prepared} (ready : prepareProjection input = .ok prepared)
    (count : Nat) (replayed : ProjectionState.replay prepared.currency prepared.mechanics .initial
      (prepared.transactions.take count) = .ok state) (id : Uuid) :
    (state.closedPosition id).quantity.toRat =
      ((prepared.transactions.take count).map (movedFor prepared.mechanics id)).sum := by
  have total := replay_held (prepareProjection_valid ready) replayed id
  have position : (state.closedPosition id).quantity.toRat = heldIn state.lots id := by
    rw [← bare_lots state.lots, ← net_eq_heldIn, net_view, bare_lots]
    simp only [closedPosition, toRat_sumDecimals, instrumentLots]
  rw [position, total]
  simp [heldIn, ProjectionState.initial]

theorem replay_positions_sale : ∃ state prepared, sampleReplay = .ok state ∧ state.lotMatches.length = 2 ∧
    prepareProjection sampleInput = .ok prepared ∧ ∀ id, (state.closedPosition id).quantity.toRat =
      (prepared.transactions.map (movedFor prepared.mechanics id)).sum := by
  obtain ⟨state, ok, seen⟩ := ok_of_evaluated sampleReplay_evaluated
  simp only [Bool.and_eq_true, beq_iff_eq] at seen
  obtain ⟨prepared, ready, replayed⟩ := bind_ok_iff.mp ok
  have total := replay_positions ready prepared.transactions.length (by rwa [List.take_length])
  rw [List.take_length] at total
  exact ⟨state, prepared, ok, seen.2, ready, total⟩

end Augr.Ledger
