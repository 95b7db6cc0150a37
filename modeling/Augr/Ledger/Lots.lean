import Augr.Foundation.Fifo
import Augr.Ledger.Replay

/-! The two closing loops of the replay refine consumption of a FIFO inventory.

A trace pairs every lot with the matches made against it. Decimals are read as the
numbers they denote, so the rounded split of a partial close is only "some part".
-/

set_option autoImplicit false

namespace Augr.Ledger

open Foundation

abbrev AbstractLot := Fifo.Lot Uuid ℚ

def ProjectionMatch.piece (record : ProjectionMatch) : ℚ × ℚ := (record.quantity.toRat, record.openingCash.toRat)

abbrev TracedLot := ProjectionLot × List ProjectionMatch

def TracedLot.view (entry : TracedLot) : AbstractLot :=
  { key := entry.1.instrumentID
    opened := entry.1.quantity.toRat
    size := entry.1.remainingQuantity.toRat
    cost := entry.1.openingCash.toRat
    basis := entry.1.remainingOpeningCash.toRat
    pieces := entry.2.map ProjectionMatch.piece }

def TracedLot.Linked (entry : TracedLot) : Prop :=
  ∀ record ∈ entry.2, record.lotID = entry.1.id ∧ record.instrumentID = entry.1.instrumentID

abbrev Trace := List TracedLot

def Trace.lots (trace : Trace) : List ProjectionLot := trace.map Prod.fst

def Trace.records (trace : Trace) : List ProjectionMatch := trace.flatMap Prod.snd

def Trace.view (trace : Trace) : List AbstractLot := trace.map TracedLot.view

def Trace.Linked (trace : Trace) : Prop := ∀ entry ∈ trace, entry.Linked

theorem sum_of_instrument (amount : ProjectionLot → ℚ) (lots : List ProjectionLot) (id : Uuid) :
    ((lots.filter fun lot => lot.instrumentID == id).map amount).sum =
      (lots.map fun lot => if lot.instrumentID = id then amount lot else 0).sum := by
  induction lots with
  | nil => rfl
  | cons lot rest ih => by_cases same : lot.instrumentID = id <;> simp [same, ih]

theorem net_view (trace : Trace) (id : Uuid) :
    Fifo.net id trace.view =
      ((trace.lots.filter fun lot => lot.instrumentID == id).map fun lot => lot.remainingQuantity.toRat).sum := by
  simp only [sum_of_instrument, Fifo.net, Trace.lots, Trace.view, List.map_map, Function.comp_def, TracedLot.view]
  rfl

section
variable {movement remaining size : Decimal}

@[simp] theorem toRat_signed (direction quantity : Decimal) :
    (signed direction quantity).toRat = direction.sign * quantity.toRat := by
  simp [signed]

theorem offsets_iff (lot : ProjectionLot) (instrumentID : Uuid) (nonzero : movement.toRat ≠ 0) :
    lot.offsets instrumentID movement = true ↔
      lot.instrumentID = instrumentID ∧ movement.toRat * lot.remainingQuantity.toRat < 0 := by
  simp only [ProjectionLot.offsets, Bool.and_eq_true, beq_iff_eq, Bool.not_eq_true', bne_iff_ne,
    Decimal.isZero_eq_false_iff, and_assoc]
  refine and_congr_right fun _ => ?_
  constructor
  · rintro ⟨started, different⟩
    have product := mul_ne_zero nonzero started
    refine lt_of_le_of_ne (not_lt.mp fun ahead => different ?_) product
    exact (Decimal.sign_eq_iff started nonzero).mpr (by rwa [mul_comm])
  · intro against
    have started : lot.remainingQuantity.toRat ≠ 0 := fun zero => by simp [zero] at against
    refine ⟨started, fun same => ?_⟩
    have ahead := (Decimal.sign_eq_iff started nonzero).mp same
    rw [mul_comm] at ahead
    exact absurd against (not_lt.mpr (le_of_lt ahead))

theorem signed_close (ahead : 0 < movement.toRat * remaining.toRat) (against : movement.toRat * size.toRat < 0) :
    (signed movement (size.abs.min remaining.abs)).toRat =
      if |size.toRat| ≤ |remaining.toRat| then -size.toRat else remaining.toRat := by
  rw [toRat_signed, Decimal.toRat_min, Decimal.toRat_abs, Decimal.toRat_abs, min_def]
  rcases mul_pos_iff.mp ahead with ⟨above, remainingAbove⟩ | ⟨below, remainingBelow⟩
  · have sizeBelow : size.toRat < 0 := by nlinarith
    rw [Decimal.sign_of_pos above, abs_of_pos remainingAbove, abs_of_neg sizeBelow]
    split <;> simp
  · have sizeAbove : 0 < size.toRat := by nlinarith
    rw [Decimal.sign_of_neg below, abs_of_neg remainingBelow, abs_of_pos sizeAbove]
    split <;> simp

end

/-- The match of a loop iteration records the lot, the quantity taken and the cash released. -/
structure MadeAgainst (lot : ProjectionLot) (remaining : Decimal) (record : ProjectionMatch) : Prop where
  lotID : record.lotID = lot.id
  instrumentID : record.instrumentID = lot.instrumentID
  quantity : record.quantity = lot.remainingQuantity.abs.min remaining.abs
  openingCash : record.openingCash = lot.releasedCash record.quantity

def consumedEntry (entry : TracedLot) (movement : Decimal) (record : ProjectionMatch) : TracedLot :=
  (entry.1.consume movement record.quantity record.openingCash, entry.2 ++ [record])

section
variable {entry : TracedLot} {key : Uuid} {movement remaining : Decimal} {record : ProjectionMatch}

theorem view_consume (ahead : 0 < movement.toRat * remaining.toRat)
    (against : movement.toRat * entry.1.remainingQuantity.toRat < 0) (made : MadeAgainst entry.1 remaining record) :
    (consumedEntry entry movement record).view =
      if |entry.1.remainingQuantity.toRat| ≤ |remaining.toRat| then
        entry.view.take (-entry.view.size) entry.view.basis
      else entry.view.take remaining.toRat record.openingCash.toRat := by
  have step := signed_close ahead against
  have sized : record.quantity.toRat = min |entry.1.remainingQuantity.toRat| |remaining.toRat| := by
    rw [made.quantity]
    simp
  rw [← made.quantity] at step
  split
  case isTrue covered =>
    rw [if_pos covered] at step
    rw [min_eq_left covered] at sized
    have all : record.openingCash = entry.1.remainingOpeningCash := by
      rw [made.openingCash, ProjectionLot.releasedCash, if_pos (by simp [sized])]
    have emptied : (entry.1.remainingQuantity.add (signed movement record.quantity)).toRat = 0 := by
      rw [Decimal.toRat_add, step, add_neg_cancel]
    have zero : (entry.1.remainingQuantity.add (signed movement record.quantity)).isZero = true := by
      rw [Decimal.isZero_iff, emptied]
    simp only [consumedEntry, TracedLot.view, ProjectionLot.consume, zero, if_true, emptied, Fifo.Lot.take, List.map_append,
      List.map_cons, List.map_nil, ProjectionMatch.piece, Decimal.toRat_zero, sized, all, abs_neg, add_neg_cancel,
      sub_self]
  case isFalse uncovered =>
    rw [if_neg uncovered] at step
    rw [min_eq_right (le_of_lt (not_le.mp uncovered))] at sized
    have reduced : (entry.1.remainingQuantity.add (signed movement record.quantity)).toRat =
        entry.1.remainingQuantity.toRat + remaining.toRat := by
      rw [Decimal.toRat_add, step]
    have nonzero : (entry.1.remainingQuantity.add (signed movement record.quantity)).isZero = false := by
      rw [Decimal.isZero_eq_false_iff, reduced]
      intro cancel
      exact uncovered (by rw [eq_neg_of_add_eq_zero_left cancel, abs_neg])
    simp only [consumedEntry, TracedLot.view, ProjectionLot.consume, nonzero, Bool.false_eq_true, if_false, reduced,
      Fifo.Lot.take,
      List.map_append, List.map_cons, List.map_nil, ProjectionMatch.piece, Decimal.toRat_sub, sized]

theorem drains_consume (same : entry.1.instrumentID = key) (ahead : 0 < movement.toRat * remaining.toRat)
    (against : movement.toRat * entry.1.remainingQuantity.toRat < 0) (made : MadeAgainst entry.1 remaining record) :
    let next := (remaining.sub (signed movement record.quantity)).toRat
    (next = 0 ∨ 0 < movement.toRat * next) ∧ ∀ {rest after left}, Fifo.Drains key next rest after left →
      Fifo.Drains key remaining.toRat (entry.view :: rest) ((consumedEntry entry movement record).view :: after) left := by
  intro next
  have step := signed_close ahead against
  rw [← made.quantity] at step
  have opposite : remaining.toRat * entry.view.size < 0 := (Fifo.against_iff ahead _).mpr against
  have shape := view_consume ahead against made
  by_cases covered : |entry.1.remainingQuantity.toRat| ≤ |remaining.toRat|
  · rw [if_pos covered] at step shape
    have left : next = remaining.toRat + entry.view.size := by
      simp only [next, Decimal.toRat_sub, step, TracedLot.view]
      ring
    rw [left, shape]
    exact ⟨(Fifo.covered_side opposite covered).1.imp_right (Fifo.same_side (by rwa [mul_comm])),
      .close same opposite covered⟩
  · rw [if_neg covered] at step shape
    have exhausted : next = 0 := by
      simp only [next, Decimal.toRat_sub, step, sub_self]
    rw [exhausted, shape]
    refine ⟨.inl rfl, fun tail => ?_⟩
    obtain ⟨rfl, rfl⟩ := tail.of_spent
    exact .reduce _ same opposite (not_le.mp covered)

theorem drains_pass {rest after : List AbstractLot} {left : ℚ} (ahead : 0 < movement.toRat * remaining.toRat)
    (passed : entry.1.offsets key movement = false) (tail : Fifo.Drains key remaining.toRat rest after left) :
    Fifo.Drains key remaining.toRat (entry.view :: rest) (entry.view :: after) left := by
  have nonzero : movement.toRat ≠ 0 := fun zero => by simp [zero] at ahead
  refine .skip (fun same => ?_) tail
  have notAgainst : ¬ movement.toRat * entry.1.remainingQuantity.toRat < 0 := fun against => by
    rw [(offsets_iff entry.1 key nonzero).mpr ⟨same, against⟩] at passed
    cases passed
  rcases eq_or_lt_of_le (not_lt.mp notAgainst) with zero | same
  · exact Or.inl ((mul_eq_zero.mp zero.symm).resolve_left nonzero)
  · exact Or.inr (Fifo.same_side ahead same)

end

def openingTotal (records : List ProjectionMatch) : ℚ := (records.map fun record => record.openingCash.toRat).sum

def closingTotal (records : List ProjectionMatch) : ℚ := (records.map fun record => record.closingCash.toRat).sum

/-- What never changes about a lot: its ID and what the ID is derived from. -/
def ProjectionLot.identity (lot : ProjectionLot) : Uuid × Uuid × Uuid :=
  (lot.id, lot.openingTransactionID, lot.instrumentID)

/-- One loop turns a trace into another one: it consumes the inventory, and every
match it adds belongs to the lot it was made against. -/
structure Trace.Consumed (key : Uuid) (left : ℚ) (before after : Trace) (remaining : ℚ)
    (added : List ProjectionMatch) : Prop where
  drains : Fifo.Drains key left before.view after.view remaining
  linked : before.Linked → after.Linked
  records : after.records.Perm (before.records ++ added)
  identities : after.lots.map ProjectionLot.identity = before.lots.map ProjectionLot.identity

namespace Trace.Consumed

variable {key : Uuid} {left remaining : ℚ} {entry entry' : TracedLot} {rest after : Trace}
  {added : List ProjectionMatch}

theorem pass {movement start : Decimal} (ahead : 0 < movement.toRat * start.toRat)
    (passed : entry.1.offsets key movement = false)
    (tail : Trace.Consumed key start.toRat rest after remaining added) :
    Trace.Consumed key start.toRat (entry :: rest) (entry :: after) remaining added where
  drains := drains_pass ahead passed tail.drains
  linked := fun linked => List.forall_mem_cons.mpr ⟨linked entry List.mem_cons_self,
    tail.linked fun other member => linked other (List.mem_cons_of_mem _ member)⟩
  records := by
    simpa [Trace.records, List.append_assoc] using tail.records.append_left entry.2
  identities := by
    have rest := tail.identities
    simp only [Trace.lots, List.map_cons] at rest ⊢
    rw [rest]

theorem consume {movement start : Decimal} {record : ProjectionMatch}
    (ahead : 0 < movement.toRat * start.toRat) (offset : entry.1.offsets key movement = true)
    (made : MadeAgainst entry.1 start record) :
    let next := (start.sub (signed movement record.quantity)).toRat
    (next = 0 ∨ 0 < movement.toRat * next) ∧ ∀ {rest after remaining added},
      Trace.Consumed key next rest after remaining added →
      Trace.Consumed key start.toRat (entry :: rest) (consumedEntry entry movement record :: after) remaining
        (record :: added) := by
  intro next
  have nonzero : movement.toRat ≠ 0 := fun zero => by simp [zero] at ahead
  obtain ⟨same, against⟩ := (offsets_iff entry.1 key nonzero).mp offset
  obtain ⟨side, drains⟩ := drains_consume same ahead against made
  refine ⟨side, fun tail => ⟨drains tail.drains, fun linked => ?_, ?_, ?_⟩⟩
  · obtain ⟨head, others⟩ := List.forall_mem_cons.mp linked
    exact List.forall_mem_cons.mpr ⟨forall_mem_concat head ⟨made.lotID, made.instrumentID⟩, tail.linked others⟩
  · -- the new match moves in front of the matches of the later lots
    have records := tail.records
    simp only [Trace.records, consumedEntry, List.flatMap_cons, List.append_assoc] at records ⊢
    refine List.Perm.append_left entry.2 ?_
    refine (records.append_left [record]).trans ?_
    simp only [List.singleton_append]
    exact List.perm_middle.symm
  · have others := tail.identities
    simp only [Trace.lots, List.map_cons] at others ⊢
    rw [others]
    rfl

theorem spent (zero : left = 0) (trace : Trace) : Trace.Consumed key left trace trace left [] where
  drains := by
    subst zero
    exact .spent _
  linked := id
  records := by simp
  identities := rfl

theorem nothing (start : ℚ) : Trace.Consumed key start [] [] start [] where
  drains := .finish start
  linked := id
  records := by simp
  identities := rfl

end Trace.Consumed

theorem transferLots_consumed (transaction : Transaction) (mechanics : ProjectionMechanics) (movement : Decimal)
    (trace : Trace) (ordinal : Nat) (remaining transferred : Decimal)
    (ahead : 0 < movement.toRat * remaining.toRat) :
    let out := transferLots transaction mechanics movement ordinal remaining transferred trace.lots
    ∃ after, out.lots = Trace.lots after ∧
      Trace.Consumed mechanics.instrumentID remaining.toRat trace after out.remaining.toRat out.lotMatches ∧
      out.transferredCash.toRat = transferred.toRat + openingTotal out.lotMatches := by
  induction trace generalizing ordinal remaining transferred with
  | nil =>
    refine ⟨[], rfl, .nothing _, ?_⟩
    simp [Trace.lots, transferLots, openingTotal]
  | cons entry rest ih =>
    simp only [Trace.lots, List.map_cons, transferLots]
    by_cases offset : entry.1.offsets mechanics.instrumentID movement = true
    · have nonzero : movement.toRat ≠ 0 := fun zero => by simp [zero] at ahead
      let quantity := entry.1.remainingQuantity.abs.min remaining.abs
      let openingCash := entry.1.releasedCash quantity
      let record := newMatch transaction mechanics mechanics.instrumentID entry.1 ordinal quantity openingCash
        openingCash.neg .zero "basis_transfer"
      have made : MadeAgainst entry.1 remaining record :=
        ⟨rfl, ((offsets_iff entry.1 mechanics.instrumentID nonzero).mp offset).1.symm, rfl, rfl⟩
      obtain ⟨side, continues⟩ := Trace.Consumed.consume ahead offset made
      simp only [offset, if_true]
      by_cases stop : (remaining.sub (signed movement quantity)).isZero = true
      · have zero := (Decimal.isZero_iff _).mp stop
        rw [if_pos stop]
        refine ⟨consumedEntry entry movement record :: rest, rfl, continues (.spent zero rest), ?_⟩
        simp [openingTotal, newMatch]
      · have more := mt (Decimal.isZero_iff _).mpr stop
        rw [if_neg stop]
        obtain ⟨after, lots, consumed, cash⟩ :=
          ih (ordinal + 1) (remaining.sub (signed movement quantity)) (transferred.add openingCash) (side.resolve_left more)
        refine ⟨consumedEntry entry movement record :: after, ?_, ?_, ?_⟩
        · simp only [Trace.lots, List.map_cons] at lots ⊢
          rw [lots]
          rfl
        · exact continues consumed
        · simp only [Trace.lots] at cash
          rw [cash]
          simp only [openingTotal, List.map_cons, List.sum_cons, Decimal.toRat_add, newMatch]
          ring
    · have passed : entry.1.offsets mechanics.instrumentID movement = false := by simpa using offset
      obtain ⟨after, lots, consumed, cash⟩ := ih ordinal remaining transferred ahead
      simp only [passed, Bool.false_eq_true, if_false]
      refine ⟨entry :: after, ?_, .pass ahead passed consumed, cash⟩
      simp only [Trace.lots, List.map_cons] at lots ⊢
      rw [lots]

structure CloseState.Adds (before after : CloseState) (added : List ProjectionMatch) : Prop where
  records : after.lotMatches = before.lotMatches ++ added
  realized : after.realized.toRat = before.realized.toRat + openingTotal added + closingTotal added
  cash : after.remainingCash.toRat = before.remainingCash.toRat - closingTotal added

theorem CloseState.Adds.trans {first second third : CloseState} {added more : List ProjectionMatch}
    (left : first.Adds second added) (right : second.Adds third more) : first.Adds third (added ++ more) where
  records := by rw [right.records, left.records, List.append_assoc]
  realized := by
    rw [right.realized, left.realized]
    simp only [openingTotal, closingTotal, List.map_append, List.sum_append]
    ring
  cash := by
    rw [right.cash, left.cash]
    simp only [closingTotal, List.map_append, List.sum_append]
    ring

theorem allocate_total (total quantity totalQuantity remainingAmount remainingQuantity : Decimal) (final : Bool) :
    let part := allocateProjectionAmount total quantity totalQuantity remainingAmount remainingQuantity final
    part.remainingAmount.toRat = remainingAmount.toRat - part.allocated.toRat := by
  cases final <;> simp [allocateProjectionAmount]

/-- The match made when the lot at the segment's index is closed. -/
def Movement.recordOf (m : Movement) (count : Nat) (state : CloseState) (quantity : Decimal) (lot : ProjectionLot) :
    ProjectionMatch :=
  let closing := (allocateProjectionAmount m.eventCash quantity m.movement.abs state.remainingCash
    state.remainingQuantity (state.ordinal + 1 == count)).allocated
  let openingCash := lot.releasedCash quantity
  newMatch m.transaction m.mechanics m.instrumentID lot state.ordinal quantity openingCash closing
    (openingCash.add closing) m.disposition

theorem closeOne_at (m : Movement) (count : Nat) {state : CloseState} {before rest : List ProjectionLot}
    {lot : ProjectionLot} (quantity : Decimal) (lots : state.lots = before ++ lot :: rest) :
    let next := m.closeOne count state ⟨before.length, quantity⟩
    let record := m.recordOf count state quantity lot
    next.lots = before ++ lot.consume m.movement record.quantity record.openingCash :: rest ∧
      state.Adds next [record] ∧ next.ordinal = state.ordinal + 1 ∧
      (state.ordinal + 1 = count → next.remainingCash.toRat = 0) := by
  intro next record
  have found : state.lots[before.length]? = some lot := by simp [lots]
  simp only [next, Movement.closeOne, found]
  refine ⟨?_, ⟨rfl, ?_, ?_⟩, trivial, ?_⟩
  · simp [lots, record, Movement.recordOf, newMatch]
  · simp [record, Movement.recordOf, newMatch, openingTotal, closingTotal, add_assoc]
  · simp [record, Movement.recordOf, newMatch, closingTotal, allocate_total]
  · intro last
    simp [last, allocateProjectionAmount]

theorem CloseState.Adds.refl (state : CloseState) : state.Adds state [] where
  records := (List.append_nil _).symm
  realized := by simp [openingTotal, closingTotal]
  cash := by simp [closingTotal]

/-- Both passes together consume the inventory once. The lots before `before.length`
have been dealt with; the indices of the first pass point behind them. -/
theorem closeSegments_consumed (m : Movement) (count : Nat) (trace : Trace) (before : List ProjectionLot)
    (remaining : Decimal) (state : CloseState) (ahead : 0 < m.movement.toRat * remaining.toRat)
    (lots : state.lots = before ++ trace.lots) :
    let out := closeSegments m.instrumentID m.movement before.length remaining trace.lots
    let final := out.1.foldl (m.closeOne count) state
    ∃ after added, final.lots = before ++ Trace.lots after ∧
      Trace.Consumed m.instrumentID remaining.toRat trace after out.2.toRat added ∧ state.Adds final added ∧
      (out.1 ≠ [] → state.ordinal + out.1.length = count → final.remainingCash.toRat = 0) := by
  induction trace generalizing before remaining state with
  | nil =>
    refine ⟨[], [], lots, .nothing _, .refl state, fun some => ?_⟩
    simp [Trace.lots, closeSegments] at some
  | cons entry rest ih =>
    simp only [Trace.lots, List.map_cons, closeSegments]
    by_cases offset : entry.1.offsets m.instrumentID m.movement = true
    · have nonzero : m.movement.toRat ≠ 0 := fun zero => by simp [zero] at ahead
      let quantity := entry.1.remainingQuantity.abs.min remaining.abs
      let record := m.recordOf count state quantity entry.1
      have made : MadeAgainst entry.1 remaining record :=
        ⟨rfl, ((offsets_iff entry.1 m.instrumentID nonzero).mp offset).1.symm, rfl, rfl⟩
      obtain ⟨side, continues⟩ := Trace.Consumed.consume ahead offset made
      obtain ⟨nextLots, adds, nextOrdinal, last⟩ := closeOne_at m count quantity lots
      simp only [offset, if_true]
      by_cases stop : (remaining.sub (signed m.movement quantity)).isZero = true
      · have zero := (Decimal.isZero_iff _).mp stop
        rw [if_pos stop]
        exact ⟨consumedEntry entry m.movement record :: rest, [record], nextLots, continues (.spent zero rest), adds,
          fun _ => last⟩
      · have more := mt (Decimal.isZero_iff _).mpr stop
        rw [if_neg stop]
        -- the next index is behind the lot that was just consumed
        have shifted : (m.closeOne count state ⟨before.length, quantity⟩).lots =
            (before ++ [entry.1.consume m.movement record.quantity record.openingCash]) ++ Trace.lots rest := by
          rw [List.append_assoc]
          exact nextLots
        obtain ⟨after, added, finalLots, consumed, addsRest, lastRest⟩ :=
          ih _ (remaining.sub (signed m.movement quantity)) _ (side.resolve_left more) shifted
        simp only [List.length_append, List.length_cons, List.length_nil, zero_add] at finalLots consumed addsRest lastRest
        refine ⟨consumedEntry entry m.movement record :: after, record :: added, ?_, ?_, ?_, ?_⟩
        · simpa [Trace.lots, consumedEntry] using finalLots
        · exact continues consumed
        · exact adds.trans addsRest
        · intro _ total
          rw [List.length_cons] at total
          by_cases others : (closeSegments m.instrumentID m.movement (before.length + 1)
              (remaining.sub (signed m.movement quantity)) (Trace.lots rest)).1 = []
          · -- the segment just closed was the final one
            simp only [Trace.lots] at others
            rw [others] at total
            simp only [quantity] at others
            simp only [List.foldl_cons, others, List.foldl_nil]
            exact last total
          · exact lastRest others (by rw [nextOrdinal, ← total]; simp only [Trace.lots, quantity]; omega)
    · have passed : entry.1.offsets m.instrumentID m.movement = false := by simpa using offset
      have shifted : state.lots = (before ++ [entry.1]) ++ Trace.lots rest := by
        rw [lots, List.append_assoc]
        rfl
      obtain ⟨after, added, finalLots, consumed, adds, last⟩ := ih _ remaining _ ahead shifted
      simp only [List.length_append, List.length_cons, List.length_nil, zero_add] at finalLots consumed adds last
      simp only [passed, Bool.false_eq_true, if_false]
      refine ⟨entry :: after, added, ?_, .pass ahead passed consumed, adds, last⟩
      simpa [Trace.lots] using finalLots

end Augr.Ledger
