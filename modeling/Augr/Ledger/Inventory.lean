import Augr.Ledger.Conservation

/-! Strict FIFO inventories in every state of a replay.

A lot's matches are found by its ID, which hashes the transaction and instrument that
opened the lot and the lot's number among theirs. The numbers differ, so only a
collision of the truncated hash can merge the matches of two lots.
-/

set_option autoImplicit false

namespace Augr.Ledger

open Foundation

/-- Nothing is lost between a lot and the matches made against it. -/
def ProjectionLot.Reconciles (lot : ProjectionLot) (records : List ProjectionMatch) : Prop :=
  |lot.quantity.toRat| = |lot.remainingQuantity.toRat| + (records.map fun record => record.quantity.toRat).sum ∧
  lot.openingCash.toRat = lot.remainingOpeningCash.toRat + (records.map fun record => record.openingCash.toRat).sum

theorem ProjectionLot.Reconciles.perm {lot : ProjectionLot} {records others : List ProjectionMatch}
    (reconciles : lot.Reconciles records) (same : records.Perm others) : lot.Reconciles others := by
  unfold ProjectionLot.Reconciles at reconciles ⊢
  rwa [← (same.map _).sum_eq, ← (same.map _).sum_eq]

theorem reconciles_of_sound {entry : TracedLot} (sound : entry.view.Sound) : entry.1.Reconciles entry.2 := by
  have quantity := sound.quantity
  have money := sound.money
  simp only [Fifo.Lot.taken, Fifo.Lot.released, TracedLot.view, List.map_map] at quantity money
  exact ⟨quantity, money⟩

def ProjectionState.matchesOf (state : ProjectionState) (lot : ProjectionLot) : List ProjectionMatch :=
  state.lotMatches.filter fun record => record.lotID == lot.id

/-- The bytes hashed into the ID of a lot opened after the earlier ones. -/
def lotPreimage (earlier : List ProjectionLot) (lot : ProjectionLot) : Bytes :=
  identityBytes "portfolio-projection-lot" [lot.openingTransactionID.toText, lot.instrumentID.toText,
    Text.itoa (openedSegments earlier lot.openingTransactionID lot.instrumentID)]

def lotPreimages (lots : List ProjectionLot) : List Bytes :=
  lots.zipIdx.map fun entry => lotPreimage (lots.take entry.2) entry.1

/-- The hash tells the lots of a state apart. -/
def CollisionFree (lots : List ProjectionLot) : Prop :=
  ∀ left ∈ lotPreimages lots, ∀ right ∈ lotPreimages lots, ¬ Collision left right

theorem lotPreimage_mem (earlier later : List ProjectionLot) (lot : ProjectionLot) :
    lotPreimage earlier lot ∈ lotPreimages (earlier ++ lot :: later) := by
  refine List.mem_map.mpr ⟨(lot, earlier.length), ?_, by simp⟩
  rw [List.zipIdx_append]
  simp

theorem Numbered.lot {earlier later : List ProjectionLot} {lot : ProjectionLot}
    (numbered : Numbered ((earlier ++ lot :: later).map ProjectionLot.identity)) :
    lot.id = lotID lot.openingTransactionID lot.instrumentID
      (openedSegments earlier lot.openingTransactionID lot.instrumentID) := by
  rw [openedSegments_eq]
  exact numbered (earlier.map ProjectionLot.identity) lot.identity (later.map ProjectionLot.identity) (by simp)

theorem openedSegments_lt (earlier middle : List ProjectionLot) (lot : ProjectionLot) :
    openedSegments earlier lot.openingTransactionID lot.instrumentID <
      openedSegments (earlier ++ lot :: middle) lot.openingTransactionID lot.instrumentID := by
  simp only [openedSegments, List.countP_append, List.countP_cons, beq_self_eq_true, Bool.and_self, if_true]
  omega

theorem ids_ne {earlier middle later : List ProjectionLot} {lot other : ProjectionLot}
    (numbered : Numbered ((earlier ++ lot :: (middle ++ other :: later)).map ProjectionLot.identity))
    (free : CollisionFree (earlier ++ lot :: (middle ++ other :: later))) : lot.id ≠ other.id := by
  intro same
  have first := numbered.lot
  have firstHashed := lotPreimage_mem earlier (middle ++ other :: later) lot
  rw [← List.cons_append, ← List.append_assoc] at numbered
  have second := numbered.lot
  have secondHashed := lotPreimage_mem (earlier ++ lot :: middle) later other
  rw [List.append_assoc, List.cons_append] at secondHashed
  rw [first, second] at same
  have names := deterministicUUID_inj (free _ firstHashed _ secondHashed) same
  simp only [List.cons.injEq, Uuid.toText_inj, and_true] at names
  obtain ⟨transactions, instruments, numbers⟩ := names
  have larger := openedSegments_lt earlier middle lot
  rw [← transactions, ← instruments] at numbers
  exact absurd (Text.itoa_injective numbers) (ne_of_lt larger)

theorem ids_distinct {lots : List ProjectionLot} (numbered : Numbered (lots.map ProjectionLot.identity))
    (free : CollisionFree lots) : (lots.map ProjectionLot.id).Nodup := by
  have general : ∀ earlier rest, lots = earlier ++ rest → (rest.map ProjectionLot.id).Nodup := by
    intro earlier rest
    induction rest generalizing earlier with
    | nil => exact fun _ => .nil
    | cons lot rest ih =>
      intro split
      refine List.nodup_cons.mpr ⟨fun listed => ?_, ih (earlier ++ [lot]) (by simp [split])⟩
      obtain ⟨other, member, same⟩ := List.mem_map.mp listed
      obtain ⟨middle, later, rfl⟩ := List.append_of_mem member
      subst split
      exact ids_ne numbered free same.symm
  exact general [] lots rfl

theorem records_filter {trace : Trace} (linked : trace.Linked)
    (distinct : (trace.lots.map ProjectionLot.id).Nodup) {entry : TracedLot} (member : entry ∈ trace) :
    (trace.records.filter fun record => record.lotID == entry.1.id) = entry.2 := by
  have own : ∀ other ∈ trace, other.1.id = entry.1.id →
      (other.2.filter fun record => record.lotID == entry.1.id) = other.2 := by
    intro other inTrace same
    exact List.filter_eq_self.mpr fun record made => by simp [(linked other inTrace record made).1, same]
  have foreign : ∀ other ∈ trace, other.1.id ≠ entry.1.id →
      (other.2.filter fun record => record.lotID == entry.1.id) = [] := by
    intro other inTrace different
    exact List.filter_eq_nil_iff.mpr fun record made => by simp [(linked other inTrace record made).1, different]
  obtain ⟨earlier, later, rfl⟩ := List.append_of_mem member
  simp only [Trace.lots, List.map_append, List.map_cons, List.map_map, List.nodup_append, List.nodup_cons,
    List.mem_map, Function.comp_apply, List.mem_cons] at distinct
  obtain ⟨_, ⟨fresh, _⟩, apart⟩ := distinct
  have before : (Trace.records earlier).filter (fun record => record.lotID == entry.1.id) = [] := by
    rw [Trace.records, List.filter_flatMap, List.flatMap_eq_nil_iff]
    intro other inEarlier
    exact foreign other (List.mem_append_left _ inEarlier) (apart _ ⟨other, inEarlier, rfl⟩ _ (Or.inl rfl))
  have after : (Trace.records later).filter (fun record => record.lotID == entry.1.id) = [] := by
    rw [Trace.records, List.filter_flatMap, List.flatMap_eq_nil_iff]
    intro other inLater
    exact foreign other (List.mem_append_right _ (List.mem_cons_of_mem _ inLater))
      fun same => fresh ⟨other, inLater, same⟩
  have split : Trace.records (earlier ++ entry :: later) =
      Trace.records earlier ++ (entry.2 ++ Trace.records later) := by
    simp [Trace.records]
  rw [split, List.filter_append, List.filter_append, before, after, own entry member rfl]
  simp

theorem mem_view {trace : Trace} {lot : ProjectionLot} (member : lot ∈ trace.lots) :
    ∃ records, (lot, records) ∈ trace := by
  obtain ⟨⟨other, records⟩, inTrace, same⟩ := List.mem_map.mp member
  cases same
  exact ⟨records, inTrace⟩

theorem Books.pairwise {state : ProjectionState} {trace : Trace} (books : Books state trace) :
    state.lots.Pairwise fun earlier later => earlier.instrumentID = later.instrumentID →
      earlier.remainingQuantity.toRat ≠ 0 →
        later.remainingQuantity.toRat = later.quantity.toRat ∧
          0 < earlier.remainingQuantity.toRat * later.remainingQuantity.toRat := by
  have ordered := books.ordered
  rw [Fifo.Ordered, Trace.view, List.pairwise_map] at ordered
  rw [books.lots, Trace.lots, List.pairwise_map]
  exact ordered

theorem Books.reconciles {state : ProjectionState} {trace : Trace} (books : Books state trace)
    (free : CollisionFree state.lots) {lot : ProjectionLot} (member : lot ∈ state.lots) :
    lot.Reconciles (state.matchesOf lot) := by
  have distinct := ids_distinct books.numbered free
  rw [books.lots] at distinct member
  obtain ⟨records, inTrace⟩ := mem_view member
  have own := reconciles_of_sound (books.sound _ (List.mem_map_of_mem inTrace))
  refine own.perm ?_
  have filtered := books.records.filter fun record => record.lotID == lot.id
  rw [records_filter books.linked distinct inTrace] at filtered
  exact filtered.symm

/-- Two open lots of one instrument are both long or both short. -/
def ProjectionLot.SameSide (left right : ProjectionLot) : Prop :=
  left.instrumentID = right.instrumentID → left.remainingQuantity.toRat ≠ 0 → right.remainingQuantity.toRat ≠ 0 →
    0 < left.remainingQuantity.toRat * right.remainingQuantity.toRat

instance : Std.Symm ProjectionLot.SameSide where
  symm := by
    intro left right sides same opened started
    rw [mul_comm]
    exact sides same.symm started opened

/-- Same side, closed lots first, one partial lot, and lots reconciled with their
matches: with the matches of each lot as they were made, and, unless the hash
collides, with the matches that carry its ID. -/
theorem reachable_strict_fifo {input : ProjectionInput} {state : ProjectionState} (reachable : Reachable input state) :
    (∀ left ∈ state.lots, ∀ right ∈ state.lots, left.SameSide right) ∧
    (state.lots.Pairwise fun earlier later => earlier.instrumentID = later.instrumentID →
      later.remainingQuantity.toRat = 0 → earlier.remainingQuantity.toRat = 0) ∧
    (state.lots.Pairwise fun earlier later => earlier.instrumentID = later.instrumentID →
      earlier.remainingQuantity.toRat ≠ 0 → later.remainingQuantity.toRat = later.quantity.toRat) ∧
    (∀ lot ∈ state.lots, lot.remainingQuantity.toRat = 0 ∨ 0 < lot.remainingQuantity.toRat * lot.quantity.toRat) ∧
    (∃ trace : Trace, state.lots = trace.lots ∧ state.lotMatches.Perm trace.records ∧ trace.Linked ∧
      ∀ entry ∈ trace, entry.1.Reconciles entry.2) ∧
    (CollisionFree state.lots → ∀ lot ∈ state.lots, lot.Reconciles (state.matchesOf lot)) := by
  obtain ⟨trace, books, _⟩ := reachable.kept
  have pairs := books.pairwise
  refine ⟨?_, ?_, ?_, ?_, ?_, fun free lot member => books.reconciles free member⟩
  · intro left inLeft right inRight
    -- the relation is symmetric, so the order of the two lots does not matter
    refine List.Pairwise.forall_of_forall ?_ ?_ inLeft inRight
    · intro lot _ _ started _
      exact mul_self_pos.mpr started
    · exact pairs.imp fun holds same started _ => (holds same started).2
  · refine pairs.imp fun holds same closed => ?_
    by_contra started
    have ahead := (holds same started).2
    rw [closed, mul_zero] at ahead
    exact lt_irrefl _ ahead
  · exact pairs.imp fun holds same started => (holds same started).1
  · intro lot member
    rw [books.lots] at member
    obtain ⟨records, inTrace⟩ := mem_view member
    have sound := books.sound _ (List.mem_map_of_mem inTrace)
    by_cases spent : lot.remainingQuantity.toRat = 0
    · exact Or.inl spent
    · right
      rw [mul_comm]
      exact lt_of_le_of_ne sound.side (mul_ne_zero sound.started spent).symm
  · exact ⟨trace, books.lots, books.records, books.linked, fun entry member =>
      reconciles_of_sound (books.sound _ (List.mem_map_of_mem member))⟩

def samplePosting (transactionID : Uuid) (line : Nat) (key ledgerAccount : String) (unitKind : UnitKind)
    (unit : String) (amount : Int) : Posting :=
  { id := Uuid.ofByte (UInt8.ofNat line)
    transactionID := transactionID
    idempotencyKey := key
    ledgerAccount := ledgerAccount
    unitKind := unitKind
    unit := unit
    amount := Decimal.newFromInt amount
    metadata := emptyObject
    createdAt := ⟨5000000, true⟩ }

def sampleTransactionID (source : UInt8) : Uuid :=
  deterministicUUID "economic-ledger-transaction" [(Uuid.ofByte source).toText, "v1"]

/-- Shares against their price of ten a share. -/
def sampleTrade (source : UInt8) (eventType : EconomicEventType) (quantity seconds : Int) : Transaction :=
  let id := sampleTransactionID source
  { id := id
    accountID := Uuid.ofByte 1
    eventType := eventType.text
    idempotencyKey := "trade"
    originType := "economic_normalization"
    originID := "trade"
    referenceType := "order"
    referenceID := "1"
    effectiveAt := ⟨seconds * 1000000, true⟩
    observedAt := ⟨5000000, true⟩
    metadata := emptyObject
    postings := [
      samplePosting id 1 "inventory" "asset:inventory" .instrument (Uuid.ofByte 2).toText quantity,
      samplePosting id 2 "clearing-inventory" "clearing:trade" .instrument (Uuid.ofByte 2).toText (-quantity),
      samplePosting id 3 "gross-cash" "asset:cash" .currency "USD" (-10 * quantity),
      samplePosting id 4 "clearing-gross-cash" "clearing:trade" .currency "USD" (10 * quantity)]
    createdAt := ⟨5000000, true⟩ }

def sampleMechanics (source : UInt8) (eventType : EconomicEventType) (quantity : Int) : ProjectionMechanics :=
  { normalizationID := EconomicNormalization.normalizationID (Uuid.ofByte source) "v1"
    sourceEventID := Uuid.ofByte source
    transactionID := sampleTransactionID source
    eventType := eventType
    normalizerVersion := "v1"
    executionOriginType := .operator
    executionOriginID := "desk"
    referenceType := "order"
    referenceID := "1"
    venue := "alpaca"
    instrumentID := Uuid.ofByte 2
    secondaryInstrumentID := Uuid.nil
    venueContractID := Uuid.ofByte 3
    optionTermsID := Uuid.nil
    cashCurrency := "USD"
    quantity := some (Decimal.newFromInt quantity)
    price := some (Decimal.newFromInt 10)
    costKind := .unrecognized ""
    costCurrency := ""
    costAmount := none
    positionQuantity := none
    settlementPrice := none
    optionContractType := .unrecognized ""
    strikePrice := none
    deliverableQuantity := none
    primaryMultiplier := Decimal.newFromInt 1
    secondaryMultiplier := Decimal.unset }

def sampleRequest : ProjectionRequest :=
  { accountID := Uuid.ofByte 1
    asOf := ⟨6000000, true⟩
    markSource := "alpaca"
    markNamespace := "close"
    maxMarkAge := 5000000000 }

/-- Three shares and two shares are bought, then four are sold. -/
def sampleInput : ProjectionInput :=
  { request := sampleRequest
    baseCurrency := "USD"
    transactions := [some (sampleTrade 13 .fillSell (-4) 4), some (sampleTrade 12 .fillBuy 2 3),
      some (sampleTrade 11 .fillBuy 3 2)]
    mechanics := [sampleMechanics 11 .fillBuy 3, sampleMechanics 12 .fillBuy 2, sampleMechanics 13 .fillSell 4]
    marks := [] }

def sampleReplay : Outcome ProjectionState := do
  let prepared ← prepareProjection sampleInput
  ProjectionState.replay prepared.currency prepared.mechanics .initial prepared.transactions

theorem sampleReplay_evaluated : (sampleReplay.toOption.any fun state =>
    state.lots.map (·.remainingQuantity.toRat) == [0, 1] && state.lotMatches.length == 2) = true := by
  decide +kernel

theorem reachable_strict_fifo_sale : ∃ state, sampleReplay = .ok state ∧
    state.lots.map (·.remainingQuantity.toRat) = [0, 1] ∧ state.lotMatches.length = 2 ∧ Reachable sampleInput state ∧
    (state.lots.Pairwise fun earlier later => earlier.instrumentID = later.instrumentID →
      earlier.remainingQuantity.toRat ≠ 0 → later.remainingQuantity.toRat = later.quantity.toRat) ∧
    ∀ lot ∈ state.lots, lot.remainingQuantity.toRat = 0 ∨ 0 < lot.remainingQuantity.toRat * lot.quantity.toRat := by
  obtain ⟨state, ok, seen⟩ := ok_of_evaluated sampleReplay_evaluated
  simp only [Bool.and_eq_true, beq_iff_eq] at seen
  obtain ⟨prepared, ready, replayed⟩ := bind_ok_iff.mp ok
  have reachable := reachable_of_replay ready replayed
  obtain ⟨_, _, partly, sides, _⟩ := reachable_strict_fifo reachable
  exact ⟨state, ok, seen.1, seen.2, reachable, partly, sides⟩

end Augr.Ledger
