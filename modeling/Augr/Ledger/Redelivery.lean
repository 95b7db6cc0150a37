import Augr.Ledger.Repeats

/-! A rebuild from transactions of which some are delivered more than once. -/

set_option autoImplicit false

namespace Augr.Ledger

open Foundation Text ProjectionState

variable {extra : Amounts} {marks : List ProjectionMark} {woven : List Transaction} {request : ProjectionRequest}
  {other state : ProjectionState} {currency : String} {extras : List Transaction} {input : ProjectionInput}

/-- Some transactions that the boundary lets through are delivered again, anywhere among the others. -/
structure Redelivers (input : ProjectionInput) (extras : List Transaction) (variant : ProjectionInput) : Prop where
  request : variant.request = input.request
  baseCurrency : variant.baseCurrency = input.baseCurrency
  mechanics : variant.mechanics = input.mechanics
  marks : variant.marks = input.marks
  transactions : Interleaved input.transactions (extras.map some) variant.transactions
  eligible : ∀ t ∈ extras, t ∈ visibleTransactions input.request.asOf.normalize input.transactions

structure SameTotals (left right : ProjectionTotals) : Prop where
  cash : left.cash.toRat = right.cash.toRat
  netCapital : left.netCapital.toRat = right.netCapital.toRat
  fees : left.fees.toRat = right.fees.toRat
  rebates : left.rebates.toRat = right.rebates.toRat
  realizedPnL : left.realizedPnL.toRat = right.realizedPnL.toRat
  unrealizedPnL : left.unrealizedPnL.toRat = right.unrealizedPnL.toRat
  marketValue : left.marketValue.toRat = right.marketValue.toRat
  equity : left.equity.toRat = right.equity.toRat
  totalPnL : left.totalPnL.toRat = right.totalPnL.toRat

structure SameHoldings (left right : PortfolioProjection) : Prop where
  positions : left.positions = right.positions
  lots : left.lots = right.lots
  lotMatches : left.lotMatches = right.lotMatches
  totals : SameTotals left.totals right.totals

/-- The transactions leave the lots alone, and what they add to the totals cancels. -/
structure Idle (currency : String) (extras : List Transaction) : Prop where
  still : ∀ t ∈ extras, t.isStill = true
  cancels : (extras.map (effect currency)).sum = 0

theorem sortTransactions_interleaved {first second : List Transaction} (weave : Interleaved first second woven) :
    Interleaved (sortTransactions first) (sortTransactions second) (sortTransactions woven) := by
  have order : ∀ left right : Transaction, ¬ projectionTransactionLess right left = true ↔
      left.chronology ≤ right.chronology := by
    intro left right
    rw [projectionTransactionLess_iff, not_lt]
  refine weave.insertionSort (fun left right => ¬ projectionTransactionLess right left) ?_ ?_
  · intro a b c
    rw [order, order, order]
    exact le_trans
  · intro a b
    rw [order, order]
    exact le_total _ _

theorem prepareProjection_ok_iff {prepared : Prepared} :
    prepareProjection input = .ok prepared ↔
      normalizeProjectionBoundary input.request input.baseCurrency = .ok (prepared.request, prepared.currency) ∧
      none ∉ input.transactions ∧
      (∀ t ∈ visibleTransactions prepared.request.asOf input.transactions, Admitted prepared.request t) ∧
      visibleTransactions prepared.request.asOf input.transactions ≠ [] ∧
      sortTransactions (visibleTransactions prepared.request.asOf input.transactions) = prepared.transactions ∧
      (∀ row ∈ rowsFor prepared.transactions input.mechanics, row.validate = .ok ()) ∧
      ((rowsFor prepared.transactions input.mechanics).map ProjectionMechanics.transactionID).Nodup ∧
      rowsFor prepared.transactions input.mechanics = prepared.mechanics := by
  obtain ⟨request, currency, transactions, mechanics⟩ := prepared
  simp only [prepareProjection, returns_iff, eligibleTransactions_ok_iff, Prod.exists, eligibleProjectionMechanics_ok_iff,
    Prepared.mk.injEq]
  constructor
  · rintro ⟨_, _, boundary, _, ⟨whole, admitted, rfl⟩, found, _, ⟨valid, distinct, same⟩, rfl, rfl, rfl, rfl⟩
    exact ⟨boundary, whole, admitted, by simpa using found, rfl, valid, distinct, same⟩
  · rintro ⟨boundary, whole, admitted, found, rfl, valid, distinct, same⟩
    exact ⟨_, _, boundary, _, ⟨whole, admitted, rfl⟩, by simpa using found, _, ⟨valid, distinct, same⟩, rfl, rfl, rfl, rfl⟩

theorem rowsFor_congr {left right : List Transaction} (rows : List ProjectionMechanics)
    (same : ∀ t, t ∈ left ↔ t ∈ right) : rowsFor left rows = rowsFor right rows := by
  have ids : ∀ row : ProjectionMechanics, (left.any fun t => t.id == row.transactionID) =
      right.any fun t => t.id == row.transactionID := by
    intro row
    rw [Bool.eq_iff_iff, List.any_eq_true, List.any_eq_true]
    exact exists_congr fun t => by rw [same]
  simp only [rowsFor, ids]

theorem normalizeProjectionBoundary_asOf {normal : ProjectionRequest} {baseCurrency : String}
    (ok : normalizeProjectionBoundary request baseCurrency = .ok (normal, currency)) :
    normal.asOf = request.asOf.normalize ∧ currency = toUpper (trimSpace baseCurrency) := by
  simp only [normalizeProjectionBoundary, failIf_bind_ok_iff, pure_ok_iff, Prod.mk.injEq] at ok
  obtain ⟨_, _, _, rfl, rfl⟩ := ok
  exact ⟨rfl, rfl⟩

theorem visible_interleaved {variant : ProjectionInput} (again : Redelivers input extras variant) :
    Interleaved (visibleTransactions input.request.asOf.normalize input.transactions) extras
      (visibleTransactions input.request.asOf.normalize variant.transactions) := by
  have all : (extras.map some).reduceOption.filter (fun t => !isFuture input.request.asOf.normalize t) = extras := by
    rw [List.reduceOption, List.filterMap_map, Function.id_comp, List.filterMap_some, List.filter_eq_self]
    intro t member
    exact (List.mem_filter.mp (again.eligible t member)).2
  have woven := (again.transactions.filterMap id).filter fun t => !isFuture input.request.asOf.normalize t
  rw [← List.reduceOption, all] at woven
  exact woven

theorem prepareProjection_redelivered {variant : ProjectionInput} (again : Redelivers input extras variant)
    {later : Prepared} (ready : prepareProjection variant = .ok later) :
    ∃ earlier, prepareProjection input = .ok earlier ∧ earlier.request = later.request ∧
      earlier.currency = later.currency ∧ earlier.mechanics = later.mechanics ∧
      later.currency = toUpper (trimSpace input.baseCurrency) ∧
      Interleaved earlier.transactions (sortTransactions extras) later.transactions := by
  obtain ⟨boundary, whole, admitted, found, sorted, valid, distinct, rows⟩ := prepareProjection_ok_iff.mp ready
  rw [again.request, again.baseCurrency] at boundary
  obtain ⟨asOf, currency⟩ := normalizeProjectionBoundary_asOf boundary
  have woven := visible_interleaved again
  rw [← asOf] at woven
  have eligible := again.eligible
  rw [← asOf] at eligible
  have same : ∀ t, t ∈ visibleTransactions later.request.asOf variant.transactions ↔
      t ∈ visibleTransactions later.request.asOf input.transactions := by
    intro t
    rw [woven.mem_iff]
    exact or_iff_left_of_imp (eligible t)
  have sortedSame : ∀ t, t ∈ later.transactions ↔
      t ∈ sortTransactions (visibleTransactions later.request.asOf input.transactions) := by
    intro t
    rw [← sorted, sortTransactions, sortTransactions, List.mem_insertionSort, List.mem_insertionSort, same]
  rw [again.mechanics, rowsFor_congr _ sortedSame] at valid distinct rows
  refine ⟨⟨later.request, later.currency, sortTransactions (visibleTransactions later.request.asOf input.transactions),
    later.mechanics⟩, prepareProjection_ok_iff.mpr ⟨boundary, ?_, ?_, ?_, rfl, valid, distinct, rows⟩, rfl, rfl, rfl,
    currency, ?_⟩
  · exact fun member => whole ((again.transactions.mem_iff none).mpr (.inl member))
  · exact fun t member => admitted t ((same t).mpr member)
  · intro none
    apply found
    rw [List.eq_nil_iff_forall_not_mem] at none ⊢
    exact fun t member => none t ((same t).mp member)
  · rw [← sorted]
    exact sortTransactions_interleaved woven

theorem Beside.valueInstrument (beside : Beside extra state other) : other.valueInstrument = state.valueInstrument := by
  have position : other.closedPosition = state.closedPosition := by
    funext instrumentID
    simp only [closedPosition, instrumentLots, beside.lots, beside.lotMatches]
  have worth : other.marketValue = state.marketValue := by
    funext instrumentID price
    simp only [ProjectionState.marketValue, instrumentLots, beside.lots]
  funext request selected sofar instrumentID
  unfold ProjectionState.valueInstrument
  rw [position, worth]

theorem Beside.totals (beside : Beside extra state other) (valuation : ProjectionState.Valuation) :
    SameTotals (state.totals valuation) (other.totals valuation) ↔ extra = 0 := by
  have amounts := beside.amounts
  constructor
  · intro same
    obtain ⟨cash, netCapital, fees, rebates, realized, _, _, _, _⟩ := same
    have equal : other.amounts = state.amounts := by
      simp only [ProjectionState.amounts]
      exact (congrArg₂ Prod.mk cash (congrArg₂ Prod.mk netCapital
        (congrArg₂ Prod.mk fees (congrArg₂ Prod.mk rebates realized)))).symm
    rw [equal] at amounts
    exact (left_eq_add.mp amounts)
  · rintro rfl
    rw [add_zero] at amounts
    simp only [ProjectionState.amounts, Prod.mk.injEq] at amounts
    obtain ⟨cash, netCapital, fees, rebates, realized⟩ := amounts
    constructor <;> simp only [ProjectionState.totals, Decimal.toRat_sub, Decimal.toRat_add, cash, netCapital, fees, rebates,
      realized]

theorem finalize_beside (beside : Beside extra state other) {trace : Trace} (books : Books state trace)
    (conserved : Conserved state trace) {candidates : List (Option MarkObservation)}
    {positions : List ProjectionPosition} {later : ProjectionTotals}
    (final : other.finalize request currency candidates = .ok (marks, positions, later)) :
    ∃ earlier, state.finalize request currency candidates = .ok (marks, positions, earlier) ∧
      (SameTotals earlier later ↔ extra = 0) := by
  simp only [finalize, beside.valueInstrument, beside.activity, returns_iff, Prod.mk.injEq] at final ⊢
  obtain ⟨selected, chosen, valuation, valued, _, rfl, rfl, rfl⟩ := final
  refine ⟨state.totals valuation, ⟨selected, chosen, valuation, valued, ?_, rfl, rfl, rfl⟩, beside.totals valuation⟩
  have equation := totals_equation books conserved valued
  rw [← Decimal.toRat_add, ← Decimal.equal_iff] at equation
  rw [equation]
  rfl

theorem projectionInputChecksum_redelivered {checksum : String} {transactions : List Transaction}
    {mechanics : MechanicsMap} (within : ∀ t ∈ transactions, t ∈ woven)
    (ok : projectionInputChecksum request currency woven mechanics marks = .ok checksum) :
    ∃ earlier, projectionInputChecksum request currency transactions mechanics marks = .ok earlier := by
  simp only [projectionInputChecksum, bind_ok_iff] at ok ⊢
  obtain ⟨rows, spelt, markRows, marked, _⟩ := ok
  have all := mapM_succeeds_iff.mp ⟨rows, spelt⟩
  obtain ⟨fewer, speltFewer⟩ := mapM_succeeds_iff.mpr fun t member => all t (within t member)
  exact ⟨_, fewer, speltFewer, markRows, marked, rfl⟩

def PortfolioProjection.finalized (projection : PortfolioProjection) :
    List ProjectionMark × List ProjectionPosition × ProjectionTotals :=
  (projection.marks, projection.positions, projection.totals)

theorem buildPortfolioProjection_ok_iff {parts : List ProjectionMark × List ProjectionPosition × ProjectionTotals}
    {lots : List ProjectionLot} {lotMatches : List ProjectionMatch} :
    (∃ projection, buildPortfolioProjection input = .ok projection ∧ projection.finalized = parts ∧
      projection.lots = lots ∧ projection.lotMatches = lotMatches) ↔
    ∃ prepared state checksum rows, prepareProjection input = .ok prepared ∧
      replay prepared.currency prepared.mechanics .initial prepared.transactions = .ok state ∧
      state.finalize prepared.request prepared.currency input.marks = .ok parts ∧
      projectionInputChecksum prepared.request prepared.currency prepared.transactions prepared.mechanics parts.1 =
        .ok checksum ∧
      parts.1.mapM canonicalMark = .ok rows ∧ state.lots = lots ∧ state.lotMatches = lotMatches := by
  simp only [buildPortfolioProjection, marshalProjectionPayload, bind_ok_iff]
  constructor
  · rintro ⟨_, ⟨prepared, ready, state, replayed, _, final, checksum, summed, _, ⟨rows, marked, _⟩, ⟨⟩⟩, rfl, rfl, rfl⟩
    exact ⟨prepared, state, checksum, rows, ready, replayed, final, summed, marked, rfl, rfl⟩
  · rintro ⟨prepared, state, checksum, rows, ready, replayed, final, summed, marked, rfl, rfl⟩
    exact ⟨_, ⟨prepared, ready, state, replayed, _, final, checksum, summed, _, ⟨rows, marked, rfl⟩, rfl⟩, rfl, rfl, rfl⟩

section

variable {input variant : ProjectionInput} {extras : List Transaction} {later : PortfolioProjection}

theorem buildPortfolioProjection_still (again : Redelivers input extras variant)
    (still : ∀ t ∈ extras, t.isStill = true) (built : buildPortfolioProjection variant = .ok later) :
    ∃ earlier, buildPortfolioProjection input = .ok earlier ∧ earlier.positions = later.positions ∧
      earlier.lots = later.lots ∧ earlier.lotMatches = later.lotMatches ∧
      (SameTotals earlier.totals later.totals ↔
        (extras.map (effect (toUpper (trimSpace input.baseCurrency)))).sum = 0) := by
  obtain ⟨prepared, after, _, rows, ready, replayed, final, summed, marked, lots, lotMatches⟩ :=
    buildPortfolioProjection_ok_iff.mp ⟨later, built, rfl, rfl, rfl⟩
  obtain ⟨fewer, readyFewer, request, currency, mechanics, base, woven⟩ := prepareProjection_redelivered again ready
  have sorted : (sortTransactions extras).Perm extras := List.perm_insertionSort _ _
  have start : Beside 0 ProjectionState.initial ProjectionState.initial := ⟨rfl, rfl, rfl, (add_zero _).symm⟩
  obtain ⟨state, replayedFewer, beside⟩ := replay_interleaved woven
    (fun t member => still t (sorted.mem_iff.mp member)) start replayed
  rw [(sorted.map _).sum_eq, zero_add, base] at beside
  rw [← currency, ← mechanics] at replayedFewer
  obtain ⟨trace, books, conserved⟩ := (reachable_of_replay readyFewer replayedFewer).kept
  rw [again.marks, ← request, ← currency] at final
  obtain ⟨totals, finalFewer, same⟩ := finalize_beside beside books conserved final
  rw [← request, ← currency, ← mechanics] at summed
  obtain ⟨checksum, summedFewer⟩ :=
    projectionInputChecksum_redelivered (fun t member => (woven.mem_iff t).mpr (.inl member)) summed
  obtain ⟨earlier, builtFewer, parts, lots', matches'⟩ := buildPortfolioProjection_ok_iff.mpr
    ⟨_, state, checksum, rows, readyFewer, replayedFewer, finalFewer, summedFewer, marked, rfl, rfl⟩
  obtain ⟨_, positions', rfl⟩ : _ ∧ _ ∧ earlier.totals = totals := by simpa [PortfolioProjection.finalized] using parts
  exact ⟨earlier, builtFewer, positions', lots'.trans (beside.lots.symm.trans lots),
    matches'.trans (beside.lotMatches.symm.trans lotMatches), same⟩

/-- A repeated fill or settlement shows in the lots or in the matches. -/
theorem still_of_same_lots (again : Redelivers input extras variant) {earlier : PortfolioProjection}
    (built : buildPortfolioProjection variant = .ok later) (builtFewer : buildPortfolioProjection input = .ok earlier)
    (lots : earlier.lots = later.lots) (lotMatches : earlier.lotMatches = later.lotMatches) :
    ∀ t ∈ extras, t.isStill = true := by
  obtain ⟨prepared, after, _, _, ready, replayed, _, _, _, lotsAfter, matchesAfter⟩ :=
    buildPortfolioProjection_ok_iff.mp ⟨later, built, rfl, rfl, rfl⟩
  obtain ⟨fewer, state, _, _, readyFewer, replayedFewer, _, _, _, lotsBefore, matchesBefore⟩ :=
    buildPortfolioProjection_ok_iff.mp ⟨earlier, builtFewer, rfl, rfl, rfl⟩
  obtain ⟨_, readyAgain, _, _, mechanics, _, woven⟩ := prepareProjection_redelivered again ready
  obtain rfl := Except.ok.inj (readyFewer.symm.trans readyAgain)
  have valid := prepareProjection_valid ready
  obtain ⟨total, sizes⟩ := replay_turnover valid replayed
  obtain ⟨totalFewer, _⟩ := replay_turnover (prepareProjection_valid readyFewer) replayedFewer
  have turnover : after.turnover = state.turnover := by
    simp only [ProjectionState.turnover, lotsAfter, matchesAfter, lotsBefore, matchesBefore, lots, lotMatches]
  rw [mechanics] at totalFewer
  have added : ((sortTransactions extras).map (handledBy prepared.mechanics)).sum = 0 := by
    have split := woven.sum (handledBy prepared.mechanics)
    linarith
  have sorted : (sortTransactions extras).Perm extras := List.perm_insertionSort _ _
  have delivered : ∀ t ∈ sortTransactions extras, t ∈ prepared.transactions :=
    fun t member => (woven.mem_iff t).mpr (.inr member)
  have nonneg : ∀ size ∈ (sortTransactions extras).map (handledBy prepared.mechanics), 0 ≤ size := by
    intro size member
    obtain ⟨t, here, rfl⟩ := List.mem_map.mp member
    exact (sizes t (delivered t here)).1
  intro t member
  have here : t ∈ sortTransactions extras := sorted.mem_iff.mpr member
  apply (sizes t (delivered t here)).2.mp
  exact List.all_zero_of_le_zero_le_of_sum_eq_zero nonneg added (List.mem_map_of_mem here)

/-- Nothing in the rebuild notices that a transaction is there twice: the result is the same
exactly when the repeated transactions leave the lots alone and add nothing between them. -/
theorem redelivery_unnoticed_iff (again : Redelivers input extras variant)
    (built : buildPortfolioProjection variant = .ok later) :
    (∃ earlier, buildPortfolioProjection input = .ok earlier ∧ SameHoldings earlier later) ↔
      Idle (toUpper (trimSpace input.baseCurrency)) extras := by
  constructor
  · rintro ⟨earlier, builtFewer, same⟩
    have still := still_of_same_lots again built builtFewer same.lots same.lotMatches
    obtain ⟨known, builtKnown, _, _, _, totals⟩ := buildPortfolioProjection_still again still built
    obtain rfl := Except.ok.inj (builtFewer.symm.trans builtKnown)
    exact ⟨still, totals.mp same.totals⟩
  · rintro ⟨still, cancels⟩
    obtain ⟨earlier, builtFewer, positions, lots, lotMatches, totals⟩ := buildPortfolioProjection_still again still built
    exact ⟨earlier, builtFewer, positions, lots, lotMatches, totals.mpr cancels⟩

end

def sampleFlow (id : Uuid) (eventType : String) (amount : Int) : Transaction :=
  { id := id
    accountID := Uuid.ofByte 1
    eventType := eventType
    idempotencyKey := "flow"
    originType := "operator"
    originID := "desk"
    referenceType := "wire"
    referenceID := "1"
    effectiveAt := ⟨2000000, true⟩
    observedAt := ⟨5000000, true⟩
    metadata := emptyObject
    postings := [
      samplePosting id 1 "cash" "asset:cash" .currency "USD" amount,
      samplePosting id 2 "capital" "equity:capital" .currency "USD" (-amount)]
    createdAt := ⟨5000000, true⟩ }

def sampleDeposit : Transaction := sampleFlow (Uuid.ofByte 40) "capital_flow.deposit" 10

def sampleWithdrawal : Transaction := sampleFlow (Uuid.ofByte 41) "capital_flow.withdrawal" (-10)

def sampleFlows (transactions : List Transaction) : ProjectionInput :=
  { request := sampleRequest
    baseCurrency := "USD"
    transactions := transactions.map some
    mechanics := []
    marks := [] }

theorem sampleFlows_redelivered {transactions : List Transaction} (weave : Interleaved transactions extras woven)
    (visible : ∀ t ∈ transactions, isFuture sampleRequest.asOf.normalize t = false)
    (within : ∀ t ∈ extras, t ∈ transactions) : Redelivers (sampleFlows transactions) extras (sampleFlows woven) := by
  refine ⟨rfl, rfl, rfl, rfl, ?_, ?_⟩
  · simp only [sampleFlows, ← List.filterMap_eq_map]
    exact weave.filterMap _
  · intro t member
    have listed : visibleTransactions sampleRequest.asOf.normalize (transactions.map some) =
        transactions.filter fun t => !isFuture sampleRequest.asOf.normalize t := by
      rw [visibleTransactions, List.reduceOption, List.filterMap_map, Function.id_comp, List.filterMap_some]
    change t ∈ visibleTransactions sampleRequest.asOf.normalize (transactions.map some)
    rw [listed, List.mem_filter, visible t (within t member)]
    exact ⟨within t member, rfl⟩

theorem sampleFlows_evaluated :
    (buildPortfolioProjection
      (sampleFlows [sampleDeposit, sampleDeposit, sampleWithdrawal, sampleWithdrawal])).toOption.any (fun _ => true) = true := by
  decide

/-- A deposit and a withdrawal of the same amount, both repeated, cancel. -/
theorem deposit_and_withdrawal_unnoticed : ∃ earlier later,
    buildPortfolioProjection (sampleFlows [sampleDeposit, sampleWithdrawal]) = .ok earlier ∧
    buildPortfolioProjection (sampleFlows [sampleDeposit, sampleDeposit, sampleWithdrawal, sampleWithdrawal]) = .ok later ∧
    SameHoldings earlier later := by
  obtain ⟨later, built, _⟩ := ok_of_evaluated sampleFlows_evaluated
  have weave : Interleaved [sampleDeposit, sampleWithdrawal] [sampleDeposit, sampleWithdrawal]
      [sampleDeposit, sampleDeposit, sampleWithdrawal, sampleWithdrawal] :=
    .left _ (.right _ (.left _ (.right _ .nil)))
  have again := sampleFlows_redelivered weave (by decide) fun _ member => member
  have idle : Idle (toUpper (trimSpace "USD")) [sampleDeposit, sampleWithdrawal] :=
    ⟨by decide, by decide +kernel⟩
  obtain ⟨earlier, builtFewer, same⟩ := (redelivery_unnoticed_iff again built).mpr idle
  exact ⟨earlier, later, builtFewer, built, same⟩

/-- The second copy of a deposit is counted as cash and as capital. -/
theorem repeated_deposit_counted_twice : ∃ earlier later,
    Redelivers (sampleFlows [sampleDeposit]) [sampleDeposit] (sampleFlows [sampleDeposit, sampleDeposit]) ∧
    buildPortfolioProjection (sampleFlows [sampleDeposit]) = .ok earlier ∧
    buildPortfolioProjection (sampleFlows [sampleDeposit, sampleDeposit]) = .ok later ∧
    earlier.totals.cash.toRat = 10 ∧ later.totals.cash.toRat = 20 ∧ ¬ SameHoldings earlier later := by
  have once : (buildPortfolioProjection (sampleFlows [sampleDeposit])).toOption.any
      (fun projection => projection.totals.cash.toRat == 10) = true := by
    decide +kernel
  have twice : (buildPortfolioProjection (sampleFlows [sampleDeposit, sampleDeposit])).toOption.any
      (fun projection => projection.totals.cash.toRat == 20) = true := by
    decide +kernel
  obtain ⟨earlier, builtOnce, ten⟩ := ok_of_evaluated once
  obtain ⟨later, builtTwice, twenty⟩ := ok_of_evaluated twice
  rw [beq_iff_eq] at ten twenty
  have again := sampleFlows_redelivered (.left sampleDeposit (.right sampleDeposit .nil)) (by decide) fun _ member => member
  refine ⟨earlier, later, again, builtOnce, builtTwice, ten, twenty, ?_⟩
  intro same
  have cash := same.totals.cash
  rw [ten, twenty] at cash
  exact absurd cash (by decide)

end Augr.Ledger
