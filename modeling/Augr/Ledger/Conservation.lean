import Augr.Foundation.Scan
import Augr.Ledger.Books
import Augr.Ledger.Projection
import Mathlib.Algebra.BigOperators.Group.Finset.Piecewise

/-! The accounting equation of a projection.

Cash is net capital plus realised results plus the cash still invested in lots. A
position without net quantity has no open lot, hence no invested cash, so the
positions that are valued carry all of it.
-/

set_option autoImplicit false

namespace Augr.Ledger

open Foundation ProjectionState

variable {input : ProjectionInput} {request : ProjectionRequest} {state : ProjectionState} {selected : SelectedMarks}
  {trace : Trace}

theorem addMechanics_valid {transactions : List Transaction} {result after : MechanicsMap}
    {row : ProjectionMechanics} (valid : result.Valid) (ok : addMechanics transactions result row = .ok after) :
    after.Valid := by
  simp only [addMechanics] at ok
  split at ok
  · cases ok
    exact valid
  · simp only [returns_iff] at ok
    obtain ⟨rowValid, _, rfl⟩ := ok
    exact forall_mem_concat valid rowValid

theorem eligibleProjectionMechanics_valid {candidates : List ProjectionMechanics} {transactions : List Transaction}
    {mechanics : MechanicsMap} (ok : eligibleProjectionMechanics candidates transactions = .ok mechanics) :
    mechanics.Valid := by
  refine foldlM_preserves MechanicsMap.Valid (fun _ _ _ valid => addMechanics_valid valid) ?_ ok
  exact fun _ member => absurd member List.not_mem_nil

theorem prepareProjection_valid {prepared : Prepared} (ok : prepareProjection input = .ok prepared) :
    prepared.mechanics.Valid := by
  simp only [prepareProjection, bind_ok_iff] at ok
  obtain ⟨⟨request, currency⟩, _, transactions, _, _, _, mechanics, eligible, same⟩ := ok
  cases same
  exact eligibleProjectionMechanics_valid eligible

/-- The states the replay loop of a rebuild goes through: after each of its prefixes. -/
def Reachable (input : ProjectionInput) (state : ProjectionState) : Prop :=
  ∃ prepared count, prepareProjection input = .ok prepared ∧
    replay prepared.currency prepared.mechanics .initial (prepared.transactions.take count) = .ok state

theorem Reachable.kept (reachable : Reachable input state) : ∃ trace, Books state trace ∧ Conserved state trace := by
  obtain ⟨prepared, count, ok, replayed⟩ := reachable
  refine replay_kept (prepareProjection_valid ok) Books.initial ?_ replayed
  simp [Conserved, ProjectionState.initial, Trace.view, Fifo.heldCost]

theorem toRat_sumDecimals {α : Type} (amount : α → Decimal) (items : List α) :
    (sumDecimals amount items).toRat = (items.map fun item => (amount item).toRat).sum := by
  have general : ∀ start : Decimal, (items.foldl (fun total item => total.add (amount item)) start).toRat =
      start.toRat + (items.map fun item => (amount item).toRat).sum := by
    induction items with
    | nil => simp
    | cons item rest ih =>
      intro start
      rw [List.foldl_cons, ih, List.map_cons, List.sum_cons, Decimal.toRat_add]
      ring
  rw [sumDecimals, general, Decimal.toRat_unset, zero_add]

theorem sum_by_instrument {ids : List Uuid} (distinct : ids.Nodup) {lots : List ProjectionLot}
    (active : ∀ lot ∈ lots, lot.instrumentID ∈ ids) (amount : ProjectionLot → ℚ) :
    (ids.map fun id => ((lots.filter fun lot => lot.instrumentID == id).map amount).sum).sum =
      (lots.map amount).sum := by
  have once {id : Uuid} (value : ℚ) (member : id ∈ ids) : (ids.map fun other => if id = other then value else 0).sum = value := by
    rw [← List.sum_toFinset _ distinct, Finset.sum_ite_eq, if_pos (List.mem_toFinset.mpr member)]
  simp only [sum_of_instrument]
  induction lots with
  | nil => simp
  | cons lot rest ih =>
    rw [List.forall_mem_cons] at active
    simp only [List.map_cons, List.sum_cons, List.sum_map_add, ih active.2, once _ active.1]

def ProjectionState.investedIn (state : ProjectionState) (instrumentID : Uuid) : ℚ :=
  (state.closedPosition instrumentID).remainingOpeningCash.toRat

theorem Books.invested (books : Books state trace) :
    (state.activity.map state.investedIn).sum = Fifo.heldCost trace.view := by
  have total := sum_by_instrument books.distinct books.active fun lot => lot.remainingOpeningCash.toRat
  simp only [books.lots] at total
  unfold investedIn
  simp only [closedPosition, toRat_sumDecimals, instrumentLots, books.lots, total]
  simp only [Trace.lots, Trace.view, Fifo.heldCost, List.map_map, Function.comp_def, TracedLot.view]

theorem Books.quantity (books : Books state trace) (id : Uuid) :
    (state.closedPosition id).quantity.toRat = Fifo.net id trace.view := by
  simp only [closedPosition, toRat_sumDecimals, instrumentLots, books.lots,
    net_view]

theorem Books.invested_closed (books : Books state trace) {id : Uuid}
    (closed : (state.closedPosition id).isOpen = false) : state.investedIn id = 0 := by
  have balanced : Fifo.net id trace.view = 0 := by
    rw [← books.quantity id]
    simpa [closedPosition] using closed
  have settled := books.ordered.settled balanced
  simp only [investedIn, closedPosition, toRat_sumDecimals,
    instrumentLots, books.lots]
  refine List.sum_eq_zero fun amount member => ?_
  obtain ⟨lot, kept, same⟩ := List.mem_map.mp member
  obtain ⟨listed, keyed⟩ := List.mem_filter.mp kept
  obtain ⟨entry, traced, isLot⟩ := List.mem_map.mp listed
  have viewed : TracedLot.view entry ∈ trace.view := List.mem_map_of_mem traced
  subst isLot same
  exact (books.sound _ viewed).empty (settled _ viewed (beq_iff_eq.mp keyed))

theorem valueInstrument_adds (books : Books state trace) {sofar after : ProjectionState.Valuation} {id : Uuid}
    (ok : state.valueInstrument request selected sofar id = .ok after) :
    after.unrealized.toRat - after.marketValue.toRat =
      sofar.unrealized.toRat - sofar.marketValue.toRat + state.investedIn id := by
  simp only [valueInstrument] at ok
  split at ok
  · rename_i closed
    cases ok
    rw [books.invested_closed (by simpa using closed), add_zero]
  · split at ok
    · cases ok
    · cases ok
      simp only [investedIn, Decimal.toRat_add]
      ring

theorem valuation_adds (books : Books state trace) {ids : List Uuid} {sofar after : ProjectionState.Valuation}
    (ok : ids.foldlM (state.valueInstrument request selected) sofar = .ok after) :
    after.unrealized.toRat - after.marketValue.toRat =
      sofar.unrealized.toRat - sofar.marketValue.toRat + (ids.map state.investedIn).sum := by
  induction ids generalizing sofar with
  | nil =>
    cases ok
    simp
  | cons id rest ih =>
    simp only [List.foldlM_cons, bind_ok_iff] at ok
    obtain ⟨next, valued, others⟩ := ok
    rw [ih others, valueInstrument_adds books valued, List.map_cons, List.sum_cons]
    ring

theorem sortByText_perm {α : Type} (text : α → String) (items : List α) :
    (sortByText text items).Perm items :=
  List.perm_insertionSort _ _

theorem totals_equation (books : Books state trace) (conserved : Conserved state trace)
    {valuation : ProjectionState.Valuation}
    (ok : (sortByText Uuid.toText state.activity).foldlM (state.valueInstrument request selected)
      ⟨[], [], .zero, .zero⟩ = .ok valuation) :
    (state.totals valuation).realizedPnL.toRat + (state.totals valuation).unrealizedPnL.toRat =
      (state.totals valuation).totalPnL.toRat := by
  have valued := valuation_adds books ok
  rw [((sortByText_perm Uuid.toText state.activity).map state.investedIn).sum_eq, books.invested] at valued
  simp only [Decimal.toRat_zero, sub_zero, zero_add] at valued
  simp only [ProjectionState.totals, Decimal.toRat_sub, Decimal.toRat_add]
  unfold Conserved at conserved
  linarith

/-- Any error but the violated equation. -/
def OtherFault (fault : Fault) : Prop :=
  ∀ operands, fault ≠ .errorf "projection P&L equation failed: realized %s + unrealized %s != total %s" operands

theorem other_errorf {format : String} {operands : List String}
    (different : format ≠ "projection P&L equation failed: realized %s + unrealized %s != total %s") :
    OtherFault (.errorf format operands) := by
  intro others same
  cases same
  exact different rfl

theorem other_wrapf {format : String} {operands : List String} {cause : Fault} :
    OtherFault (.wrapf format operands cause) := by
  intro others same
  cases same

theorem other_nil {pointer : String} : OtherFault (.nilDereference pointer) := by
  intro others same
  cases same

theorem other_then {α : Type} {condition : Bool} {format : String} {operands : List String} {next : Unit → Outcome α}
    (different : format ≠ "projection P&L equation failed: realized %s + unrealized %s != total %s")
    (rest : FaultsIn OtherFault (next ())) : FaultsIn OtherFault (failIf condition (.errorf format operands) >>= next) :=
  .bind (.failIf (other_errorf different)) fun _ => rest

theorem prepareProjection_other (input : ProjectionInput) : FaultsIn OtherFault (prepareProjection input) := by
  have transaction : ∀ request candidate, FaultsIn OtherFault (eligibleTransaction request candidate) := by
    intro request candidate
    unfold eligibleTransaction
    split
    · exact .error (other_errorf (by decide))
    · split
      · exact .ok _
      · exact .bind (.wrapping fun _ => other_wrapf) fun _ =>
          other_then (by decide) <| .pure _
  have row : ∀ transactions result mechanics, FaultsIn OtherFault (addMechanics transactions result mechanics) := by
    intro transactions result mechanics
    unfold addMechanics
    split
    · exact .ok _
    · exact .bind (.wrapping fun _ => other_wrapf) fun _ =>
        other_then (by decide) <| .pure _
  refine .bind ?_ fun boundary => .bind (.bind (.mapM (transaction _)) fun _ => .pure _) fun kept =>
    other_then (by decide) <| .bind (.foldlM (row _)) fun _ => .pure _
  exact other_then (by decide) <| other_then (by decide) <|
    other_then (by decide) <| .pure _

theorem projectionInstrumentMovement_other (transaction : Transaction) (key : String) (instrumentID : Uuid) :
    FaultsIn OtherFault (projectionInstrumentMovement transaction key instrumentID) := by
  unfold projectionInstrumentMovement
  split
  · exact .error (other_errorf (by decide))
  · exact other_then (by decide) <| .pure _

theorem applyMovement_other (state : ProjectionState) (m : Movement) (exact : Bool) :
    FaultsIn OtherFault (state.applyMovement m exact) :=
  other_then (by decide) <| other_then (by decide) <|
    other_then (by decide) <| .pure _

theorem applyEconomicTransaction_other (state : ProjectionState) (transaction : Transaction)
    (mechanics : ProjectionMechanics) (cash : Decimal) :
    FaultsIn OtherFault (state.applyEconomicTransaction transaction mechanics cash) := by
  have fill : FaultsIn OtherFault (state.applyFill transaction mechanics cash) :=
    .bind (projectionInstrumentMovement_other _ _ _) fun _ => other_then (by decide) <|
      .bind (.deref other_nil) fun _ => other_then (by decide) <|
      .bind (.deref other_nil) fun _ => other_then (by decide) <| applyMovement_other _ _ _
  have cost : FaultsIn OtherFault (state.applyCost transaction mechanics cash) :=
    other_then (by decide) <| other_then (by decide) <|
      .bind (.deref other_nil) fun _ => other_then (by decide) <| .pure _
  have settlement : FaultsIn OtherFault (state.applySettlement transaction mechanics cash) :=
    .bind (projectionInstrumentMovement_other _ _ _) fun _ => .bind (.deref other_nil) fun _ =>
      .bind (.deref other_nil) fun _ => other_then (by decide) <| applyMovement_other _ _ _
  have physical : FaultsIn OtherFault (state.applyPhysicalOption transaction mechanics cash) :=
    .bind (projectionInstrumentMovement_other _ _ _) fun _ => .bind (projectionInstrumentMovement_other _ _ _) fun _ =>
      .bind (.deref other_nil) fun _ => .bind (.deref other_nil) fun _ => .bind (.deref other_nil) fun _ =>
      other_then (by decide) <| other_then (by decide) <|
      applyMovement_other _ _ _
  refine other_then (by decide) ?_
  split
  · exact fill
  · exact fill
  · exact cost
  · exact cost
  · exact settlement
  · exact settlement
  · exact settlement
  · exact physical
  · exact physical
  · exact .error (other_errorf (by decide))

theorem projectionCashAndCosts_other (transaction : Transaction) (currency : String) :
    FaultsIn OtherFault (projectionCashAndCosts transaction currency) := by
  refine .foldlM fun totals posting => other_then (by decide) ?_
  repeat' split
  all_goals first
    | exact other_then (by decide) <| .pure _
    | exact .pure _

theorem replayTransaction_other (currency : String) (mechanics : MechanicsMap) (state : ProjectionState)
    (transaction : Transaction) :
    FaultsIn OtherFault (replayTransaction currency mechanics state transaction) := by
  refine .bind (projectionCashAndCosts_other transaction currency) fun (cash, fees, rebates) => ?_
  dsimp only
  split
  · exact other_then (by decide) <| other_then (by decide) <|
      other_then (by decide) <| .pure _
  · unfold applyEconomic
    split
    · exact .error (other_errorf (by decide))
    · exact other_then (by decide) <| other_then (by decide) <|
        applyEconomicTransaction_other _ _ _ _

theorem selectMarks_other (request : ProjectionRequest) (currency : String)
    (candidates : List (Option MarkObservation)) : FaultsIn OtherFault (selectMarks request currency candidates) := by
  refine .foldlM fun selected candidate => ?_
  unfold selectMark
  split
  · exact .error (other_errorf (by decide))
  · refine .bind (.wrapping fun _ => other_wrapf) fun _ => ?_
    split
    · exact .pure _
    · split <;> exact .pure _

theorem valueInstrument_other (state : ProjectionState) (request : ProjectionRequest) (selected : SelectedMarks)
    (sofar : ProjectionState.Valuation) (id : Uuid) :
    FaultsIn OtherFault (state.valueInstrument request selected sofar id) := by
  unfold valueInstrument
  dsimp only
  split
  · exact .ok _
  · split
    · exact .error (other_errorf (by decide))
    · exact .ok _

theorem finalize_other (books : Books state trace) (conserved : Conserved state trace) (request : ProjectionRequest)
    (currency : String) (candidates : List (Option MarkObservation)) :
    FaultsIn OtherFault (state.finalize request currency candidates) := by
  intro fault failed
  unfold finalize at failed
  cases chosen : selectMarks request currency candidates with
  | error other =>
    rw [chosen] at failed
    cases failed
    exact selectMarks_other _ _ _ _ chosen
  | ok selected =>
    rw [chosen, ok_bind] at failed
    cases valued : (sortByText Uuid.toText state.activity).foldlM
        (state.valueInstrument request selected) ⟨[], [], .zero, .zero⟩ with
    | error other =>
      rw [valued] at failed
      cases failed
      exact FaultsIn.foldlM (valueInstrument_other _ _ _) _ valued
    | ok valuation =>
      have equation := totals_equation books conserved valued
      rw [← Decimal.toRat_add, ← Decimal.equal_iff] at equation
      rw [valued, ok_bind] at failed
      dsimp only at failed
      rw [equation] at failed
      cases failed

theorem canonicalJSON_other (raw : RawMessage) : FaultsIn OtherFault (canonicalJSON raw) := by
  unfold canonicalJSON
  split
  · exact .error (other_errorf (by decide))
  · exact other_then (by decide) <| .pure _

theorem canonicalMark_other (mark : ProjectionMark) : FaultsIn OtherFault (canonicalMark mark) :=
  .bind (canonicalJSON_other _) fun _ => .pure _

theorem projectionInputChecksum_other (request : ProjectionRequest) (currency : String)
    (transactions : List Transaction) (mechanics : MechanicsMap) (marks : List ProjectionMark) :
    FaultsIn OtherFault (projectionInputChecksum request currency transactions mechanics marks) := by
  refine .bind (.mapM fun transaction => ?_) fun _ => .bind (.mapM canonicalMark_other) fun _ => .pure _
  exact .bind (canonicalJSON_other _) fun _ =>
    .bind (.mapM fun _ => .bind (canonicalJSON_other _) fun _ => .pure _) fun _ => .pure _

theorem reachable_of_replay {prepared : Prepared} (ready : prepareProjection input = .ok prepared)
    (replayed : replay prepared.currency prepared.mechanics .initial prepared.transactions = .ok state) :
    Reachable input state :=
  ⟨prepared, prepared.transactions.length, ready, by rwa [List.take_length]⟩

theorem buildPortfolioProjection_other (input : ProjectionInput) :
    FaultsIn OtherFault (buildPortfolioProjection input) := by
  intro fault failed
  unfold buildPortfolioProjection at failed
  cases ready : prepareProjection input with
  | error other =>
    rw [ready] at failed
    cases failed
    exact prepareProjection_other input _ ready
  | ok prepared =>
    rw [ready, ok_bind] at failed
    cases replayed : replay prepared.currency prepared.mechanics .initial prepared.transactions with
    | error other =>
      rw [replayed] at failed
      cases failed
      exact FaultsIn.foldlM (replayTransaction_other _ _) _ replayed
    | ok state =>
      rw [replayed, ok_bind] at failed
      obtain ⟨trace, books, conserved⟩ := (reachable_of_replay ready replayed).kept
      refine FaultsIn.bind (finalize_other books conserved _ _ _) (fun result => ?_) _ failed
      exact .bind (projectionInputChecksum_other _ _ _ _ _) fun _ =>
        .bind (.bind (.mapM canonicalMark_other) fun _ => .pure _) fun _ => .pure _

theorem buildPortfolioProjection_totals {projection : PortfolioProjection}
    (ok : buildPortfolioProjection input = .ok projection) :
    ∃ state valuation, Reachable input state ∧ projection.lots = state.lots ∧
      projection.lotMatches = state.lotMatches ∧ projection.totals = state.totals valuation ∧
      (projection.totals.realizedPnL.add projection.totals.unrealizedPnL).equal projection.totals.totalPnL := by
  simp only [buildPortfolioProjection, bind_ok_iff] at ok
  obtain ⟨prepared, ready, state, replayed, ⟨marks, positions, totals⟩, final, checksum, _, payload, _, same⟩ := ok
  simp only [finalize, returns_iff] at final
  obtain ⟨selected, _, valuation, _, equation, shape⟩ := final
  cases shape
  cases same
  exact ⟨state, valuation, reachable_of_replay ready replayed, rfl, rfl, rfl, by simpa using equation⟩

/-- Every rebuild is conservative: the check of the equation is never what fails, and
what is returned satisfies it exactly. -/
theorem buildPortfolioProjection_conserves (input : ProjectionInput) :
    (∀ operands, buildPortfolioProjection input ≠
      .error (.errorf "projection P&L equation failed: realized %s + unrealized %s != total %s" operands)) ∧
    ∀ projection, buildPortfolioProjection input = .ok projection →
      projection.totals.realizedPnL.toRat + projection.totals.unrealizedPnL.toRat =
        projection.totals.cash.toRat + projection.totals.marketValue.toRat - projection.totals.netCapital.toRat := by
  constructor
  · intro operands failed
    exact buildPortfolioProjection_other input _ failed operands rfl
  · intro projection ok
    obtain ⟨state, valuation, _, _, _, totals, equation⟩ := buildPortfolioProjection_totals ok
    rw [Decimal.equal_iff, Decimal.toRat_add] at equation
    rw [equation, totals]
    simp only [ProjectionState.totals, Decimal.toRat_sub, Decimal.toRat_add]

end Augr.Ledger
