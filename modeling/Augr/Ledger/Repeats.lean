import Augr.Ledger.Turnover

/-! Transactions that are delivered more than once. -/

set_option autoImplicit false

namespace Augr.Ledger

open Foundation ProjectionState

variable {after other state : ProjectionState} {transaction : Transaction}

/-! ## Running totals beside the books

An event reads the lots, the matches and the activity; to the totals it only adds. -/

abbrev Amounts := ℚ × ℚ × ℚ × ℚ × ℚ

variable {extra : Amounts}

def ProjectionState.amounts (state : ProjectionState) : Amounts :=
  (state.cash.toRat, state.netCapital.toRat, state.fees.toRat, state.rebates.toRat, state.realized.toRat)

/-- The same books, with more in the totals. -/
structure Beside (extra : Amounts) (state other : ProjectionState) : Prop where
  lots : other.lots = state.lots
  lotMatches : other.lotMatches = state.lotMatches
  activity : other.activity = state.activity
  amounts : other.amounts = state.amounts + extra

/-- Whatever is added to the totals beforehand is still there afterwards. -/
def Additive (run : ProjectionState → Outcome ProjectionState) : Prop :=
  ∀ extra state other after, Beside extra state other → run other = .ok after →
    ∃ next, run state = .ok next ∧ Beside extra next after

theorem closeOne_realized (m : Movement) (count : Nat) (state : CloseState) (segment : CloseSegment) (realized : Decimal) :
    ∃ gained, m.closeOne count { state with realized := realized } segment =
        { m.closeOne count state segment with realized := gained } ∧
      gained.toRat - realized.toRat = (m.closeOne count state segment).realized.toRat - state.realized.toRat := by
  cases found : state.lots[segment.lotIndex]? with
  | none => exact ⟨realized, by simp [Movement.closeOne, found], by simp [Movement.closeOne, found]⟩
  | some lot =>
    simp only [Movement.closeOne, found]
    refine ⟨_, rfl, ?_⟩
    simp

theorem closeAll_realized (m : Movement) (count : Nat) (segments : List CloseSegment) (state : CloseState)
    (realized : Decimal) :
    ∃ gained, segments.foldl (m.closeOne count) { state with realized := realized } =
        { segments.foldl (m.closeOne count) state with realized := gained } ∧
      gained.toRat - realized.toRat = (segments.foldl (m.closeOne count) state).realized.toRat - state.realized.toRat := by
  induction segments generalizing state realized with
  | nil => exact ⟨realized, rfl, by simp⟩
  | cons segment rest ih =>
    obtain ⟨first, same, gain⟩ := closeOne_realized m count state segment realized
    obtain ⟨gained, sameRest, gainRest⟩ := ih (m.closeOne count state segment) first
    refine ⟨gained, ?_, ?_⟩
    · rw [List.foldl_cons, List.foldl_cons, same, sameRest]
    · rw [List.foldl_cons]
      linarith

theorem Beside.trans {more : Amounts} (first : Beside extra state other) (second : Beside more other after) :
    Beside (extra + more) state after :=
  ⟨second.lots.trans first.lots, second.lotMatches.trans first.lotMatches, second.activity.trans first.activity,
    by rw [second.amounts, first.amounts, add_assoc]⟩

theorem Beside.both {gain : Amounts} {next : ProjectionState} (beside : Beside extra state other)
    (left : Beside gain state next) (right : Beside gain other after) : Beside extra next after :=
  ⟨right.lots.trans (beside.lots.trans left.lots.symm), right.lotMatches.trans (beside.lotMatches.trans left.lotMatches.symm),
    right.activity.trans (beside.activity.trans left.activity.symm),
    by rw [right.amounts, beside.amounts, left.amounts, add_right_comm]⟩

theorem beside_charged (state : ProjectionState) (cash fees rebates : Decimal) :
    Beside (cash.toRat, 0, fees.toRat, rebates.toRat, 0) state
      { state with cash := state.cash.add cash, fees := state.fees.add fees, rebates := state.rebates.add rebates } :=
  ⟨rfl, rfl, rfl, by simp [ProjectionState.amounts]⟩

theorem beside_realized (state : ProjectionState) (cash : Decimal) :
    Beside (0, 0, 0, 0, cash.toRat) state { state with realized := state.realized.add cash } :=
  ⟨rfl, rfl, rfl, by simp [ProjectionState.amounts]⟩

theorem beside_capital (state : ProjectionState) (cash : Decimal) :
    Beside (0, cash.toRat, 0, 0, 0) state { state with netCapital := state.netCapital.add cash } :=
  ⟨rfl, rfl, rfl, by simp [ProjectionState.amounts]⟩

theorem applyMovement_additive (m : Movement) (exact : Bool) : Additive fun state => state.applyMovement m exact := by
  rintro extra state other after ⟨lots, lotMatches, activity, amounts⟩ applied
  obtain ⟨valid, settled, parts, rfl⟩ := (applyMovement_ok_iff _ _ _ _).mp applied
  have segments : other.segments m = state.segments m := by
    simp only [ProjectionState.segments, lots]
  have count : other.segmentCount m = state.segmentCount m := by
    simp only [segmentCount, segments]
  obtain ⟨gained, closed, gain⟩ := closeAll_realized m (state.segmentCount m) (state.segments m).1
    ⟨state.lots, state.lotMatches, state.realized, m.eventCash, m.movement.abs, 0⟩ other.realized
  have closing : other.closing m = { state.closing m with realized := gained } := by
    simp only [ProjectionState.closing, segments, count, lots, lotMatches]
    exact closed
  have opening : other.opening m = state.opening m := by
    simp only [ProjectionState.opening, segments, closing]
  rw [segments] at settled
  rw [count] at parts
  refine ⟨_, (applyMovement_ok_iff _ _ _ _).mpr ⟨valid, settled, parts, rfl⟩, ?_⟩
  simp only [ProjectionState.amounts, Prod.ext_iff, Prod.fst_add, Prod.snd_add] at amounts
  obtain ⟨cash, netCapital, fees, rebates, realized⟩ := amounts
  refine ⟨by simp only [closing, opening], by simp only [closing], by simp only [activity], ?_⟩
  have closedGain : gained.toRat = (state.closing m).realized.toRat + extra.2.2.2.2 := by
    change gained.toRat - other.realized.toRat = (state.closing m).realized.toRat - state.realized.toRat at gain
    linarith
  simp only [ProjectionState.amounts, Prod.ext_iff, Prod.fst_add, Prod.snd_add, closing]
  exact ⟨cash, netCapital, fees, rebates, closedGain⟩

theorem applyEconomicTransaction_additive (transaction : Transaction) (mechanics : ProjectionMechanics) (cash : Decimal) :
    Additive fun state => state.applyEconomicTransaction transaction mechanics cash := by
  intro extra state other after beside applied
  obtain ⟨action, _, performs, again⟩ := applyEconomicTransaction_enacts transaction mechanics cash other after applied
  suffices acts : ∃ next, Performs transaction mechanics cash state next action ∧ Beside extra next after by
    obtain ⟨next, acted, stays⟩ := acts
    exact ⟨next, again state next acted, stays⟩
  cases action with
  | move m exact => exact applyMovement_additive m exact extra state other after beside performs
  | cost =>
    subst performs
    exact ⟨_, rfl, beside.both (beside_realized state cash) (beside_realized other cash)⟩
  | deliver option underlying =>
    obtain ⟨spent, applied⟩ := performs
    rw [beside.lots] at spent applied
    have handed : Beside extra (state.handOver transaction mechanics option) (other.handOver transaction mechanics option) :=
      ⟨by simp only [handOver, beside.lots],
        by simp only [handOver, beside.lots, beside.lotMatches],
        by simp only [handOver, beside.activity], beside.amounts⟩
    obtain ⟨next, ran, stays⟩ := applyMovement_additive _ _ extra _ _ after handed applied
    exact ⟨next, ⟨spent, ran⟩, stays⟩

theorem applyCapital_ok {row : Option ProjectionMechanics} {cash : Decimal}
    (applied : state.applyCapital transaction row cash = .ok after) :
    Beside (0, cash.toRat, 0, 0, 0) state after ∧ ∀ other : ProjectionState, ∃ next,
      other.applyCapital transaction row cash = .ok next ∧ Beside (0, cash.toRat, 0, 0, 0) other next := by
  simp only [applyCapital, failIf_bind_ok_iff] at applied ⊢
  obtain ⟨plain, shape, direction, applied⟩ := applied
  cases applied
  exact ⟨beside_capital state cash, fun other => ⟨_, ⟨plain, shape, direction, rfl⟩, beside_capital other cash⟩⟩

theorem replayTransaction_additive (currency : String) (mechanics : MechanicsMap) (transaction : Transaction) :
    Additive fun state => state.replayTransaction currency mechanics transaction := by
  intro extra state other after beside ran
  obtain ⟨cash, fees, rebates, costs, applied⟩ := replayTransaction_ok_iff.mp ran
  have charged := beside.both (beside_charged state cash fees rebates) (beside_charged other cash fees rebates)
  rcases applied with ⟨capital, applied⟩ | ⟨economic, row, found, same, unit, applied⟩
  · obtain ⟨moved, again⟩ := applyCapital_ok applied
    obtain ⟨next, applies, gained⟩ := again _
    exact ⟨next, replayTransaction_ok_iff.mpr ⟨cash, fees, rebates, costs, .inl ⟨capital, applies⟩⟩,
      charged.both gained moved⟩
  · obtain ⟨next, applies, stays⟩ := applyEconomicTransaction_additive transaction row cash extra _ _ after charged applied
    exact ⟨next, replayTransaction_ok_iff.mpr ⟨cash, fees, rebates, costs, .inr ⟨economic, row, found, same, unit, applies⟩⟩,
      stays⟩

/-- What a capital flow or a standalone cost adds to the totals. -/
def effect (currency : String) (transaction : Transaction) : Amounts :=
  match projectionCashAndCosts transaction currency with
  | .ok (cash, fees, rebates) => (cash.toRat, if transaction.isCapital then cash.toRat else 0, fees.toRat, rebates.toRat,
      if transaction.isCapital then 0 else cash.toRat)
  | .error _ => 0

theorem Planned.eq_cost {row : ProjectionMechanics} {cash : Decimal} {action : Action}
    (planned : Planned transaction row cash action) (cost : row.eventType = .fee ∨ row.eventType = .rebate) :
    action = .cost := by
  cases planned with
  | cost => rfl
  | fill kind | settlement kind | physical kind => rcases cost with cost | cost <;> simp [cost] at kind

theorem replayTransaction_still {currency : String} {mechanics : MechanicsMap} (still : transaction.isStill = true)
    (beside : Beside extra state other) (ran : other.replayTransaction currency mechanics transaction = .ok after) :
    Beside (extra + effect currency transaction) state after := by
  obtain ⟨cash, fees, rebates, costs, applied⟩ := replayTransaction_ok_iff.mp ran
  have charged := beside_charged other cash fees rebates
  rcases applied with ⟨capital, applied⟩ | ⟨economic, row, found, same, unit, applied⟩
  · have gained := charged.trans (applyCapital_ok applied).1
    refine beside.trans ?_
    simpa [effect, costs, capital] using gained
  · obtain ⟨action, planned, performs, _⟩ := applyEconomicTransaction_enacts transaction row cash _ after applied
    obtain rfl : action = .cost := planned.eq_cost ((still_iff economic same applied).mp still)
    subst performs
    refine beside.trans ?_
    simpa [effect, costs, economic] using charged.trans (beside_realized _ cash)

theorem replay_interleaved {currency : String} {mechanics : MechanicsMap}
    {transactions extras woven : List Transaction} (weave : Interleaved transactions extras woven)
    (still : ∀ t ∈ extras, t.isStill = true) (beside : Beside extra state other)
    (ran : other.replay currency mechanics woven = .ok after) :
    ∃ next, state.replay currency mechanics transactions = .ok next ∧
      Beside (extra + (extras.map (effect currency)).sum) next after := by
  induction weave generalizing extra state other with
  | nil =>
    cases ran
    exact ⟨state, rfl, by simpa using beside⟩
  | left transaction rest ih =>
    simp only [replay, List.foldlM_cons, bind_ok_iff] at ran ⊢
    obtain ⟨middle, first, others⟩ := ran
    obtain ⟨next, step, stays⟩ := replayTransaction_additive currency mechanics transaction extra state other middle beside first
    obtain ⟨final, steps, ends⟩ := ih still stays others
    exact ⟨final, ⟨next, step, steps⟩, ends⟩
  | right transaction rest ih =>
    rw [List.forall_mem_cons] at still
    simp only [replay, List.foldlM_cons, bind_ok_iff] at ran
    obtain ⟨middle, first, others⟩ := ran
    obtain ⟨final, steps, ends⟩ := ih still.2 (replayTransaction_still still.1 beside first) others
    refine ⟨final, steps, ?_⟩
    rw [List.map_cons, List.sum_cons, ← add_assoc]
    exact ends

end Augr.Ledger
