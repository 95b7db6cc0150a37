import Augr.Simulation.Sessions

/-! Orders that do not rest: a fill-or-kill order is filled whole or not at all, over any number of evaluations. -/

set_option autoImplicit false

namespace Augr.Simulation

open Foundation Lifecycle MarketData

/-- The loop's remainder is what the fills of the aggregate leave open. -/
structure Tracks (order : Order) (s : Filling) : Prop where
  placed : s.aggregate.order = some order
  open_ : s.remaining.toRat = order.quantity.toRat - s.aggregate.filledQuantity

theorem Accepts.tracks {venue : Venue} {request : EvaluationRequest} {accepted : AcceptedRequest}
    (passed : Accepts venue request accepted) : Tracks accepted.order accepted.start :=
  ⟨passed.placed, Decimal.toRat_sub _ _⟩

section
variable {ticks : Ticks} {input : SimulationFillInput} {order : Order} {s next final : Filling}

/-- A level that is taken: the order is filled when nothing remains, and partially filled otherwise. -/
structure Took (order : Order) (s : Filling) (c : EligibleLevel) (effect : FillEffect) (next : Filling) : Prop where
  tracks : Tracks order next
  positive : 0 < (s.takes c).toRat
  remaining : next.remaining.toRat = s.remaining.toRat - (s.takes c).toRat
  fills : next.fills = s.fills ++ [effect]
  quantity : effect.fill.quantity = s.takes c
  counted : next.aggregate.fills.length = s.aggregate.fills.length + 1
  full : next.aggregate.state = .filled ↔ next.remaining.toRat = 0
  partly : next.aggregate.state = .filled ∨ next.aggregate.state = .partiallyFilled

theorem TookLevel.took {c : EligibleLevel} {t : Transition} {effect : FillEffect}
    (took : TookLevel ticks input s c t effect next) (tracks : Tracks order s) : Took order s c effect next := by
  obtain ⟨same, fill, built, added, _⟩ := took.built_ok
  obtain rfl : order = same := Option.some.inj (tracks.placed.symm.trans built.placed)
  have less : next.remaining.toRat = s.remaining.toRat - (s.takes c).toRat := by rw [took.remaining, Decimal.toRat_sub]
  have filled : next.aggregate.filledQuantity = s.aggregate.filledQuantity + (s.takes c).toRat := by
    rw [Aggregate.filledQuantity, added, sumFillQuantity_snoc, built.quantity]
    rfl
  have still : next.remaining.toRat = order.quantity.toRat - next.aggregate.filledQuantity := by
    rw [less, tracks.open_, filled]
    ring
  obtain ⟨_, after, effects, isNext⟩ := step_effect took.stepped
  have state : next.aggregate.state = t.event.nextState := by rw [isNext]
  have closes : (t.event.nextState = .filled ↔ s.aggregate.filledQuantity + (s.takes c).toRat = order.quantity.toRat) ∧
      (t.event.nextState = .filled ∨ t.event.nextState = .partiallyFilled) := by
    have isEvent : t.event.kind = .fillAcknowledged ∨ t.event.kind = .fillRecorded := by
      simpa [Event.isFill] using built.isEvent
    have exactly {n source transaction} {other : Order} {also : Fill}
        (carried : FillCarried s.aggregate t other also n source transaction) :
        t.event.nextState = .filled ↔ s.aggregate.filledQuantity + (s.takes c).toRat = order.quantity.toRat := by
      obtain rfl : order = other := Option.some.inj (tracks.placed.symm.trans carried.placed)
      obtain rfl : fill = also := Option.some.inj (built.isFill.symm.trans carried.isFill)
      rw [carried.full, built.quantity]
      rfl
    cases effects with
    | acknowledged _ _ _ _ _ _ _ _ following carried => exact ⟨exactly carried, following.symm⟩
    | recorded _ _ _ _ _ _ _ _ following carried => exact ⟨exactly carried, following.symm⟩
    | _ => grind [EventKind.isFailure]
  refine ⟨⟨step_order took.stepped tracks.placed, still⟩, ?_, less, took.fills, ?_, ?_, ?_, ?_⟩
  · rw [← built.quantity]
    exact built.positive
  · rw [built.reported.1, built.quantity]
  · rw [added, List.length_append, List.length_singleton]
  · rw [state, closes.1, still, filled]
    constructor <;> intro h <;> linarith
  · rw [state]
    exact closes.2

def capacities (levels : List EligibleLevel) : ℚ := (levels.map fun c => c.capacity.toRat).sum

def quantities (effects : List FillEffect) : ℚ := (effects.map fun effect => effect.fill.quantity.toRat).sum

/-- A walk takes nothing, or fills the order, or takes every level whole and leaves something open. -/
inductive Walked (s : Filling) (levels : List EligibleLevel) (final : Filling) : Prop where
  | untaken (same : s = final) (stopped : s.remaining.toRat = 0 ∨ levels = [])
  | filled (state : final.aggregate.state = .filled) (closed : final.remaining.toRat = 0)
      (total : quantities final.fills = quantities s.fills + s.remaining.toRat)
  | partly (begun : s.remaining.toRat ≠ 0) (state : final.aggregate.state = .partiallyFilled)
      (short : final.remaining.toRat = s.remaining.toRat - capacities levels) (more : 0 < final.remaining.toRat)
      (all : final.aggregate.fills.length = s.aggregate.fills.length + levels.length)

theorem Walk.walked {levels : List EligibleLevel} (walk : Walk ticks input s levels final) (tracks : Tracks order s) :
    Walked s levels final := by
  induction walk with
  | done s => exact .untaken rfl (Or.inr rfl)
  | full levels zero => exact .untaken rfl (Or.inl ((Decimal.isZero_iff _).mp zero))
  | @take s next final c rest t effect took _ ih =>
    have k := took.took tracks
    have begun : s.remaining.toRat ≠ 0 := by
      rw [ne_eq, ← Decimal.isZero_iff, took.unfinished]
      decide
    have total : quantities next.fills = quantities s.fills + (s.takes c).toRat := by
      simp [quantities, k.fills, k.quantity]
    -- Unless it closes the order, a level is taken whole.
    have whole (more : next.remaining.toRat ≠ 0) : (s.takes c).toRat = c.capacity.toRat := by
      have less := k.remaining
      unfold Filling.takes at less ⊢
      split at less
      · exact absurd (less.trans (sub_self _)) more
      · rename_i fits
        rw [if_neg fits]
    cases ih k.tracks with
    | untaken same stopped =>
      subst same
      by_cases closed : next.remaining.toRat = 0
      · refine .filled (k.full.mpr closed) closed ?_
        have less := k.remaining
        rw [total]
        linarith
      · obtain rfl := stopped.resolve_left closed
        have less := k.remaining
        have most := (s.takes_le c).2
        refine .partly begun (k.partly.resolve_left fun full => closed (k.full.mp full)) ?_ ?_ k.counted
        · rw [less, whole closed]
          simp [capacities]
        · exact lt_of_le_of_ne (by linarith) (Ne.symm closed)
    | filled state closed after =>
      refine .filled state closed ?_
      rw [after, total, k.remaining]
      ring
    | partly unclosed state short more all =>
      refine .partly begun state ?_ more ?_
      · rw [short, k.remaining, whole unclosed]
        simp only [capacities, List.map_cons, List.sum_cons]
        ring
      · rw [all, k.counted, List.length_cons]
        omega

theorem toRat_totalCapacity (levels : List EligibleLevel) : (totalCapacity levels).toRat = capacities levels := by
  have general (start : Decimal) : (levels.foldl (fun total level => total.add level.capacity) start).toRat =
      start.toRat + capacities levels := by
    induction levels generalizing start with
    | nil => simp [capacities]
    | cons level rest ih =>
      rw [List.foldl_cons, ih, Decimal.toRat_add]
      simp only [capacities, List.map_cons, List.sum_cons]
      ring
  rw [totalCapacity, general, Decimal.toRat_zero, zero_add]

theorem Walked.not_partly {levels : List EligibleLevel} (walked : Walked s levels final)
    (enough : (totalCapacity levels).lessThan s.remaining = false) :
    s = final ∧ (s.remaining.toRat = 0 ∨ levels = []) ∨ final.aggregate.state = .filled ∧
      quantities final.fills = quantities s.fills + s.remaining.toRat := by
  rw [← Bool.not_eq_true, Decimal.lessThan_iff, toRat_totalCapacity] at enough
  cases walked with
  | untaken same stopped => exact Or.inl ⟨same, stopped⟩
  | filled state _ total => exact Or.inr ⟨state, total⟩
  | partly _ _ short more _ => exact absurd (by linarith) enough

end

theorem Observed.kept {before after : Result} {t : Transition} (observed : Observed before after t) :
    after.aggregate.fills = before.aggregate.fills ∧
      ∀ {order : Order}, before.aggregate.order = some order → after.aggregate.order = some order := by
  refine ⟨?_, fun placed => step_order observed.stepped placed⟩
  rw [step_links observed.stepped]
  simp [links, observed.plain]

/-- Each evaluation is of the aggregate that the one before it returned. -/
inductive Evaluations (start : Aggregate) : List Result → Aggregate → Prop where
  | none : Evaluations start [] start
  | next {results : List Result} {a : Aggregate} {result : Result} (before : Evaluations start results a) (venue : Venue)
      (ticks : Ticks) (request : EvaluationRequest) (given : request.aggregate = some a)
      (ok : venue.evaluate ticks request = .ok result) : Evaluations start (results ++ [result]) result.aggregate

/-- The order has no fill, or it is over. -/
structure Whole (order : Order) (a : Aggregate) : Prop where
  placed : a.order = some order
  settled : terminalSimulationState a.state = true ∨ a.fills = [] ∧ a.state ≠ .partiallyFilled

section
variable {venue : Venue} {ticks : Ticks} {request : EvaluationRequest} {accepted : AcceptedRequest} {order : Order}
  {result : Result}

theorem Whole.of_applyTerminal {before : Result} {kind : EventKind} {decision : Decision} {reason : String}
    {sourceAt : Instant} {snapshot : Option QuoteSnapshot} {session : Option SessionWindow}
    (placed : before.aggregate.order = some order)
    (ended : venue.applyTerminal ticks.observation before request order kind decision reason sourceAt snapshot session =
      .ok result) : Whole order result.aggregate := by
  obtain ⟨state, t, observed⟩ := applyTerminal_ok ended
  refine ⟨observed.kept.2 placed, Or.inl ?_⟩
  cases kind <;> simp only [terminalState, Option.some.injEq, reduceCtorEq] at state <;> rw [← state] <;> rfl

theorem Whole.of_ensureWorking {before : Result} {session : Option SessionWindow} {decision : Decision} {reason : String}
    (whole : Whole order before.aggregate)
    (ended : venue.ensureWorking ticks.observation before request order session decision reason = .ok result) :
    Whole order result.aggregate := by
  rcases ensureWorking_ok ended with ⟨_, rfl⟩ | ⟨routed, working, t, observed⟩
  · exact whole
  · refine ⟨observed.kept.2 whole.placed, Or.inr ⟨observed.kept.1.trans ?_, by rw [working]; decide⟩⟩
    rcases whole.settled with terminal | unfilled
    · rw [routed] at terminal
      cases terminal
    · exact unfilled.1

/-- The quantity that a fill-or-kill order gets in one evaluation is nothing or all of it. -/
def AllOrNothing (order : Order) (result : Result) : Prop :=
  result.fills = [] ∨ quantities result.fills = order.quantity.toRat ∧ result.aggregate.state = .filled

theorem Executed.whole {assessment : QuoteAssessment} (passed : Accepts venue request accepted)
    (fok : accepted.order.timeInForce = .fok) (whole : Whole accepted.order accepted.aggregate)
    (live : terminalSimulationState accepted.aggregate.state = false)
    (executed : Executed venue ticks request accepted assessment result) :
    Whole accepted.order result.aggregate ∧ AllOrNothing accepted.order result := by
  cases executed with
  | insufficient _ ended =>
    exact ⟨.of_applyTerminal whole.placed ended, Or.inl (Ended.of_applyTerminal (s := accepted.start) rfl rfl ended).2⟩
  | walked enough s walk settled =>
    have unfilled := (whole.settled.resolve_left (ne_true_of_eq_false live)).1
    have enough : (totalCapacity (accepted.levels request)).lessThan accepted.start.remaining = false := by
      simpa [AcceptedRequest.insufficient, AcceptedRequest.start, fok] using enough
    rcases (walk.walked passed.tracks).not_partly enough with ⟨rfl, _⟩ | ⟨full, total⟩
    · refine ⟨?_, Or.inl settled.ended.2⟩
      cases settled with
      | filled full isResult => exact ⟨isResult ▸ passed.placed, Or.inl (by rw [← isResult]; exact congrArg _ full)⟩
      | cancelled _ ioc _ => exact absurd (fok.symm.trans ioc) (by decide)
      | partly _ _ took _ => exact absurd rfl took
      | rested _ _ _ ended => exact .of_ensureWorking whole ended
    · cases settled with
      | filled _ isResult =>
        subst isResult
        obtain ⟨placed, _⟩ := walk.fills passed.placed
        refine ⟨⟨placed, Or.inl (congrArg terminalSimulationState full)⟩, Or.inr ⟨?_, full⟩⟩
        have whole : accepted.start.remaining.toRat = accepted.order.quantity.toRat := by
          rw [passed.tracks.open_, Aggregate.filledQuantity]
          simp [AcceptedRequest.start, unfilled]
        rw [whole] at total
        simpa [AcceptedRequest.start, Filling.unsettled, quantities] using total
      | cancelled unfilled _ _ | partly unfilled _ _ _ | rested unfilled _ _ _ => exact absurd full unfilled

theorem evaluate_whole {a : Aggregate} (given : request.aggregate = some a) (fok : order.timeInForce = .fok)
    (whole : Whole order a) (ok : venue.evaluate ticks request = .ok result) :
    Whole order result.aggregate ∧ AllOrNothing order result := by
  obtain ⟨accepted, passed, rfl, rfl, ⟨_, rfl⟩ | ⟨live, attends⟩⟩ := evaluate_attends given whole.placed ok
  · exact ⟨whole, Or.inl rfl⟩
  · refine attends.elim (fun ended => ⟨?_, Or.inl ?_⟩) (fun ended => ⟨?_, Or.inl ?_⟩) ?_ fun _ executed =>
      executed.whole passed fok whole live
    · exact .of_applyTerminal whole.placed ended
    · exact (Ended.of_applyTerminal (s := accepted.start) rfl rfl ended).2
    · exact .of_ensureWorking whole ended
    · exact (Ended.of_ensureWorking (s := accepted.start) rfl rfl ended).2
    · rintro rfl
      exact ⟨whole, Or.inl rfl⟩

theorem Evaluations.whole {start a : Aggregate} {results : List Result} (evaluations : Evaluations start results a)
    (fok : order.timeInForce = .fok) (whole : Whole order start) :
    Whole order a ∧ ∀ result ∈ results, result.aggregate.state ≠ .partiallyFilled ∧ AllOrNothing order result := by
  induction evaluations with
  | none => exact ⟨whole, fun _ member => absurd member List.not_mem_nil⟩
  | next _ venue ticks request given ok ih =>
    obtain ⟨kept, each⟩ := evaluate_whole given fok ih.1 ok
    refine ⟨kept, forall_mem_concat ih.2 ⟨fun partly => ?_, each⟩⟩
    rcases kept.settled with terminal | ⟨_, not⟩
    · rw [partly] at terminal
      cases terminal
    · exact not partly

/-- An immediate-or-cancel order that is looked at once is over: filled, cancelled, or rejected for its route time. -/
theorem ioc_settles {a : Aggregate} (given : request.aggregate = some a) (placed : a.order = some order)
    (ioc : order.timeInForce = .ioc) (ok : venue.evaluate ticks request = .ok result)
    (looked : result.decision ≠ .waitingLatency ∧ result.decision ≠ .noop) :
    result.aggregate.state = .filled ∨ result.aggregate.state = .cancelled ∨
      result.aggregate.state = .rejected ∧ ∃ asset,
        venue.policy.assetPolicy request.instrument.assetClass = some asset ∧ asset.calendar.kind = .explicitSessions ∧
          asset.calendar.sessions.any (fun session => session.holds order.routedAt) = false := by
  obtain ⟨accepted, passed, rfl, rfl, ⟨_, rfl⟩ | ⟨_, attends⟩⟩ := evaluate_attends given placed ok
  · exact absurd rfl looked.2
  · cases attends with
    | rejected outside ended =>
      have explicit : accepted.asset.calendar.kind = .explicitSessions := by
        simp only [AcceptedRequest.routedOutside, Bool.and_eq_true, decide_eq_true_eq] at outside
        exact outside.2
      refine Or.inr (Or.inr ⟨?_, accepted.asset, passed.isAsset, explicit, ?_⟩)
      · exact (Option.some.inj (applyTerminal_ok ended).1).symm
      · rw [passed.any_session explicit, outside]
        rfl
    | expired _ s closed _ =>
      simp [AcceptedRequest.closed, ioc] at closed
    | rested _ _ outside _ =>
      simp [AcceptedRequest.outsideNow, ioc] at outside
    | observed _ _ _ observes =>
      cases observes with
      | waited _ _ _ _ isResult => exact absurd (congrArg Result.decision isResult.symm) looked.1
      | acknowledged _ _ _ resting _ => simp [AcceptedRequest.immediate, ioc] at resting
      | executed _ _ _ executed =>
        cases executed with
        | insufficient short _ => simp [AcceptedRequest.insufficient, ioc] at short
        | walked _ s _ settled =>
          cases settled with
          | filled full isResult => exact Or.inl (isResult ▸ full)
          | cancelled _ _ ended =>
            exact Or.inr (Or.inl (Option.some.inj (applyTerminal_ok ended).1).symm)
          | partly _ resting | rested _ resting => exact absurd ioc resting

end

theorem immediate_orders_settle :
    (∀ {start a : Aggregate} {order : Order} {results : List Result}, start.state = .routed → start.fills = [] →
      start.order = some order → order.timeInForce = .fok → Evaluations start results a →
        ∀ result ∈ results, result.aggregate.state ≠ .partiallyFilled ∧ AllOrNothing order result) ∧
    (∀ {venue : Venue} {ticks : Ticks} {request : EvaluationRequest} {a : Aggregate} {order : Order} {result : Result},
      request.aggregate = some a → a.order = some order → order.timeInForce = .ioc →
        venue.evaluate ticks request = .ok result → result.decision ≠ .waitingLatency ∧ result.decision ≠ .noop →
          result.aggregate.state = .filled ∨ result.aggregate.state = .cancelled ∨
            result.aggregate.state = .rejected ∧ ∃ asset,
              venue.policy.assetPolicy request.instrument.assetClass = some asset ∧
                asset.calendar.kind = .explicitSessions ∧
                  asset.calendar.sessions.any (fun session => session.holds order.routedAt) = false) := by
  refine ⟨?_, ioc_settles⟩
  intro start a order results routed unfilled placed fok evaluations
  exact (evaluations.whole fok ⟨placed, Or.inr ⟨unfilled, by rw [routed]; decide⟩⟩).2

theorem sampleUnrouted_rejected : ∃ result, sampleVenue.evaluate sampleTicks sampleUnrouted = .ok result ∧
    result.summary = (.rejected, .rejected, 0, [[129]]) :=
  sample_returned (List.cons.inj (List.cons.inj samples_evaluated).2).1

theorem ioc_rejected_outside_session :
    newPolicy sampleInput = .ok sampleVenue.policy ∧ (sampleOrder .ioc ⟨1000000, true⟩).timeInForce = .ioc ∧
      ∃ result, sampleVenue.evaluate sampleTicks sampleUnrouted = .ok result ∧ result.decision = .rejected ∧
        result.aggregate.state ≠ .filled ∧ result.aggregate.state ≠ .cancelled := by
  obtain ⟨result, returned, seen⟩ := sampleUnrouted_rejected
  simp only [Result.summary, Prod.mk.injEq] at seen
  refine ⟨samplePolicy_made, rfl, result, returned, seen.1, ?_, ?_⟩ <;> rw [seen.2.1] <;> decide

theorem immediate_orders_settle_sample :
    (∃ result, sampleVenue.evaluate sampleTicks sampleImmediate = .ok result ∧
      AllOrNothing (sampleOrder .fok ⟨3000000, true⟩) result) ∧
    ∃ result, sampleVenue.evaluate sampleTicks sampleUnrouted = .ok result ∧
      (result.aggregate.state = .filled ∨ result.aggregate.state = .cancelled ∨ result.aggregate.state = .rejected) := by
  constructor
  · obtain ⟨result, returned, _⟩ := sampleImmediate_filled
    refine ⟨result, returned, ?_⟩
    exact (immediate_orders_settle.1 rfl rfl rfl rfl (.next .none sampleVenue sampleTicks sampleImmediate rfl returned) result
      (List.mem_singleton_self _)).2
  · obtain ⟨result, returned, seen⟩ := sampleUnrouted_rejected
    simp only [Result.summary, Prod.mk.injEq] at seen
    refine ⟨result, returned, ?_⟩
    have settled := immediate_orders_settle.2 rfl rfl rfl returned (by rw [seen.1]; decide)
    exact settled.imp id (Or.imp id And.left)

end Augr.Simulation
