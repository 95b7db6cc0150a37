import Augr.Simulation.Immediate

/-! Evaluating the same observation again, on the aggregate that the first evaluation returned, does nothing. -/

set_option autoImplicit false

namespace Augr.Simulation

open Foundation Lifecycle MarketData

section
variable {a b : Aggregate} {order : Order} {snapshot : QuoteSnapshot} {asset : AssetPolicy} {lotSize : Decimal}
  {level : DepthLevel}

theorem eligibleLevel_level {c : EligibleLevel} (offered : eligibleLevel a order snapshot asset lotSize level = some c) :
    c.level = level := by
  unfold eligibleLevel at offered
  grind

theorem eligibleLevel_none (kept : a.fills ⊆ b.fills) (nothing : eligibleLevel a order snapshot asset lotSize level = none) :
    eligibleLevel b order snapshot asset lotSize level = none := by
  have used {event : String} (found : simulationAggregateHasSourceEvent a event = true) :
      simulationAggregateHasSourceEvent b event = true := by
    obtain ⟨fill, member, same⟩ := List.any_eq_true.mp found
    exact List.any_eq_true.mpr ⟨fill, kept member, same⟩
  unfold eligibleLevel at nothing ⊢
  grind

theorem eligibleLevel_used (used : simulationAggregateHasSourceEvent a
      (simulationFillSourceEventID order.id.toText snapshot.id.toText level.side level.level) = true) :
    eligibleLevel a order snapshot asset lotSize level = none := by
  unfold eligibleLevel
  simp [used]

theorem eligibleLevels_same (same : a.fills = b.fills) :
    eligibleLevels a order snapshot asset lotSize = eligibleLevels b order snapshot asset lotSize := by
  have used : simulationAggregateHasSourceEvent a = simulationAggregateHasSourceEvent b := by
    funext event
    simp only [simulationAggregateHasSourceEvent, same]
  unfold eligibleLevels
  congr 1
  funext level
  simp only [eligibleLevel, used]

theorem eligibleLevels_used {input : SimulationFillInput} {new : List Fill} (more : b.fills = a.fills ++ new)
    (ofSnapshot : input.snapshot = snapshot)
    (each : List.Forall₂ (FilledFrom input order) (eligibleLevels a order snapshot asset lotSize) new) :
    eligibleLevels b order snapshot asset lotSize = [] := by
  rw [eligibleLevels, List.filterMap_eq_nil_iff]
  intro level member
  cases offered : eligibleLevel a order snapshot asset lotSize level with
  | none =>
    refine eligibleLevel_none ?_ offered
    rw [more]
    exact List.subset_append_left _ _
  | some c =>
    obtain ⟨fill, made, filled⟩ := exists_right_of_mem each (List.mem_filterMap.mpr ⟨level, member, offered⟩)
    refine eligibleLevel_used (List.any_eq_true.mpr ⟨fill, ?_, ?_⟩)
    · rw [more]
      exact List.mem_append_right _ made
    · simp [filled.source, filled.event, ofSnapshot, eligibleLevel_level offered]

end

theorem Walk.eq_of_untaken {ticks : Ticks} {input : SimulationFillInput} {s final : Filling} {levels : List EligibleLevel}
    (walk : Walk ticks input s levels final) (untaken : final.fills = s.fills) :
    s = final ∧ (s.remaining.isZero = true ∨ levels = []) := by
  have stopped := walk.untaken_iff.mp untaken
  refine ⟨?_, stopped⟩
  cases walk with
  | done | full => rfl
  | take took _ =>
    rcases stopped with zero | none
    · exact absurd (zero.symm.trans took.unfinished) (by decide)
    · cases none

section
variable {venue : Venue} {ticks later : Ticks} {request : EvaluationRequest} {accepted : AcceptedRequest} {result : Result}

theorem ensureWorking_still {clock : Reading} {before : Result} {order : Order} {session : Option SessionWindow}
    {decision : Decision} {reason : String} (state : before.aggregate.state ≠ .routed) :
    venue.ensureWorking clock before request order session decision reason = .ok { before with decision := decision } :=
  if_pos state

theorem ensureWorking_kept {clock : Reading} {before : Result} {order : Order} {session : Option SessionWindow}
    {decision : Decision} {reason : String}
    (ok : venue.ensureWorking clock before request order session decision reason = .ok result) :
    result.aggregate.state ≠ .routed ∧ (result.aggregate.state = .working ∨ result.aggregate = before.aggregate) ∧
      result.aggregate.fills = before.aggregate.fills := by
  rcases ensureWorking_ok ok with ⟨state, rfl⟩ | ⟨_, working, t, observed⟩
  · exact ⟨state, Or.inr rfl, rfl⟩
  · exact ⟨by rw [working]; decide, Or.inl working, observed.kept.1⟩

theorem Evaluated.kept (placed : accepted.aggregate.order = some accepted.order)
    (evaluated : Evaluated venue ticks request accepted result) :
    result.aggregate.order = some accepted.order ∧ result.aggregate.intent = accepted.aggregate.intent := by
  have ended {s : Filling} (order : s.aggregate.order = some accepted.order)
      (intent : s.aggregate.intent = accepted.aggregate.intent) (ended : Ended s result) :
      result.aggregate.order = some accepted.order ∧ result.aggregate.intent = accepted.aggregate.intent := by
    cases ended with
    | still same _ => exact same ▸ ⟨order, intent⟩
    | observed t stepped _ _ => exact ⟨step_order stepped order, (step_intent stepped).trans intent⟩
  cases evaluated with
  | quiet quiet _ => exact ended (s := accepted.start) placed rfl quiet
  | walked _ s _ walk walked _ =>
    obtain ⟨order, intent, _⟩ := walk.fills (s := accepted.start) placed
    exact ended order intent walked

def EvaluationRequest.again (request : EvaluationRequest) (a : Aggregate) : EvaluationRequest :=
  { request with aggregate := some a }

def AcceptedRequest.again (accepted : AcceptedRequest) (a : Aggregate) : AcceptedRequest := { accepted with aggregate := a }

theorem not_live {state after : Lifecycle.State} (isState : after = state) (terminal : terminalSimulationState state = true)
    (live : terminalSimulationState after = false) : False := by
  rw [isState, terminal] at live
  cases live

theorem Executed.again {assessment : QuoteAssessment} (passed : Accepts venue request accepted)
    (executed : Executed venue ticks request accepted assessment result)
    (live : terminalSimulationState result.aggregate.state = false) :
    ∃ decision, Executed venue later (request.again result.aggregate) (accepted.again result.aggregate) assessment
      ⟨decision, result.aggregate, [], []⟩ := by
  cases executed with
  | insufficient _ ended => exact (not_live (Option.some.inj (applyTerminal_ok ended).1).symm rfl live).elim
  | walked enough s walk settled =>
    cases settled with
    | filled full isResult =>
      subst isResult
      exact (not_live full rfl live).elim
    | cancelled _ _ ended => exact (not_live (Option.some.inj (applyTerminal_ok ended).1).symm rfl live).elim
    | partly unfilled resting took isResult =>
      subst isResult
      have waits : accepted.order.timeInForce ≠ .fok := by
        intro fok
        have enough : (totalCapacity (accepted.levels request)).lessThan accepted.start.remaining = false := by
          simpa [AcceptedRequest.insufficient, AcceptedRequest.start, fok] using enough
        rcases (walk.walked passed.tracks).not_partly enough with ⟨rfl, _⟩ | ⟨full, _⟩
        · exact took rfl
        · exact unfilled full
      obtain ⟨_, _, taken, new, ahead, more, each⟩ := walk.fills passed.placed
      -- Something was taken and something is open, so every level was taken.
      have used : (accepted.again s.aggregate).levels (request.again s.aggregate) = [] ∧
          s.aggregate.state = .partiallyFilled := by
        cases walk.walked passed.tracks with
        | untaken same _ => exact absurd (congrArg Filling.fills same.symm) took
        | filled full _ _ => exact absurd full unfilled
        | partly _ state _ _ all =>
          rw [more, List.length_append, ← each.length_eq] at all
          obtain rfl := ahead.eq_of_length (Nat.add_left_cancel all)
          exact ⟨eligibleLevels_used more rfl each, state⟩
      have acknowledged : s.aggregate.state ≠ .routed := by
        rw [used.2]
        decide
      refine ⟨.resting, .walked ?_ (accepted.again s.aggregate).start ?_
        (.rested unfilled resting rfl (ensureWorking_still acknowledged))⟩
      · simp [AcceptedRequest.insufficient, AcceptedRequest.again, waits]
      · change Walk later _ _ ((accepted.again s.aggregate).levels (request.again s.aggregate)) _
        rw [used.1]
        exact .done _
    | rested unfilled resting untaken ended =>
      obtain ⟨rfl, stopped⟩ := walk.eq_of_untaken untaken
      obtain ⟨state, working, fills⟩ := ensureWorking_kept ended
      have levels : (accepted.again result.aggregate).levels (request.again result.aggregate) = accepted.levels request :=
        eligibleLevels_same fills
      have remaining : (accepted.again result.aggregate).remaining = accepted.remaining := by
        simp only [AcceptedRequest.remaining, AcceptedRequest.again]
        rw [fills]
        rfl
      refine ⟨.resting, .walked ?_ (accepted.again result.aggregate).start ?_
        (.rested ?_ resting rfl (ensureWorking_still state))⟩
      · rw [AcceptedRequest.insufficient, levels, remaining]
        exact enough
      · rw [levels]
        rcases stopped with zero | none
        · exact .full _ (by rw [AcceptedRequest.start, remaining]; exact zero)
        · rw [none]
          exact .done _
      · rcases working with working | same
        · exact fun full => absurd (working.symm.trans full) (by decide)
        · exact fun full => unfilled ((congrArg Aggregate.state same).symm.trans full)

theorem Attends.again (passed : Accepts venue request accepted) (attends : Attends venue ticks request accepted result)
    (live : terminalSimulationState result.aggregate.state = false) :
    ∃ decision, Attends venue later (request.again result.aggregate) (accepted.again result.aggregate)
      ⟨decision, result.aggregate, [], []⟩ := by
  cases attends with
  | rejected _ ended => exact (not_live (Option.some.inj (applyTerminal_ok ended).1).symm rfl live).elim
  | expired _ _ _ ended => exact (not_live (Option.some.inj (applyTerminal_ok ended).1).symm rfl live).elim
  | rested inside running outside ended =>
    exact ⟨.resting, .rested inside running outside (ensureWorking_still (ensureWorking_kept ended).1)⟩
  | observed inside running trading observes =>
    cases observes with
    | waited assessment assessed early immediate isResult =>
      subst isResult
      exact ⟨.waitingLatency, .observed inside running trading (.waited assessment assessed early immediate rfl)⟩
    | acknowledged assessment assessed early resting ended =>
      exact ⟨.waitingLatency, .observed inside running trading
        (.acknowledged assessment assessed early resting (ensureWorking_still (ensureWorking_kept ended).1))⟩
    | executed assessment assessed ready executed =>
      obtain ⟨decision, executed⟩ := executed.again passed live
      exact ⟨decision, .observed inside running trading (.executed assessment assessed ready executed)⟩

end

theorem evaluate_idempotent {venue : Venue} {ticks later : Ticks} {request : EvaluationRequest} {result : Result}
    (ok : venue.evaluate ticks request = .ok result) :
    ∃ decision, venue.evaluate later { request with aggregate := some result.aggregate } =
      .ok ⟨decision, result.aggregate, [], []⟩ := by
  obtain ⟨accepted, valid, evaluated⟩ := evaluate_ok ok
  have passed := validateRequest_ok_iff.mp valid
  obtain ⟨placed, intent⟩ := evaluated.kept passed.placed
  have again : venue.validateRequest (request.again result.aggregate) = .ok (accepted.again result.aggregate) :=
    validateRequest_ok_iff.mpr (passed.again placed intent)
  suffices rest : ∃ decision, (if terminalSimulationState result.aggregate.state then
      pure (Result.untouched result.aggregate)
    else venue.attend later (request.again result.aggregate) (accepted.again result.aggregate)) =
      Except.ok ⟨decision, result.aggregate, [], []⟩ by
    obtain ⟨decision, rest⟩ := rest
    exact ⟨decision, bind_ok_iff.mpr ⟨_, again, rest⟩⟩
  cases live : terminalSimulationState result.aggregate.state with
  | true => exact ⟨.noop, rfl⟩
  | false =>
    obtain ⟨first, alsoValid, rest⟩ := bind_ok_iff.mp ok
    obtain rfl : accepted = first := Except.ok.inj (valid.symm.trans alsoValid)
    split at rest
    · rename_i terminal
      cases rest
      exact absurd (terminal.symm.trans live) (by decide)
    · obtain ⟨decision, attends⟩ := (attend_ok_iff.mp rest).again passed live
      exact ⟨decision, attend_ok_iff.mpr attends⟩

/-- Two shares at eleven or better, against quotes that offer one share at ten. -/
def sampleLimit : Order :=
  { sampleOrder .gtc ⟨3000000, true⟩ with orderType := .limit, limitPrice := some (.newFromInt 11) }

def sampleResting (a : Aggregate) (snapshotID : Uuid) : EvaluationRequest :=
  { sampleRequest sampleLimit snapshotID with
    aggregate := some a
    snapshot :=
      { sampleSnapshot snapshotID with
        askSize := some (.newFromInt 1)
        depth := [⟨.bid, 0, .newFromInt 9, .newFromInt 1000⟩, ⟨.ask, 0, .newFromInt 10, .newFromInt 1⟩] }
    evaluatedAt := ⟨6000000, true⟩ }

/-- The order is evaluated against one quote, and what comes of it against the next. -/
def sampleTwice : Outcome (Result × Result) := do
  let first ← sampleVenue.evaluate sampleTicks (sampleResting (sampleAggregate sampleLimit) (Uuid.ofByte 7))
  let second ← sampleVenue.evaluate sampleTicks (sampleResting first.aggregate (Uuid.ofByte 8))
  pure (first, second)

theorem sampleTwice_evaluated : (sampleTwice.toOption.any fun (first, second) =>
    first.decision == .partiallyFilled && first.aggregate.state == .partiallyFilled && first.fills.length == 1 &&
      second.aggregate.state == .filled && second.fills.length == 1) = true := by
  decide +kernel

theorem sampleTwice_filled : ∃ first second,
    sampleVenue.evaluate sampleTicks (sampleResting (sampleAggregate sampleLimit) (Uuid.ofByte 7)) = .ok first ∧
      first.aggregate.state = .partiallyFilled ∧ first.fills.length = 1 ∧
      sampleVenue.evaluate sampleTicks (sampleResting first.aggregate (Uuid.ofByte 8)) = .ok second ∧
      second.aggregate.state = .filled ∧ second.fills.length = 1 := by
  obtain ⟨⟨first, second⟩, ok, seen⟩ := ok_of_evaluated sampleTwice_evaluated
  obtain ⟨_, one, rest⟩ := bind_ok_iff.mp ok
  obtain ⟨_, two, both⟩ := bind_ok_iff.mp rest
  cases both
  simp only [Bool.and_eq_true, beq_iff_eq] at seen
  exact ⟨first, second, one, seen.1.1.1.2, seen.1.1.2, two, seen.1.2, seen.2⟩

theorem evaluate_idempotent_resting : ∃ result decision,
    sampleVenue.evaluate sampleTicks (sampleResting (sampleAggregate sampleLimit) (Uuid.ofByte 7)) = .ok result ∧
      result.aggregate.state = .partiallyFilled ∧ result.fills.length = 1 ∧
      sampleVenue.evaluate sampleTicks (sampleResting result.aggregate (Uuid.ofByte 7)) =
        .ok ⟨decision, result.aggregate, [], []⟩ := by
  obtain ⟨result, _, returned, partly, one, _⟩ := sampleTwice_filled
  obtain ⟨decision, again⟩ := evaluate_idempotent returned
  exact ⟨result, decision, returned, partly, one, again⟩

end Augr.Simulation
