import Augr.Simulation.Restart

/-! What an order takes from the quotes it is evaluated against, over any number of evaluations. -/

set_option autoImplicit false

namespace Augr.Simulation

open Foundation Lifecycle MarketData

theorem splitDepth_numbered {depth bids asks : List DepthLevel} {sides : List DepthLevel × List DepthLevel}
    (ok : splitDepth bids asks depth = .ok sides) :
    (depth.Pairwise fun earlier later => earlier.side = later.side → earlier.level < later.level) ∧
      ∀ level ∈ depth, ((if level.side = .ask then asks else bids).length : Int) ≤ level.level := by
  induction depth generalizing bids asks with
  | nil => exact ⟨.nil, by simp⟩
  | cons level rest ih =>
    simp only [splitDepth, returns_iff, bne_eq_false_iff_eq] at ok
    obtain ⟨_, _, _, _, number, others⟩ := ok
    rw [List.pairwise_cons, List.forall_mem_cons]
    by_cases ask : level.side = .ask
    all_goals
      simp only [ask, ↓reduceIte] at others number ⊢
      obtain ⟨apart, above⟩ := ih others
      refine ⟨⟨fun later member same => ?_, apart⟩, number.ge, fun later member => ?_⟩
      all_goals
        have bound := above later member
        grind

theorem depth_numbered {snapshot : QuoteSnapshot} (valid : snapshot.validate = .ok ()) :
    snapshot.depth.Pairwise fun earlier later => earlier.side = later.side → earlier.level < later.level := by
  simp only [QuoteSnapshot.validate, QuoteSnapshot.validateDepth, returns_iff, Prod.exists] at valid
  obtain ⟨_, _, _, _, _, _, _, _, _, _, _, _, _, _, _, _, _, _, _, ⟨_, _, split, _⟩, _⟩ := valid
  exact (splitDepth_numbered split).1

section
variable {a : Aggregate} {order : Order} {snapshot : QuoteSnapshot} {asset : AssetPolicy} {lotSize : Decimal}
  {level : DepthLevel} {c : EligibleLevel}

theorem eligibleLevel_some (offered : eligibleLevel a order snapshot asset lotSize level = some c) :
    c.level = level ∧ level.side = depthSideFor order.side ∧ simulationLevelCrosses order level.price = true ∧
      simulationAggregateHasSourceEvent a
        (simulationFillSourceEventID order.id.toText snapshot.id.toText level.side level.level) = false := by
  unfold eligibleLevel at offered
  grind

/-- The fills of one order from one snapshot are named by the number of their level. -/
theorem sourceEventID_level {orderID snapshotID : String} {side : DepthSide} {first second : Int}
    (same : simulationFillSourceEventID orderID snapshotID side first =
      simulationFillSourceEventID orderID snapshotID side second) : first = second := by
  simp only [simulationFillSourceEventID, intText] at same
  have digits : intDigits first = intDigits second := by
    simpa using congrArg String.toList same
  have parsed := parseInt_intDigits first
  rw [digits, parseInt_intDigits] at parsed
  exact (Option.some.inj parsed).symm

theorem eligibleLevels_apart (valid : snapshot.validate = .ok ()) :
    (eligibleLevels a order snapshot asset lotSize).Pairwise fun earlier later =>
      earlier.level.side = later.level.side ∧ earlier.level.level < later.level.level := by
  unfold eligibleLevels
  rw [List.pairwise_filterMap]
  apply (depth_numbered valid).imp
  intro earlier later numbered c offered d also
  obtain ⟨rfl, side, _⟩ := eligibleLevel_some offered
  obtain ⟨rfl, same, _⟩ := eligibleLevel_some also
  exact ⟨side.trans same.symm, numbered (side.trans same.symm)⟩

end

/-- A price that is not worse than the limit of the order. -/
def WithinLimit (order : Order) (price : Decimal) : Prop :=
  order.orderType = .market ∨ ∃ limit, order.limitPrice = some limit ∧
    if order.side = .buy then price.toRat ≤ limit.toRat else limit.toRat ≤ price.toRat

structure Admitted (order : Order) (fill : Fill) : Prop where
  source : fill.source = "simulation"
  positive : 0 < fill.quantity.toRat
  price : WithinLimit order fill.price

/-- What an order has taken: never more than it asked for, nor worse than its limit, nor from one level twice. -/
structure Takes (order : Order) (a : Aggregate) : Prop where
  placed : a.order = some order
  within : a.filledQuantity ≤ order.quantity.toRat
  admitted : ∀ fill ∈ a.fills, Admitted order fill
  apart : (a.fills.map fun fill => fill.sourceEventID).Nodup

theorem withinLimit_of_crosses {order : Order} {price : Decimal} (crosses : simulationLevelCrosses order price = true) :
    WithinLimit order price := by
  unfold simulationLevelCrosses at crosses
  by_cases market : order.orderType = .market
  · exact Or.inl market
  · cases isLimit : order.limitPrice with
    | none => simp [market, isLimit] at crosses
    | some limit =>
      refine Or.inr ⟨limit, isLimit, ?_⟩
      by_cases buys : order.side = .buy <;> simp_all [← Bool.not_eq_true]

section
variable {ticks : Ticks} {input : SimulationFillInput} {order : Order} {s final : Filling} {result : Result}

theorem Walk.tracks {levels : List EligibleLevel} (walk : Walk ticks input s levels final) (tracks : Tracks order s)
    (left : 0 ≤ s.remaining.toRat) : Tracks order final ∧ 0 ≤ final.remaining.toRat := by
  induction walk with
  | done s => exact ⟨tracks, left⟩
  | full levels zero => exact ⟨tracks, left⟩
  | @take s next final c rest t effect took _ ih =>
    have k := took.took tracks
    apply ih k.tracks
    have most := (s.takes_le c).2
    rw [k.remaining]
    linarith

theorem Ended.kept (ended : Ended s result) (placed : s.aggregate.order = some order) :
    result.aggregate.order = some order ∧ result.aggregate.fills = s.aggregate.fills := by
  cases ended with
  | still same _ => exact ⟨by rw [same, placed], by rw [same]⟩
  | observed t stepped plain _ =>
    refine ⟨step_order stepped placed, ?_⟩
    rw [step_links stepped, links_plain plain]
    simp

variable {venue : Venue} {request : EvaluationRequest} {accepted : AcceptedRequest}

theorem sourceEventIDs_of_filled {taken : List EligibleLevel} {new : List Fill}
    (each : List.Forall₂ (FilledFrom input order) taken new) :
    (new.map fun fill => fill.sourceEventID) = taken.map fun c =>
      simulationFillSourceEventID order.id.toText input.snapshot.id.toText c.level.side c.level.level := by
  induction each with
  | nil => rfl
  | cons filled _ ih => rw [List.map_cons, List.map_cons, filled.event, ih]

/-- The fills of a walk are new: each is from another level, and none of the levels made a fill before. -/
theorem Walk.takes {assessment : QuoteAssessment} (takes : Takes accepted.order accepted.aggregate)
    (assessed : request.snapshot.assessForExecution request.evaluatedAt accepted.asset.quoteRequirements
      request.instrument request.venueContract = .ok assessment)
    (walk : Walk ticks (request.fillInput venue accepted assessment) accepted.start (accepted.levels request) final)
    (tracks : Tracks accepted.order accepted.start) : Takes accepted.order final.aggregate := by
  obtain ⟨placed, _, taken, new, ahead, more, each⟩ := walk.fills takes.placed
  obtain ⟨tracked, left⟩ := walk.tracks tracks (by rw [tracks.open_]; exact sub_nonneg.mpr takes.within)
  have valid : request.snapshot.validate = .ok () := by
    simp only [QuoteSnapshot.assessForExecution, QuoteSnapshot.assess, returns_iff] at assessed
    obtain ⟨_, ⟨valid, _⟩, _⟩ := assessed
    exact valid
  have offered : ∀ c ∈ taken, c.level.side = depthSideFor accepted.order.side ∧
      simulationLevelCrosses accepted.order c.level.price = true ∧ simulationAggregateHasSourceEvent accepted.aggregate
        (simulationFillSourceEventID accepted.order.id.toText request.snapshot.id.toText c.level.side c.level.level) = false := by
    intro c member
    obtain ⟨level, _, isLevel⟩ := List.mem_filterMap.mp (ahead.subset member)
    obtain ⟨rfl, rest⟩ := eligibleLevel_some isLevel
    exact rest
  refine ⟨placed, ?_, ?_, ?_⟩
  · rw [tracked.open_] at left
    linarith
  · intro fill member
    rw [more] at member
    rcases List.mem_append.mp member with earlier | isNew
    · exact takes.admitted fill earlier
    · obtain ⟨c, isTaken, filled⟩ := exists_left_of_mem each isNew
      exact ⟨filled.source, filled.positive, filled.price ▸ withinLimit_of_crosses (offered c isTaken).2.1⟩
  · rw [more, List.map_append, sourceEventIDs_of_filled each, List.nodup_append]
    refine ⟨takes.apart, ?_, ?_⟩
    · refine List.pairwise_map.mpr (((eligibleLevels_apart valid).sublist ahead.sublist).imp ?_)
      rintro first second ⟨side, below⟩ same
      rw [side] at same
      exact below.ne (sourceEventID_level same)
    · rintro _ known _ isNew rfl
      obtain ⟨c, isTaken, named⟩ := List.mem_map.mp isNew
      obtain ⟨fill, earlier, same⟩ := List.mem_map.mp known
      -- a level is only offered when no fill of the simulation has its name
      have unused := (offered c isTaken).2.2
      simp only [simulationAggregateHasSourceEvent, List.any_eq_false, Bool.and_eq_true, beq_iff_eq] at unused
      exact unused fill earlier ⟨(takes.admitted fill earlier).source, same.trans named.symm⟩

end

theorem evaluate_takes {venue : Venue} {ticks : Ticks} {request : EvaluationRequest} {a : Aggregate} {order : Order}
    {result : Result} (given : request.aggregate = some a) (takes : Takes order a)
    (ok : venue.evaluate ticks request = .ok result) : Takes order result.aggregate := by
  obtain ⟨accepted, valid, evaluated⟩ := evaluate_ok ok
  have passed := validateRequest_ok_iff.mp valid
  obtain rfl : accepted.aggregate = a := Option.some.inj (passed.given.symm.trans given)
  obtain rfl : accepted.order = order := Option.some.inj (passed.placed.symm.trans takes.placed)
  have ended {s : Filling} (walked : Takes accepted.order s.aggregate) (ended : Ended s result) :
      Takes accepted.order result.aggregate := by
    obtain ⟨placed, same⟩ := ended.kept walked.placed
    refine ⟨placed, ?_, same ▸ walked.admitted, same ▸ walked.apart⟩
    rw [Aggregate.filledQuantity, same]
    exact walked.within
  cases evaluated with
  | quiet quiet _ => exact ended (s := accepted.start) takes quiet
  | walked assessment s assessed walk settled _ => exact ended (walk.takes takes assessed passed.tracks) settled

/-- However often and against whatever quotes an order is evaluated, it takes no more than it asked for, nothing
worse than its limit, and nothing from one level of a quote twice. -/
theorem evaluations_take {start a : Aggregate} {results : List Result} {order : Order}
    (evaluations : Evaluations start results a) (placed : start.order = some order) (unfilled : start.fills = [])
    (asks : 0 ≤ order.quantity.toRat) : Takes order a := by
  induction evaluations with
  | none => exact ⟨placed, by simpa [Aggregate.filledQuantity, unfilled] using asks, by simp [unfilled], by simp [unfilled]⟩
  | next _ venue ticks request given ok ih => exact evaluate_takes given ih ok

theorem sampleTwice_evaluations : ∃ first second,
    Evaluations (sampleAggregate sampleLimit) [first, second] second.aggregate ∧
      first.aggregate.state = .partiallyFilled ∧ first.fills.length = 1 ∧ second.fills.length = 1 := by
  obtain ⟨first, second, one, partly, filled, two, _, more⟩ := sampleTwice_filled
  exact ⟨first, second, .next (.next .none sampleVenue sampleTicks _ rfl one) sampleVenue sampleTicks _ rfl two, partly,
    filled, more⟩

theorem evaluations_take_twice : ∃ first second,
    Evaluations (sampleAggregate sampleLimit) [first, second] second.aggregate ∧
      first.fills.length = 1 ∧ second.fills.length = 1 ∧ Takes sampleLimit second.aggregate := by
  obtain ⟨first, second, evaluations, _, filled, more⟩ := sampleTwice_evaluations
  exact ⟨first, second, evaluations, filled, more, evaluations_take evaluations rfl rfl (by decide +kernel)⟩

section
variable {ticks : Ticks} {s final : Filling} {result : Result}

theorem Walk.steps {input : SimulationFillInput} {levels : List EligibleLevel} (walk : Walk ticks input s levels final) :
    ∃ made, final.transitions = s.transitions ++ made ∧ made.foldlM Aggregate.step s.aggregate = .ok final.aggregate := by
  induction walk with
  | done s => exact ⟨[], by simp, rfl⟩
  | full levels zero => exact ⟨[], by simp, rfl⟩
  | take took _ ih =>
    obtain ⟨made, rest, stepped⟩ := ih
    refine ⟨_ :: made, by rw [rest, took.transitions, List.append_assoc, List.singleton_append], ?_⟩
    rw [List.foldlM_cons, took.stepped, ok_bind, stepped]

theorem Ended.steps (ended : Ended s result) :
    ∃ made, result.transitions = s.transitions ++ made ∧ made.foldlM Aggregate.step s.aggregate = .ok result.aggregate := by
  cases ended with
  | still same transitions => exact ⟨[], by simpa using transitions, by rw [same]; rfl⟩
  | observed t stepped _ transitions => exact ⟨[t], transitions, by simpa using stepped⟩

end

theorem evaluate_steps {venue : Venue} {ticks : Ticks} {request : EvaluationRequest} {a : Aggregate} {result : Result}
    (given : request.aggregate = some a) (ok : venue.evaluate ticks request = .ok result) :
    result.transitions.foldlM Aggregate.step a = .ok result.aggregate := by
  obtain ⟨accepted, valid, evaluated⟩ := evaluate_ok ok
  obtain rfl : accepted.aggregate = a := Option.some.inj ((validateRequest_ok_iff.mp valid).given.symm.trans given)
  cases evaluated with
  | quiet ended _ =>
    obtain ⟨made, isMade, stepped⟩ := ended.steps
    rw [isMade]
    exact stepped
  | walked _ s _ walk ended _ =>
    obtain ⟨taken, isTaken, walked⟩ := walk.steps
    obtain ⟨made, isMade, stepped⟩ := ended.steps
    rw [isMade, isTaken, List.foldlM_append]
    exact bind_ok_iff.mpr ⟨s.aggregate, walked, stepped⟩

/-- The venue moves an order only by steps that the lifecycle accepts, and returns all of them. -/
theorem evaluations_step {start a : Aggregate} {results : List Result} (evaluations : Evaluations start results a) :
    (results.flatMap Result.transitions).foldlM Aggregate.step start = .ok a ∧ (Invariant start → Invariant a) := by
  suffices steps : (results.flatMap Result.transitions).foldlM Aggregate.step start = .ok a from
    ⟨steps, fun invariant => foldlM_preserves Invariant (fun _ _ _ kept stepped => kept.step stepped) invariant steps⟩
  induction evaluations with
  | none => rfl
  | next _ venue ticks request given ok ih =>
    rw [List.flatMap_append, List.foldlM_append, ih, ok_bind, List.flatMap_singleton]
    exact evaluate_steps given ok

theorem evaluations_step_twice : ∃ first second,
    Evaluations (sampleAggregate sampleLimit) [first, second] second.aggregate ∧
      first.aggregate.state = .partiallyFilled ∧
      (first.transitions ++ second.transitions).foldlM Aggregate.step (sampleAggregate sampleLimit) =
        .ok second.aggregate := by
  obtain ⟨first, second, evaluations, partly, _⟩ := sampleTwice_evaluations
  have steps := (evaluations_step evaluations).1
  exact ⟨first, second, evaluations, partly, by simpa using steps⟩

end Augr.Simulation
