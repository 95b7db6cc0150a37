import Augr.Lifecycle.Links
import Augr.Simulation.Venue

/-! What one evaluation does to the lifecycle: the fills of a walk over the depth, and at most one observation after them. -/

set_option autoImplicit false

namespace Augr.Simulation

open Foundation Lifecycle MarketData Ledger Text

variable {a : Aggregate} {n : EconomicNormalization} {kind : EventKind} {s : Filling} {input : SimulationFillInput}
  {t : Transition} {clock : Reading} {ticks : Ticks}

theorem intDigits_last (value : Int) : ∃ front last, intDigits value = front ++ [last] ∧ last.isDigit = true := by
  have digits : Nat.toDigits 10 value.natAbs ≠ [] := Nat.toDigits_ne_nil
  refine ⟨(if value < 0 then ['-'] else []) ++ (Nat.toDigits 10 value.natAbs).dropLast,
    (Nat.toDigits 10 value.natAbs).getLast digits, ?_, isDigit_toDigits (List.getLast_mem digits)⟩
  rw [intDigits, List.append_assoc, List.dropLast_append_getLast digits]

theorem trimSpace_fillSourceEventID (orderID snapshotID : String) (side : DepthSide) (level : Int) :
    trimSpace (simulationFillSourceEventID orderID snapshotID side level) =
      simulationFillSourceEventID orderID snapshotID side level := by
  obtain ⟨front, last, digits, digit⟩ := intDigits_last level
  have shape : ∃ middle, (simulationFillSourceEventID orderID snapshotID side level).toList = 'o' :: middle ++ [last] := by
    refine ⟨"rders/".toList ++ orderID.toList ++ "/snapshots/".toList ++ snapshotID.toList ++ "/fills/".toList ++
      side.text.toList ++ "/".toList ++ front, ?_⟩
    simp only [simulationFillSourceEventID, intText, String.toList_append, String.toList_ofList, digits]
    simp
  obtain ⟨middle, shape⟩ := shape
  rw [trimSpace_eq, shape, trim_between (by decide) (isSpace_of_isDigit digit), ← shape, String.ofList_toList]

structure BuiltFill (input : SimulationFillInput) (a : Aggregate) (order : Order) (candidate : EligibleLevel)
    (quantity : Decimal) (t : Transition) (effect : FillEffect) (fill : Fill) : Prop where
  placed : a.order = some order
  isFill : t.fill = some fill
  reported : effect.fill = fill ∧ effect.quantity = quantity ∧ effect.price = candidate.level.price
  isEvent : t.event.isFill = true
  normalized : ∃ n, t.normalization = some n
  charged : input.policy.fillFee input.instrument.assetClass quantity candidate.level.price
    input.venueContract.multiplier a.fills.isEmpty = .ok effect.fee
  taken : Taken a t
  positive : 0 < fill.quantity.toRat
  quantity : fill.quantity = quantity
  price : fill.price = candidate.level.price
  source : fill.source = "simulation"
  event : fill.sourceEventID = simulationFillSourceEventID order.id.toText input.snapshot.id.toText candidate.level.side
    candidate.level.level

theorem newEconomicNormalization_source {input : EconomicNormalizationBaseInput} {eventType : EconomicEventType}
    (ok : newEconomicNormalization clock input eventType = .ok n) : n.sourceEvent = input.sourceEvent := by
  unfold newEconomicNormalization at ok
  split at ok
  · rename_i isSource _
    cases ok
    exact isSource.symm
  · cases ok

theorem newFillEconomicNormalization_carries {clocks : Clocks} {input : FillEconomicEventInput}
    (ok : newFillEconomicNormalization clocks input = .ok n) :
    n.quantity = some input.quantity ∧ n.price = some input.price ∧ n.sourceEvent = input.base.sourceEvent := by
  unfold newFillEconomicNormalization at ok
  split at ok
  case h_3 => cases ok
  all_goals
    simp only [returns_iff, EconomicNormalization.materializeAndValidate] at ok
    obtain ⟨_, _, bare, made, _, _, _, _, rfl⟩ := ok
    have source := newEconomicNormalization_source made
    exact ⟨rfl, rfl, source⟩

theorem recordFill_carries {validated : Reading} {filling : FillInput} {source : EconomicSourceEvent}
    {quantity price : Decimal} (ok : recordFill validated clock (some a) filling = .ok t)
    (given : filling.normalization = some n) (isSource : n.sourceEvent = some source)
    (isQuantity : n.quantity = some quantity) (isPrice : n.price = some price) :
    ∃ fill, t.fill = some fill ∧ fill.quantity = quantity ∧ fill.price = price ∧ fill.source = source.source ∧
      fill.sourceEventID = source.sourceEventID := by
  simp only [recordFill, returns_iff, admitting_some_iff, Prod.exists, given, Option.some.injEq] at ok
  obtain ⟨_, ⟨_, rfl⟩, order, placed, _, _, _, rfl, _, _, _, there, _, _, _, _, _, _, q, isQ, p, isP, _, _, binding, created,
    _, event, _, _, rfl⟩ := ok
  rw [isSource, Option.some.injEq] at there
  rw [isQuantity, Option.some.injEq] at isQ
  rw [isPrice, Option.some.injEq] at isP
  subst there isQ isP
  exact ⟨_, rfl, rfl, rfl, rfl, rfl⟩

theorem newEconomicSourceEvent_source {input : EconomicSourceEventInput} {source : EconomicSourceEvent}
    (ok : newEconomicSourceEvent clock input = .ok source) :
    source.source = toLower (trimSpace input.source) ∧ source.sourceEventID = trimSpace input.sourceEventID := by
  simp only [newEconomicSourceEvent, returns_iff] at ok
  obtain ⟨_, _, rfl⟩ := ok
  exact ⟨rfl, rfl⟩

theorem buildSimulationFill_ok {clocks : FillClocks} {candidate : EligibleLevel} {quantity : Decimal}
    {effect : FillEffect} (ok : buildSimulationFill clocks input a candidate quantity = .ok (t, effect)) :
    ∃ order fill, BuiltFill input a order candidate quantity t effect fill := by
  simp only [buildSimulationFill, returns_iff, Prod.mk.injEq] at ok
  obtain ⟨order, placed, fee, charged, path, _, source, stored, n, normalized, t, recorded, fill, isFill, rfl, rfl⟩ := ok
  obtain ⟨isSource, isEvent⟩ := newEconomicSourceEvent_source stored
  obtain ⟨isQuantity, isPrice, ofSource⟩ := newFillEconomicNormalization_carries normalized
  obtain ⟨other, isOther, quantities, prices, sources, events⟩ :=
    recordFill_carries recorded rfl ofSource isQuantity isPrice
  obtain rfl : fill = other := Option.some.inj (isFill.symm.trans isOther)
  obtain ⟨_, same, n, _, _, _, facts⟩ := recordFill_ok recorded
  obtain rfl : fill = same := Option.some.inj (isFill.symm.trans facts.carried.isFill)
  have fillEvent : t.event.isFill = true := by
    rcases facts.kind with kind | kind <;> simp [Event.isFill, kind]
  have lower : toLower (trimSpace "simulation") = "simulation" := by decide
  exact ⟨order, fill, placed, isFill, ⟨rfl, rfl, rfl⟩, fillEvent, ⟨n, facts.carried.isNormalization⟩, charged,
    recordFill_taken recorded, Fill.quantity_of_validate facts.carried.valid, quantities, prices,
    by rw [sources, isSource]; exact lower, by rw [events, isEvent]; exact trimSpace_fillSourceEventID _ _ _ _⟩

structure TookLevel (ticks : Ticks) (input : SimulationFillInput) (s : Filling) (c : EligibleLevel) (t : Transition)
    (effect : FillEffect) (next : Filling) : Prop where
  unfinished : s.remaining.isZero = false
  built : buildSimulationFill (ticks.fill s.aggregate.fills.length) input s.aggregate c (s.takes c) = .ok (t, effect)
  stepped : s.aggregate.step t = .ok next.aggregate
  remaining : next.remaining = s.remaining.sub (s.takes c)
  transitions : next.transitions = s.transitions ++ [t]
  fills : next.fills = s.fills ++ [effect]

theorem fillLevel_ok_iff {next : Filling} {c : EligibleLevel} :
    fillLevel ticks input s c = .ok next ↔
      s.remaining.isZero = true ∧ s = next ∨ ∃ t effect, TookLevel ticks input s c t effect next := by
  unfold fillLevel
  cases zero : s.remaining.isZero with
  | true =>
    simp only [if_true, Except.ok.injEq, true_and]
    constructor
    · exact Or.inl
    · rintro (same | ⟨t, effect, took⟩)
      · exact same
      · rw [took.unfinished] at zero
        cases zero
  | false =>
    simp only [Bool.false_eq_true, if_false, false_and, false_or, returns_iff, Prod.exists, applyTransition]
    constructor
    · rintro ⟨t, effect, built, after, stepped, rfl⟩
      exact ⟨t, effect, zero, built, stepped, rfl, rfl, rfl⟩
    · rintro ⟨t, effect, _, built, stepped, remaining, transitions, fills⟩
      refine ⟨t, effect, built, next.aggregate, stepped, ?_⟩
      rw [← remaining, ← transitions, ← fills]

/-- The levels that are taken before nothing remains or they end. -/
inductive Walk (ticks : Ticks) (input : SimulationFillInput) : Filling → List EligibleLevel → Filling → Prop where
  | done (s : Filling) : Walk ticks input s [] s
  | full {s : Filling} (levels : List EligibleLevel) (zero : s.remaining.isZero = true) : Walk ticks input s levels s
  | take {s next final : Filling} {c : EligibleLevel} {rest : List EligibleLevel} {t : Transition} {effect : FillEffect}
      (took : TookLevel ticks input s c t effect next) (walk : Walk ticks input next rest final) :
      Walk ticks input s (c :: rest) final

theorem foldlM_full (zero : s.remaining.isZero = true) (levels : List EligibleLevel) :
    levels.foldlM (fillLevel ticks input) s = .ok s := by
  induction levels with
  | nil => rfl
  | cons c rest ih =>
    have skipped : fillLevel ticks input s c = .ok s := fillLevel_ok_iff.mpr (Or.inl ⟨zero, rfl⟩)
    rw [List.foldlM_cons, skipped, ok_bind, ih]

theorem walk_iff {final : Filling} {levels : List EligibleLevel} :
    levels.foldlM (fillLevel ticks input) s = .ok final ↔ Walk ticks input s levels final := by
  constructor
  · induction levels generalizing s with
    | nil =>
      intro ok
      cases ok
      exact .done _
    | cons c rest ih =>
      intro ok
      rw [List.foldlM_cons, bind_ok_iff] at ok
      obtain ⟨next, first, after⟩ := ok
      rcases fillLevel_ok_iff.mp first with ⟨zero, rfl⟩ | ⟨t, effect, took⟩
      · rw [foldlM_full zero] at after
        cases after
        exact .full _ zero
      · exact .take took (ih after)
  · intro walk
    induction walk with
    | done s => rfl
    | full levels zero => exact foldlM_full zero levels
    | take took _ ih =>
      rw [List.foldlM_cons, fillLevel_ok_iff.mpr (Or.inr ⟨_, _, took⟩), ok_bind, ih]

structure FilledFrom (input : SimulationFillInput) (order : Order) (c : EligibleLevel) (fill : Fill) : Prop where
  positive : 0 < fill.quantity.toRat
  within : fill.quantity.toRat ≤ c.capacity.toRat
  price : fill.price = c.level.price
  source : fill.source = "simulation"
  event : fill.sourceEventID = simulationFillSourceEventID order.id.toText input.snapshot.id.toText c.level.side
    c.level.level

theorem Filling.takes_le (s : Filling) (c : EligibleLevel) :
    (s.takes c).toRat ≤ c.capacity.toRat ∧ (s.takes c).toRat ≤ s.remaining.toRat := by
  unfold Filling.takes
  split
  · rename_i more
    rw [Decimal.greaterThan_iff] at more
    exact ⟨le_of_lt more, le_refl _⟩
  · rename_i notMore
    rw [Bool.not_eq_true, Decimal.greaterThan_eq_false_iff] at notMore
    exact ⟨le_refl _, notMore⟩

theorem TookLevel.built_ok {next : Filling} {c : EligibleLevel} {effect : FillEffect}
    (took : TookLevel ticks input s c t effect next) :
    ∃ order fill, BuiltFill input s.aggregate order c (s.takes c) t effect fill ∧
      next.aggregate.fills = s.aggregate.fills ++ [fill] ∧ FilledFrom input order c fill := by
  obtain ⟨order, fill, built⟩ := buildSimulationFill_ok took.built
  obtain ⟨n, isNormalization⟩ := built.normalized
  have added := step_links took.stepped
  rw [links_fill built.isEvent built.isFill isNormalization] at added
  refine ⟨order, fill, built, added, built.positive, ?_, built.price, built.source, built.event⟩
  rw [built.quantity]
  exact (s.takes_le c).1

theorem Walk.fills {final : Filling} {levels : List EligibleLevel} {order : Order}
    (walk : Walk ticks input s levels final) (placed : s.aggregate.order = some order) :
    final.aggregate.order = some order ∧ final.aggregate.intent = s.aggregate.intent ∧
      ∃ taken new, taken <+: levels ∧ final.aggregate.fills = s.aggregate.fills ++ new ∧
        List.Forall₂ (FilledFrom input order) taken new := by
  induction walk with
  | done s => exact ⟨placed, rfl, [], [], List.prefix_refl _, by simp, .nil⟩
  | full levels zero => exact ⟨placed, rfl, [], [], List.nil_prefix, by simp, .nil⟩
  | take took _ ih =>
    obtain ⟨same, fill, built, added, filled⟩ := took.built_ok
    obtain rfl : order = same := Option.some.inj (placed.symm.trans built.placed)
    obtain ⟨kept, intent, taken, new, ahead, more, each⟩ := ih (step_order took.stepped placed)
    refine ⟨kept, intent.trans (step_intent took.stepped), _ :: taken, fill :: new, ?_, ?_, .cons filled each⟩
    · exact (List.prefix_cons_inj _).mpr ahead
    · rw [more, added, List.append_assoc, List.singleton_append]

/-- One more transition, without a fill. -/
structure Observed (before after : Result) (t : Transition) : Prop where
  stepped : before.aggregate.step t = .ok after.aggregate
  plain : t.event.isFill = false
  transitions : after.transitions = before.transitions ++ [t]
  fills : after.fills = before.fills

theorem acknowledge_kind {externalOrderID : String} {input : EventInput} {createdAt : Instant}
    (ok : acknowledge clock (some a) externalOrderID input createdAt = .ok t) :
    t.event.kind = .orderWorking ∧ t.event.nextState = .working := by
  simp only [acknowledge, returns_iff, admitting_some_iff] at ok
  obtain ⟨_, _, _, _, _, _, event, built, _, rfl⟩ := ok
  exact ⟨(newEvent_ok built).isKind, (newEvent_ok built).isNext⟩

theorem observeOrderTerminal_kind {input : EventInput} {createdAt : Instant}
    (ok : observeOrderTerminal clock (some a) kind input createdAt = .ok t) :
    t.event.kind = kind ∧ terminalState kind = some t.event.nextState := by
  unfold observeOrderTerminal at ok
  simp only [returns_iff, admitting_some_iff] at ok
  obtain ⟨_, ⟨_, rfl⟩, order, placed, rest⟩ := ok
  split at rest
  · cases rest
  · rename_i next isNext
    simp only [returns_iff] at rest
    obtain ⟨_, _, event, built, _, rfl⟩ := rest
    refine ⟨(newEvent_ok built).isKind, isNext.trans ?_⟩
    exact congrArg some (newEvent_ok built).isNext.symm

section
variable {venue : Venue} {clock : Reading} {before after : Result} {request : EvaluationRequest} {order : Order}
  {session : Option SessionWindow} {decision : Decision} {reason : String}

theorem ensureWorking_ok (ok : venue.ensureWorking clock before request order session decision reason = .ok after) :
    before.aggregate.state ≠ .routed ∧ after = { before with decision := decision } ∨
      before.aggregate.state = .routed ∧ after.aggregate.state = .working ∧ ∃ t, Observed before after t := by
  unfold Venue.ensureWorking at ok
  by_cases routed : before.aggregate.state = .routed
  · right
    simp only [routed, ne_eq, not_true_eq_false, if_false, returns_iff, applyTransition] at ok
    obtain ⟨path, _, t, built, next, stepped, rfl⟩ := ok
    obtain ⟨kind, following⟩ := acknowledge_kind built
    refine ⟨routed, ?_, t, stepped, by simp [Event.isFill, kind], rfl, rfl⟩
    obtain ⟨_, _, _, rfl⟩ := step_effect stepped
    exact following
  · left
    simp only [ne_eq, routed, not_false_eq_true, if_true, pure_ok_iff] at ok
    exact ⟨routed, ok.symm⟩

theorem applyTerminal_ok {sourceAt : Instant} {snapshot : Option QuoteSnapshot}
    (ok : venue.applyTerminal clock before request order kind decision reason sourceAt snapshot session = .ok after) :
    terminalState kind = some after.aggregate.state ∧ ∃ t, Observed before after t := by
  simp only [Venue.applyTerminal, returns_iff, applyTransition] at ok
  obtain ⟨path, _, t, built, next, stepped, rfl⟩ := ok
  obtain ⟨isKind, following⟩ := observeOrderTerminal_kind built
  have plain : t.event.isFill = false := by
    rw [Event.isFill, isKind]
    cases kind <;> first | rfl | cases following
  refine ⟨?_, t, stepped, plain, rfl, rfl⟩
  obtain ⟨_, _, _, rfl⟩ := step_effect stepped
  exact following

end

def AcceptedRequest.start (accepted : AcceptedRequest) : Filling := ⟨accepted.aggregate, accepted.remaining, [], []⟩

def Filling.unsettled (s : Filling) : Result := ⟨.noop, s.aggregate, s.transitions, s.fills⟩

section
variable (venue : Venue) (ticks : Ticks) (request : EvaluationRequest) (accepted : AcceptedRequest)

/-- How the rest of the order is settled after the walk. -/
inductive Settled (s : Filling) (result : Result) : Prop where
  | filled (full : s.aggregate.state = .filled) (isResult : { s.unsettled with decision := .filled } = result)
  | cancelled (unfilled : s.aggregate.state ≠ .filled) (ioc : accepted.order.timeInForce = .ioc)
      (ended : venue.applyTerminal ticks.observation s.unsettled request accepted.order .orderCancelled .cancelled
        "ioc_remainder_cancelled" (simulationSnapshotSourceAt request.snapshot) (some request.snapshot)
        accepted.session = .ok result)
  | partly (unfilled : s.aggregate.state ≠ .filled) (resting : accepted.order.timeInForce ≠ .ioc) (took : s.fills ≠ [])
      (isResult : { s.unsettled with decision := .partiallyFilled } = result)
  | rested (unfilled : s.aggregate.state ≠ .filled) (resting : accepted.order.timeInForce ≠ .ioc) (untaken : s.fills = [])
      (ended : venue.ensureWorking ticks.observation s.unsettled request accepted.order accepted.session .resting
        "no_marketable_depth" = .ok result)

def AcceptedRequest.insufficient : Bool :=
  accepted.order.timeInForce = .fok && (totalCapacity (accepted.levels request)).lessThan accepted.remaining

inductive Executed (assessment : QuoteAssessment) (result : Result) : Prop where
  | insufficient (short : accepted.insufficient request = true)
      (ended : venue.applyTerminal ticks.observation (.untouched accepted.aggregate) request accepted.order .orderRejected
        .rejected "fok_insufficient_depth" (simulationSnapshotSourceAt request.snapshot) (some request.snapshot)
        accepted.session = .ok result)
  | walked (enough : accepted.insufficient request = false) (s : Filling)
      (walk : Walk ticks (request.fillInput venue accepted assessment) accepted.start (accepted.levels request) s)
      (settled : Settled venue ticks request accepted s result)

/-- The quote became available before the latency of the order had passed. -/
def AcceptedRequest.early : Bool :=
  !request.snapshot.availableAt.any fun availableAt =>
    !availableAt.before (accepted.order.routedAt.add accepted.asset.fixedLatency)

def AcceptedRequest.immediate : Bool :=
  accepted.order.timeInForce = .ioc || accepted.order.timeInForce = .fok

def Assessed (assessment : QuoteAssessment) : Prop :=
  request.snapshot.assessForExecution request.evaluatedAt accepted.asset.quoteRequirements request.instrument
      request.venueContract = .ok assessment ∧
    (assessment.snapshotID != request.snapshot.id || !assessment.evaluatedAt.equal request.evaluatedAt) = false

inductive Observes (result : Result) : Prop where
  | waited (assessment : QuoteAssessment) (assessed : Assessed request accepted assessment)
      (early : accepted.early request = true) (immediate : accepted.immediate = true)
      (isResult : { Result.untouched accepted.aggregate with decision := .waitingLatency } = result)
  | acknowledged (assessment : QuoteAssessment) (assessed : Assessed request accepted assessment)
      (early : accepted.early request = true) (resting : accepted.immediate = false)
      (ended : venue.ensureWorking ticks.observation (.untouched accepted.aggregate) request accepted.order
        accepted.session .waitingLatency "fixed_latency_pending" = .ok result)
  | executed (assessment : QuoteAssessment) (assessed : Assessed request accepted assessment)
      (ready : accepted.early request = false)
      (executed : Executed venue ticks request accepted assessment result)

def AcceptedRequest.routedOutside : Bool :=
  accepted.session.isNone && accepted.asset.calendar.kind = .explicitSessions

def AcceptedRequest.closed : Option SessionWindow :=
  accepted.session.filter fun s => accepted.order.timeInForce = .day && !request.evaluatedAt.before s.closeAt

def AcceptedRequest.outsideNow : Bool :=
  accepted.asset.calendar.kind = .explicitSessions &&
    !simulationTimeInSession accepted.asset.calendar request.evaluatedAt && accepted.order.timeInForce = .gtc

inductive Attends (result : Result) : Prop where
  | rejected (outside : accepted.routedOutside = true)
      (ended : venue.applyTerminal ticks.observation (.untouched accepted.aggregate) request accepted.order .orderRejected
        .rejected "route_outside_session" accepted.order.routedAt none none = .ok result)
  | expired (inside : accepted.routedOutside = false) (s : SessionWindow) (closed : accepted.closed request = some s)
      (ended : venue.applyTerminal ticks.observation (.untouched accepted.aggregate) request accepted.order .orderExpired
        .expired "day_session_closed" s.closeAt (some request.snapshot) (some s) = .ok result)
  | rested (inside : accepted.routedOutside = false) (running : accepted.closed request = none)
      (outside : accepted.outsideNow request = true)
      (ended : venue.ensureWorking ticks.observation (.untouched accepted.aggregate) request accepted.order
        accepted.session .resting "outside_current_session" = .ok result)
  | observed (inside : accepted.routedOutside = false) (running : accepted.closed request = none)
      (trading : accepted.outsideNow request = false) (observes : Observes venue ticks request accepted result)

end

section
variable {venue : Venue} {ticks : Ticks} {request : EvaluationRequest} {accepted : AcceptedRequest} {result : Result}

theorem execute_ok_iff {assessment : QuoteAssessment} :
    venue.execute ticks request accepted assessment = .ok result ↔ Executed venue ticks request accepted assessment result := by
  unfold Venue.execute
  dsimp only
  constructor
  · intro ok
    split at ok
    · rename_i short
      exact .insufficient short ok
    · rename_i enough
      obtain ⟨s, walked, after⟩ := bind_ok_iff.mp ok
      refine .walked (Bool.not_eq_true _ ▸ enough) s (walk_iff.mp walked) ?_
      split at after
      · rename_i full
        exact .filled full (Except.ok.inj after)
      · rename_i unfilled
        split at after
        · rename_i ioc
          exact .cancelled unfilled ioc after
        · rename_i resting
          split at after
          · rename_i took
            exact .partly unfilled resting (by simpa using took) (Except.ok.inj after)
          · rename_i untaken
            exact .rested unfilled resting (by simpa using untaken) after
  · rintro (⟨short, ended⟩ | ⟨enough, s, walk, settled⟩)
    · exact (if_pos short).trans ended
    · refine (if_neg (ne_true_of_eq_false enough)).trans (bind_ok_iff.mpr ⟨s, walk_iff.mpr walk, ?_⟩)
      cases settled with
      | filled full isResult => rw [if_pos full, ← isResult]; rfl
      | cancelled unfilled ioc ended => rw [if_neg unfilled, if_pos ioc]; exact ended
      | partly unfilled resting took isResult => 
          rw [if_neg unfilled, if_neg resting, if_pos (by simpa using took), ← isResult]
          rfl
      | rested unfilled resting untaken ended =>
        rw [if_neg unfilled, if_neg resting, if_neg (by simpa using untaken)]
        exact ended

theorem observe_ok_iff :
    venue.observe ticks request accepted = .ok result ↔ Observes venue ticks request accepted result := by
  simp only [Venue.observe, returns_iff, refused]
  constructor
  · rintro ⟨assessment, assessed, matched, rest⟩
    split at rest
    · rename_i early
      split at rest
      · rename_i immediate
        exact .waited assessment ⟨assessed, matched⟩ early immediate (Except.ok.inj rest)
      · rename_i resting
        exact .acknowledged assessment ⟨assessed, matched⟩ early (Bool.not_eq_true _ ▸ resting) rest
    · rename_i ready
      exact .executed assessment ⟨assessed, matched⟩ (Bool.not_eq_true _ ▸ ready) (execute_ok_iff.mp rest)
  · intro observes
    cases observes with
    | waited assessment assessed early immediate isResult =>
      refine ⟨assessment, assessed.1, assessed.2, ?_⟩
      exact (if_pos early).trans ((if_pos immediate).trans (congrArg Except.ok isResult))
    | acknowledged assessment assessed early resting ended =>
      refine ⟨assessment, assessed.1, assessed.2, ?_⟩
      exact (if_pos early).trans ((if_neg (ne_true_of_eq_false resting)).trans ended)
    | executed assessment assessed ready executed =>
      refine ⟨assessment, assessed.1, assessed.2, ?_⟩
      exact (if_neg (ne_true_of_eq_false ready)).trans (execute_ok_iff.mpr executed)

theorem attend_ok_iff :
    venue.attend ticks request accepted = .ok result ↔ Attends venue ticks request accepted result := by
  unfold Venue.attend
  dsimp only
  constructor
  · intro ok
    split at ok
    · rename_i outside
      exact .rejected outside ok
    · rename_i inside
      split at ok
      · rename_i s closed
        exact .expired (Bool.not_eq_true _ ▸ inside) s closed ok
      · rename_i running
        split at ok
        · rename_i outside
          exact .rested (Bool.not_eq_true _ ▸ inside) running outside ok
        · rename_i trading
          exact .observed (Bool.not_eq_true _ ▸ inside) running (Bool.not_eq_true _ ▸ trading) (observe_ok_iff.mp ok)
  · intro attends
    cases attends with
    | rejected outside ended => exact (if_pos outside).trans ended
    | expired inside s closed ended =>
      refine (if_neg (ne_true_of_eq_false inside)).trans ?_
      rw [← AcceptedRequest.closed, closed]
      exact ended
    | rested inside running outside ended =>
      refine (if_neg (ne_true_of_eq_false inside)).trans ?_
      rw [← AcceptedRequest.closed, running]
      exact (if_pos outside).trans ended
    | observed inside running trading observes =>
      refine (if_neg (ne_true_of_eq_false inside)).trans ?_
      rw [← AcceptedRequest.closed, running]
      exact (if_neg (ne_true_of_eq_false trading)).trans (observe_ok_iff.mpr observes)

end

/-- Nothing follows the walk, or one observation. -/
inductive Ended (s : Filling) (result : Result) : Prop where
  | still (aggregate : result.aggregate = s.aggregate) (transitions : result.transitions = s.transitions)
  | observed (t : Transition) (stepped : s.aggregate.step t = .ok result.aggregate) (plain : t.event.isFill = false)
      (transitions : result.transitions = s.transitions ++ [t])

/-- What an evaluation that returns has done: it did not come to the depth, or it walked over it. -/
inductive Evaluated (venue : Venue) (ticks : Ticks) (request : EvaluationRequest) (accepted : AcceptedRequest)
    (result : Result) : Prop where
  | quiet (ended : Ended accepted.start result) (fills : result.fills = [])
  | walked (assessment : QuoteAssessment) (s : Filling)
      (assessed : request.snapshot.assessForExecution request.evaluatedAt accepted.asset.quoteRequirements
        request.instrument request.venueContract = .ok assessment)
      (walk : Walk ticks (request.fillInput venue accepted assessment) accepted.start (accepted.levels request) s)
      (ended : Ended s result) (fills : result.fills = s.fills)

section
variable {venue : Venue} {ticks : Ticks} {request : EvaluationRequest} {accepted : AcceptedRequest} {result : Result}

theorem Ended.of_ensureWorking {clock : Reading} {before : Result} {order : Order} {session : Option SessionWindow}
    {decision : Decision} {reason : String} (aggregate : before.aggregate = s.aggregate)
    (transitions : before.transitions = s.transitions)
    (ok : venue.ensureWorking clock before request order session decision reason = .ok result) :
    Ended s result ∧ result.fills = before.fills := by
  rcases ensureWorking_ok ok with ⟨_, rfl⟩ | ⟨_, _, t, observed⟩
  · exact ⟨.still aggregate transitions, rfl⟩
  · exact ⟨.observed t (aggregate ▸ observed.stepped) observed.plain (transitions ▸ observed.transitions), observed.fills⟩

theorem Ended.of_applyTerminal {clock : Reading} {before : Result} {order : Order} {session : Option SessionWindow}
    {decision : Decision} {reason : String} {sourceAt : Instant} {snapshot : Option QuoteSnapshot}
    (aggregate : before.aggregate = s.aggregate) (transitions : before.transitions = s.transitions)
    (ok : venue.applyTerminal clock before request order kind decision reason sourceAt snapshot session = .ok result) :
    Ended s result ∧ result.fills = before.fills := by
  obtain ⟨_, t, observed⟩ := applyTerminal_ok ok
  exact ⟨.observed t (aggregate ▸ observed.stepped) observed.plain (transitions ▸ observed.transitions), observed.fills⟩

theorem Settled.ended (settled : Settled venue ticks request accepted s result) :
    Ended s result ∧ result.fills = s.fills := by
  cases settled with
  | filled _ isResult | partly _ _ _ isResult =>
    subst isResult
    exact ⟨.still rfl rfl, rfl⟩
  | cancelled _ _ ended => exact Ended.of_applyTerminal rfl rfl ended
  | rested _ _ _ ended => exact Ended.of_ensureWorking rfl rfl ended

theorem Executed.evaluated {assessment : QuoteAssessment} (assessed : Assessed request accepted assessment)
    (executed : Executed venue ticks request accepted assessment result) :
    Evaluated venue ticks request accepted result := by
  cases executed with
  | insufficient _ ended =>
    obtain ⟨ended, fills⟩ := Ended.of_applyTerminal (s := accepted.start) rfl rfl ended
    exact .quiet ended fills
  | walked _ s walk settled => exact .walked assessment s assessed.1 walk settled.ended.1 settled.ended.2

theorem Attends.elim {goal : Prop} (attends : Attends venue ticks request accepted result)
    (terminal : ∀ {kind decision reason sourceAt snapshot session}, venue.applyTerminal ticks.observation
      (.untouched accepted.aggregate) request accepted.order kind decision reason sourceAt snapshot session = .ok result → goal)
    (working : ∀ {session decision reason}, venue.ensureWorking ticks.observation (.untouched accepted.aggregate) request
      accepted.order session decision reason = .ok result → goal)
    (waiting : { Result.untouched accepted.aggregate with decision := .waitingLatency } = result → goal)
    (executed : ∀ {assessment}, Assessed request accepted assessment →
      Executed venue ticks request accepted assessment result → goal) : goal := by
  cases attends with
  | rejected _ ended | expired _ _ _ ended => exact terminal ended
  | rested _ _ _ ended => exact working ended
  | observed _ _ _ observes =>
    cases observes with
    | waited _ _ _ _ isResult => exact waiting isResult
    | acknowledged _ _ _ _ ended => exact working ended
    | executed _ assessed _ done => exact executed assessed done

theorem attend_ok (ok : venue.attend ticks request accepted = .ok result) : Evaluated venue ticks request accepted result := by
  refine (attend_ok_iff.mp ok).elim (fun ended => ?_) (fun ended => ?_) ?_ fun assessed executed => executed.evaluated assessed
  · obtain ⟨ended, fills⟩ := Ended.of_applyTerminal (s := accepted.start) rfl rfl ended
    exact .quiet ended fills
  · obtain ⟨ended, fills⟩ := Ended.of_ensureWorking (s := accepted.start) rfl rfl ended
    exact .quiet ended fills
  · rintro rfl
    exact .quiet (.still rfl rfl) rfl

theorem evaluate_ok (ok : venue.evaluate ticks request = .ok result) :
    ∃ accepted, venue.validateRequest request = .ok accepted ∧ Evaluated venue ticks request accepted result := by
  obtain ⟨accepted, valid, rest⟩ := bind_ok_iff.mp ok
  refine ⟨accepted, valid, ?_⟩
  split at rest
  · cases rest
    exact .quiet (.still rfl rfl) rfl
  · exact attend_ok rest

end

end Augr.Simulation
