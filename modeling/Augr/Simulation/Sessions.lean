import Augr.Simulation.Evaluation

/-! How the calendar bounds an evaluation: which orders still trade outside the sessions, and how a day order expires. -/

set_option autoImplicit false

namespace Augr.Simulation

open Foundation Lifecycle MarketData Text

variable {request : EvaluationRequest}

/-- The session of the route; none where the explicit sessions do not hold the route time. -/
def Routes (policy : Policy) (assetClass : AssetClass) (routedAt : Instant) (asset : AssetPolicy)
    (session : Option SessionWindow) : Prop :=
  policy.routeSession assetClass routedAt = .ok session ∨
    asset.calendar.kind = .explicitSessions ∧ session = none ∧
      ∃ fault, policy.routeSession assetClass routedAt = .error fault ∧ outsideSessions fault = true

structure Accepts (venue : Venue) (request : EvaluationRequest) (accepted : AcceptedRequest) : Prop where
  given : request.aggregate = some accepted.aggregate
  placed : accepted.aggregate.order = some accepted.order
  timely : (request.evaluatedAt.isZero || !request.evaluatedAt.utc ||
    !request.evaluatedAt.equal request.evaluatedAt.truncate || request.evaluatedAt.before accepted.order.routedAt) = false
  account : request.account.validate = .ok ()
  active : (request.account.status != .active) = false
  instrument : request.instrument.validate = .ok ()
  contract : request.venueContract.validate = .ok ()
  intent : accepted.aggregate.intent.validate = .ok ()
  order : accepted.order.validate = .ok ()
  matched : request.mismatched accepted.aggregate.intent accepted.order = false
  pinned : (accepted.order.policyKind != .simulation || accepted.order.policyVersion != venue.policy.version) = false
  isAsset : venue.policy.assetPolicy request.instrument.assetClass = some accepted.asset
  offered : (!accepted.asset.orderTypes.contains accepted.order.orderType ||
    !accepted.asset.timeInForce.contains accepted.order.timeInForce) = false
  routes : Routes venue.policy request.instrument.assetClass accepted.order.routedAt accepted.asset accepted.session

theorem validateRequest_ok_iff {venue : Venue} {accepted : AcceptedRequest} :
    venue.validateRequest request = .ok accepted ↔ Accepts venue request accepted := by
  simp only [Venue.validateRequest, returns_iff, refused]
  constructor
  · rintro ⟨a, given, order, placed, timely, account, active, instrument, contract, intent, valid, matched, pinned, asset,
      isAsset, offered, routed⟩
    split at routed
    · rename_i found
      cases routed
      exact ⟨given, placed, timely, account, active, instrument, contract, intent, valid, matched, pinned, isAsset, offered,
        Or.inl found⟩
    · rename_i fault failed
      split at routed
      · rename_i outside
        simp only [Bool.and_eq_true, decide_eq_true_eq] at outside
        cases routed
        exact ⟨given, placed, timely, account, active, instrument, contract, intent, valid, matched, pinned, isAsset,
          offered, Or.inr ⟨outside.1, rfl, fault, failed, outside.2⟩⟩
      · cases routed
  · intro passed
    refine ⟨_, passed.given, _, passed.placed, passed.timely, passed.account, passed.active, passed.instrument,
      passed.contract, passed.intent, passed.order, passed.matched, passed.pinned, _, passed.isAsset, passed.offered, ?_⟩
    rcases passed.routes with found | ⟨explicit, unset, fault, failed, outside⟩
    · rw [found]
      rfl
    · rw [failed]
      simp only [explicit, outside, decide_true, Bool.and_self, if_true, ← unset]
      rfl

theorem validatePolicyTime_inside {value : Instant} {label : String} {fault : Fault}
    (failed : validatePolicyTime value label = .error fault) : outsideSessions fault = false := by
  unfold validatePolicyTime failIf at failed
  split at failed
  · cases failed
    simp [outsideSessions, outsideFormat]
  · cases failed

section
variable {venue : Venue} {request : EvaluationRequest} {accepted : AcceptedRequest}

theorem Accepts.again (passed : Accepts venue request accepted) {a : Aggregate} (placed : a.order = some accepted.order)
    (intent : a.intent = accepted.aggregate.intent) :
    Accepts venue { request with aggregate := some a } { accepted with aggregate := a } :=
  { passed with
    given := rfl
    placed := placed
    intent := intent ▸ passed.intent
    matched := intent ▸ passed.matched }

theorem Accepts.due (passed : Accepts venue request accepted) :
    request.evaluatedAt.before accepted.order.routedAt = false := by
  have timely := passed.timely
  simp only [Bool.or_eq_false_iff] at timely
  exact timely.2

theorem Accepts.session_eq (passed : Accepts venue request accepted)
    (explicit : accepted.asset.calendar.kind = .explicitSessions) :
    accepted.session = accepted.asset.calendar.sessions.find? fun session => session.holds accepted.order.routedAt := by
  have routes := passed.routes
  simp only [Routes, Policy.routeSession, passed.isAsset, required, ok_bind, explicit] at routes
  cases timed : validatePolicyTime accepted.order.routedAt "route" with
  | error fault =>
    simp only [timed, error_bind, reduceCtorEq, false_or, true_and, Except.error.injEq] at routes
    obtain ⟨_, _, rfl, outside⟩ := routes
    rw [validatePolicyTime_inside timed] at outside
    cases outside
  | ok _ =>
    cases found : accepted.asset.calendar.sessions.find? fun session => session.holds accepted.order.routedAt with
    | some session =>
      rcases routes with routed | ⟨_, _, fault, failed, _⟩
      · simpa [timed, found, pure, Except.pure] using routed.symm
      · simp [timed, found, pure, Except.pure] at failed
    | none =>
      rcases routes with routed | ⟨_, unset, _⟩
      · simp [timed, found] at routed
      · exact unset

end

theorem Walk.untaken_iff {ticks : Ticks} {input : SimulationFillInput} {s final : Filling} {levels : List EligibleLevel}
    (walk : Walk ticks input s levels final) : final.fills = s.fills ↔ s.remaining.isZero = true ∨ levels = [] := by
  have grows {s final : Filling} {levels : List EligibleLevel} (walk : Walk ticks input s levels final) :
      s.fills.length ≤ final.fills.length := by
    induction walk with
    | done s => exact le_refl _
    | full levels zero => exact le_refl _
    | take took _ ih =>
      rw [took.fills, List.length_append] at ih
      omega
  cases walk with
  | done => simp
  | full _ zero => simp [zero]
  | take took walk =>
    have longer := grows walk
    rw [took.fills, List.length_append, List.length_singleton] at longer
    simp only [took.unfinished, Bool.false_eq_true, reduceCtorEq, or_self, iff_false]
    intro same
    rw [same] at longer
    omega

/-- The order is live, was routed in a session and does not rest, and the quote offers it something. -/
def EvaluationRequest.slipsThrough (request : EvaluationRequest) (a : Aggregate) (order : Order) (asset : AssetPolicy) : Bool :=
  let remaining := order.quantity.sub (sumFillQuantity a.fills)
  let levels := eligibleLevels a order request.snapshot asset request.venueContract.lotSize
  !terminalSimulationState a.state && asset.calendar.sessions.any (fun session => session.holds order.routedAt) &&
    order.timeInForce != .day && order.timeInForce != .gtc &&
    request.snapshot.availableAt.any (fun availableAt => !availableAt.before (order.routedAt.add asset.fixedLatency)) &&
    !(order.timeInForce = .fok && (totalCapacity levels).lessThan remaining) && !remaining.isZero && !levels.isEmpty

section
variable {venue : Venue} {ticks : Ticks} {request : EvaluationRequest} {accepted : AcceptedRequest} {result : Result}

theorem Accepts.any_session (passed : Accepts venue request accepted)
    (explicit : accepted.asset.calendar.kind = .explicitSessions) :
    accepted.asset.calendar.sessions.any (fun session => session.holds accepted.order.routedAt) = !accepted.routedOutside := by
  rw [AcceptedRequest.routedOutside, passed.session_eq explicit, explicit]
  cases found : accepted.asset.calendar.sessions.find? fun session => session.holds accepted.order.routedAt with
  | none => simpa using found
  | some session =>
    simp only [Option.isNone_some, Bool.false_and, Bool.not_false, List.any_eq_true]
    have holds := List.find?_some found
    exact ⟨session, List.mem_of_find?_eq_some found, holds⟩

theorem Accepts.not_day (passed : Accepts venue request accepted)
    (explicit : accepted.asset.calendar.kind = .explicitSessions)
    (outside : simulationTimeInSession accepted.asset.calendar request.evaluatedAt = false)
    (inside : accepted.routedOutside = false) (running : accepted.closed request = none) :
    accepted.order.timeInForce ≠ .day := by
  intro day
  simp only [AcceptedRequest.routedOutside, explicit, decide_true, Bool.and_true, Option.isNone_eq_false_iff] at inside
  obtain ⟨session, routed⟩ := Option.isSome_iff_exists.mp inside
  rw [AcceptedRequest.closed, routed, Option.filter_some] at running
  have found := passed.session_eq explicit
  rw [routed] at found
  have holds := List.find?_some found.symm
  have notNow := List.any_eq_false.mp outside session (List.mem_of_find?_eq_some found.symm)
  have due := passed.due
  simp only [SessionWindow.holds, Instant.before, day, Bool.and_eq_true, Bool.not_eq_true', decide_eq_true_eq,
    decide_eq_false_iff_not, decide_true, Bool.true_and, ite_eq_right_iff, reduceCtorEq, imp_false,
    not_and] at holds notNow due running
  omega

theorem Executed.untaken_iff {assessment : QuoteAssessment} (executed : Executed venue ticks request accepted assessment result) :
    result.fills = [] ↔ accepted.insufficient request = true ∨ accepted.remaining.isZero = true ∨
      accepted.levels request = [] := by
  cases executed with
  | insufficient short ended =>
    have fills := (Ended.of_applyTerminal (s := accepted.start) rfl rfl ended).2
    exact ⟨fun _ => Or.inl short, fun _ => fills⟩
  | walked enough s walk settled =>
    rw [settled.ended.2, show ([] : List FillEffect) = accepted.start.fills from rfl, walk.untaken_iff, enough]
    simp [AcceptedRequest.start]

end

theorem evaluate_attends {venue : Venue} {ticks : Ticks} {a : Aggregate} {order : Order} {result : Result}
    (given : request.aggregate = some a) (placed : a.order = some order) (ok : venue.evaluate ticks request = .ok result) :
    ∃ accepted, Accepts venue request accepted ∧ accepted.aggregate = a ∧ accepted.order = order ∧
      (terminalSimulationState a.state = true ∧ .untouched a = result ∨
        terminalSimulationState a.state = false ∧ Attends venue ticks request accepted result) := by
  obtain ⟨accepted, valid, rest⟩ := bind_ok_iff.mp ok
  have passed := validateRequest_ok_iff.mp valid
  obtain rfl : accepted.aggregate = a := Option.some.inj (passed.given.symm.trans given)
  refine ⟨accepted, passed, rfl, Option.some.inj (passed.placed.symm.trans placed), ?_⟩
  split at rest
  · exact Or.inl ⟨‹_›, Except.ok.inj rest⟩
  · exact Or.inr ⟨Bool.not_eq_true _ ▸ ‹_›, attend_ok_iff.mp rest⟩

theorem fills_outside_sessions_iff {venue : Venue} {ticks : Ticks} {request : EvaluationRequest} {a : Aggregate}
    {order : Order} {asset : AssetPolicy} {result : Result} (given : request.aggregate = some a)
    (placed : a.order = some order) (isAsset : venue.policy.assetPolicy request.instrument.assetClass = some asset)
    (explicit : asset.calendar.kind = .explicitSessions)
    (outside : simulationTimeInSession asset.calendar request.evaluatedAt = false)
    (ok : venue.evaluate ticks request = .ok result) :
    result.fills = [] ↔ request.slipsThrough a order asset = false := by
  obtain ⟨accepted, passed, rfl, rfl, rest⟩ := evaluate_attends given placed ok
  obtain rfl : accepted.asset = asset := Option.some.inj (passed.isAsset.symm.trans isAsset)
  have condition : request.slipsThrough accepted.aggregate accepted.order accepted.asset =
      (!terminalSimulationState accepted.aggregate.state && !accepted.routedOutside && accepted.order.timeInForce != .day &&
        accepted.order.timeInForce != .gtc && !accepted.early request && !accepted.insufficient request &&
        !accepted.remaining.isZero && !(accepted.levels request).isEmpty) := by
    rw [← passed.any_session explicit, AcceptedRequest.early, Bool.not_not]
    rfl
  rw [condition]
  rcases rest with ⟨terminal, rfl⟩ | ⟨live, attends⟩
  · simp [terminal, Result.untouched]
  · cases attends with
    | rejected outside ended =>
      have fills := (Ended.of_applyTerminal (s := accepted.start) rfl rfl ended).2
      simp [fills, outside, Result.untouched]
    | expired inside s closed ended =>
      have fills := (Ended.of_applyTerminal (s := accepted.start) rfl rfl ended).2
      simp only [AcceptedRequest.closed, Option.filter_eq_some_iff, Bool.and_eq_true, decide_eq_true_eq] at closed
      simp [fills, closed.2.1, Result.untouched]
    | rested inside running outside ended =>
      have fills := (Ended.of_ensureWorking (s := accepted.start) rfl rfl ended).2
      simp only [AcceptedRequest.outsideNow, Bool.and_eq_true, decide_eq_true_eq] at outside
      simp [fills, outside.2, Result.untouched]
    | observed inside running trading observes =>
      have notDay := passed.not_day explicit outside inside running
      have notResting : accepted.order.timeInForce ≠ .gtc := by
        simpa [AcceptedRequest.outsideNow, explicit, outside] using trading
      cases observes with
      | waited _ _ early _ isResult =>
        subst isResult
        simp [early, Result.untouched]
      | acknowledged _ _ early _ ended =>
        have fills := (Ended.of_ensureWorking (s := accepted.start) rfl rfl ended).2
        simp [fills, early, Result.untouched]
      | executed _ _ ready executed =>
        rw [executed.untaken_iff]
        simp only [live, inside, ready, notDay, notResting, bne_eq_false_iff_eq, Bool.not_false, Bool.true_and,
          Bool.and_eq_false_iff, Bool.not_eq_false', List.isEmpty_iff, or_assoc, false_or, Bool.true_eq_false]

theorem normalizeTime_of_policyTime {value : Instant} {label : String} (valid : validatePolicyTime value label = .ok ()) :
    normalizeTime value = value := by
  simp only [validatePolicyTime, failIf_ok_iff, Bool.or_eq_false_iff, Bool.not_eq_false'] at valid
  have canonical : value.isCanonical = true := by simp [Instant.isCanonical, valid]
  rw [normalizeTime, valid.1.1]
  exact Instant.normalize_of_canonical canonical

theorem newPolicy_normal {input : PolicyInput} {policy : Policy} (made : newPolicy input = .ok policy) {asset : AssetPolicy}
    (member : asset ∈ policy.assets) : ∃ draft, normalizeAssetPolicy draft = .ok asset := by
  simp only [newPolicy, returns_iff] at made
  obtain ⟨_, _, assets, added, rfl⟩ := made
  have each : ∀ sofar item next, addAsset sofar item = .ok next →
      ∃ row, next = sofar ++ [row] ∧ normalizeAssetPolicy item = .ok row := by
    intro sofar item next ok
    simp only [addAsset, returns_iff] at ok
    obtain ⟨_, row, normal, rfl⟩ := ok
    exact ⟨row, rfl, normal⟩
  obtain ⟨rows, rfl, matched⟩ := foldlM_appends each added
  obtain ⟨draft, _, _, _, _, normal⟩ := exists_left_of_mem matched (by simpa [Policy.sealed] using member)
  exact ⟨draft, normal⟩

theorem normalizeAssetPolicy_closes {draft asset : AssetPolicy} (normal : normalizeAssetPolicy draft = .ok asset)
    {session : SessionWindow} (member : session ∈ asset.calendar.sessions) :
    validatePolicyTime session.closeAt "session close" = .ok () := by
  simp only [normalizeAssetPolicy, returns_iff] at normal
  obtain ⟨_, _, _, _, _, _, _, _, _, _, calendar, made, _, _, rfl⟩ := normal
  unfold normalizeCalendar at made
  split at made
  · simp only [failIf_bind_ok_iff, pure_ok_iff] at made
    obtain ⟨_, _, rfl⟩ := made
    cases member
  · simp only [returns_iff] at made
    obtain ⟨_, trimmed, added, _, rfl⟩ := made
    have each : ∀ sofar item next, addSession sofar item = .ok next →
        ∃ row, next = sofar ++ [row] ∧ validatePolicyTime row.closeAt "session close" = .ok () := by
      intro sofar item next ok
      simp only [addSession, check_bind_ok_iff, pure_ok_iff] at ok
      obtain ⟨valid, rfl⟩ := ok
      simp only [SessionWindow.validate, check_bind_ok_iff] at valid
      exact ⟨_, rfl, valid.2.2.2.2.1⟩
    obtain ⟨rows, rfl, matched⟩ := foldlM_appends each added
    obtain ⟨_, _, _, _, _, valid⟩ := exists_left_of_mem matched (by simpa using member)
    exact valid
  · cases made

theorem routeSession_member {policy : Policy} {assetClass : AssetClass} {routedAt : Instant} {session : SessionWindow}
    (routed : policy.routeSession assetClass routedAt = .ok (some session)) :
    ∃ asset ∈ policy.assets, session ∈ asset.calendar.sessions := by
  simp only [Policy.routeSession, returns_iff] at routed
  obtain ⟨asset, isAsset, _, rest⟩ := routed
  split at rest
  · cases rest
  · simp only [returns_iff] at rest
    obtain ⟨found, isFound, same⟩ := rest
    cases same
    exact ⟨asset, List.mem_of_find?_eq_some isAsset, List.mem_of_find?_eq_some isFound⟩

/-- The event that a terminal observation adds, as far as its identity goes. -/
structure TerminalEvent (account : Account) (intent : Intent) (order : Order) (kind : EventKind) (reason : String)
    (sourceAt : Instant) (snapshotID : String) (event : Event) : Prop where
  isKind : event.kind = kind
  sourceAt : event.sourceAt = normalizeTime sourceAt
  isSource : event.sourceEventID =
    trimSpace (simulationObservationSourceEventID order.id.toText snapshotID kind.text reason)
  isID : ∃ path, simulationSourceNamespace account "order" = .ok path ∧
    event.id = deterministicUUID "execution-lifecycle-event" [intent.id.toText, ObservationClass.ordinary.text,
      toLower (trimSpace "simulation"), trimSpace path, event.sourceEventID, trimSpace ""]

theorem applyTerminal_event {venue : Venue} {clock : Reading} {before after : Result} {order : Order}
    {kind : EventKind} {decision : Decision} {reason : String} {sourceAt : Instant} {snapshot : Option QuoteSnapshot}
    {session : Option SessionWindow}
    (ok : venue.applyTerminal clock before request order kind decision reason sourceAt snapshot session = .ok after) :
    ∃ t, after.transitions = before.transitions ++ [t] ∧ TerminalEvent request.account before.aggregate.intent order kind
      reason sourceAt ((snapshot.map fun s => s.id.toText).getD "") t.event := by
  simp only [Venue.applyTerminal, returns_iff, applyTransition] at ok
  obtain ⟨path, named, t, built, next, _, rfl⟩ := ok
  refine ⟨t, rfl, ?_⟩
  simp only [observeOrderTerminal, returns_iff, admitting_some_iff] at built
  obtain ⟨_, ⟨_, rfl⟩, order, _, rest⟩ := built
  split at rest
  · cases rest
  · simp only [returns_iff, newEvent] at rest
    obtain ⟨_, _, event, ⟨_, _, _, _, _, _, rfl⟩, _, rfl⟩ := rest
    refine ⟨rfl, ?_, ?_, path, named, ?_⟩ <;>
      simp only [Event.alone, Event.inContext, EventInput.toEvent, simulationEvent, Event.identity, ObservationClass.text,
        eventIdentitySourceEventID, if_true]

theorem expirySource_inj {orderID : String} {snapshot other : Uuid}
    (same : trimSpace (simulationObservationSourceEventID orderID snapshot.toText EventKind.orderExpired.text
        "day_session_closed") =
      trimSpace (simulationObservationSourceEventID orderID other.toText EventKind.orderExpired.text
        "day_session_closed")) : snapshot = other := by
  have sized (id : Uuid) : id.toText.toList.length = 36 := by
    rw [Uuid.toText, String.toList_ofList]
    exact Uuid.length_characters id
  have characters (id : Uuid) : (trimSpace (simulationObservationSourceEventID orderID id.toText
      EventKind.orderExpired.text "day_session_closed")).toList =
        'o' :: ("rders/".toList ++ orderID.toList ++ "/snapshots/".toList ++ id.toText.toList ++
          "/order_expired/day_session_close".toList) ++ ['d'] := by
    have some : id.toText ≠ "" := fun none => by
      have length := sized id
      rw [none] at length
      cases length
    have shape : (simulationObservationSourceEventID orderID id.toText EventKind.orderExpired.text
        "day_session_closed").toList = 'o' :: ("rders/".toList ++ orderID.toList ++ "/snapshots/".toList ++
          id.toText.toList ++ "/order_expired/day_session_close".toList) ++ ['d'] := by
      simp [simulationObservationSourceEventID, some, EventKind.text]
    rw [trimSpace_eq, shape, trim_between (by decide) (by decide), String.toList_ofList]
  have texts := congrArg String.toList same
  rw [characters, characters] at texts
  simp only [List.append_assoc, List.cons_append, List.cons.injEq, List.append_cancel_left_eq, true_and] at texts
  obtain ⟨ids, _⟩ := List.append_inj texts (by rw [sized, sized])
  exact Uuid.toText_injective (String.toList_inj.mp ids)

section
variable {venue : Venue} {request : EvaluationRequest} {a : Aggregate} {order : Order} {session : SessionWindow}

/-- A live day order whose session has closed expires, whatever the quote says. -/
theorem evaluate_expires {ticks : Ticks} {result : Result} (ok : venue.evaluate ticks request = .ok result)
    (given : request.aggregate = some a) (placed : a.order = some order)
    (live : terminalSimulationState a.state = false) (day : order.timeInForce = .day)
    (routed : venue.policy.routeSession request.instrument.assetClass order.routedAt = .ok (some session))
    (late : request.evaluatedAt.before session.closeAt = false) :
    ∃ t, result.transitions = [t] ∧ TerminalEvent request.account a.intent order .orderExpired "day_session_closed"
      session.closeAt request.snapshot.id.toText t.event := by
  obtain ⟨accepted, passed, rfl, rfl, ⟨terminal, _⟩ | ⟨_, attends⟩⟩ := evaluate_attends given placed ok
  · rw [live] at terminal
    cases terminal
  have isSession : accepted.session = some session := by
    rcases passed.routes with found | ⟨_, _, fault, failed, _⟩
    · exact Except.ok.inj (found.symm.trans routed)
    · rw [routed] at failed
      cases failed
  have closed : accepted.closed request = some session := by
    simp [AcceptedRequest.closed, isSession, day, late]
  cases attends with
  | rejected outside _ =>
    rw [AcceptedRequest.routedOutside, isSession] at outside
    cases outside
  | expired _ s isClosed ended =>
    obtain rfl : session = s := Option.some.inj (closed.symm.trans isClosed)
    exact applyTerminal_event ended
  | rested _ running _ _ | observed _ running _ _ =>
    rw [closed] at running
    cases running

/-- The close is the source time of every expiry, but the source also names the snapshot: two evaluations agree on the
event when their snapshots are the same one. -/
theorem day_expiry_identity {input : PolicyInput} (made : newPolicy input = .ok venue.policy) {ticks later : Ticks}
    {first second : QuoteSnapshot} {at₁ at₂ : Instant} {one two : Result} (given : request.aggregate = some a)
    (placed : a.order = some order) (live : terminalSimulationState a.state = false) (day : order.timeInForce = .day)
    (routed : venue.policy.routeSession request.instrument.assetClass order.routedAt = .ok (some session))
    (late₁ : at₁.before session.closeAt = false) (late₂ : at₂.before session.closeAt = false)
    (ok₁ : venue.evaluate ticks { request with snapshot := first, evaluatedAt := at₁ } = .ok one)
    (ok₂ : venue.evaluate later { request with snapshot := second, evaluatedAt := at₂ } = .ok two) :
    ∃ t u, one.transitions = [t] ∧ two.transitions = [u] ∧
      (t.event.kind = .orderExpired ∧ t.event.sourceAt = session.closeAt) ∧
      (u.event.kind = .orderExpired ∧ u.event.sourceAt = session.closeAt) ∧
      (t.event.sourceEventID = u.event.sourceEventID ↔ first.id = second.id) ∧
      (first.id = second.id → t.event.id = u.event.id) := by
  obtain ⟨t, isOne, expiry₁⟩ := evaluate_expires ok₁ given placed live day routed late₁
  obtain ⟨u, isTwo, expiry₂⟩ := evaluate_expires ok₂ given placed live day routed late₂
  have whole : normalizeTime session.closeAt = session.closeAt := by
    obtain ⟨asset, known, member⟩ := routeSession_member routed
    obtain ⟨draft, normal⟩ := newPolicy_normal made known
    exact normalizeTime_of_policyTime (normalizeAssetPolicy_closes normal member)
  refine ⟨t, u, isOne, isTwo, ⟨expiry₁.isKind, expiry₁.sourceAt.trans whole⟩,
    ⟨expiry₂.isKind, expiry₂.sourceAt.trans whole⟩, ?_, ?_⟩
  · rw [expiry₁.isSource, expiry₂.isSource]
    exact ⟨expirySource_inj, fun same => by rw [same]⟩
  · intro same
    obtain ⟨path, named, isID₁⟩ := expiry₁.isID
    obtain ⟨other, alsoNamed, isID₂⟩ := expiry₂.isID
    obtain rfl : path = other := Except.ok.inj (named.symm.trans alsoNamed)
    rw [isID₁, isID₂, expiry₁.isSource, expiry₂.isSource, same]

end

def sampleSession : SessionWindow := ⟨"regular", ⟨2000000, true⟩, ⟨8000000, true⟩⟩

def sampleAsset : AssetPolicy :=
  { freeAsset with
    timeInForce := [.day, .fok, .gtc, .ioc]
    calendar := ⟨.explicitSessions, [sampleSession]⟩ }

def sampleInput : PolicyInput := ⟨policySchemaV1, [sampleAsset]⟩

def samplePolicy : Policy := .sealed policySchemaV1 [sampleAsset]

def sampleVenue : Venue := ⟨samplePolicy⟩

theorem samplePolicy_made : newPolicy sampleInput = .ok samplePolicy := rfl

def sampleSnapshot (id : Uuid) : QuoteSnapshot := sampleQuote id "q1"

def sampleTicks : Ticks :=
  ⟨fun _ => ⟨Ledger.sampleReading, Ledger.sampleClocks, Ledger.sampleReading, Ledger.sampleReading⟩, Ledger.sampleReading⟩

def sampleOrder (timeInForce : TimeInForce) (routedAt : Instant) : Order :=
  { Lifecycle.sampleOrder with
    policyKind := .simulation, policyVersion := samplePolicy.version, timeInForce := timeInForce, routedAt := routedAt }

def sampleAggregate (order : Order) : Aggregate := { Lifecycle.sampleAggregate with order := some order }

def sampleRequest (order : Order) (snapshotID : Uuid) : EvaluationRequest where
  account := Ledger.sampleAccount
  instrument := { Ledger.sampleInstrument with primaryVenue := "alpaca" }
  venueContract := Ledger.sampleContract
  aggregate := some (sampleAggregate order)
  snapshot := sampleSnapshot snapshotID
  evaluatedAt := ⟨9000000, true⟩

def sampleImmediate : EvaluationRequest := sampleRequest (sampleOrder .fok ⟨3000000, true⟩) (Uuid.ofByte 7)

def sampleDay (snapshotID : Uuid) : EvaluationRequest := sampleRequest (sampleOrder .day ⟨3000000, true⟩) snapshotID

def sampleUnrouted : EvaluationRequest := sampleRequest (sampleOrder .ioc ⟨1000000, true⟩) (Uuid.ofByte 7)

/-- What an evaluation comes to: decision, state, number of fills, and how the event identities begin. -/
def Result.summary (r : Result) : Decision × Lifecycle.State × Nat × List (List UInt8) :=
  (r.decision, r.aggregate.state, r.fills.length, r.transitions.map fun t => t.event.id.bytes.take 1)

theorem samples_evaluated :
    [sampleImmediate, sampleUnrouted, sampleDay (Uuid.ofByte 7), sampleDay (Uuid.ofByte 8)].map (fun request =>
        (sampleVenue.evaluate sampleTicks request).toOption.map Result.summary) =
      [some (.filled, .filled, 1, [[207]]), some (.rejected, .rejected, 0, [[129]]), some (.expired, .expired, 0, [[9]]),
        some (.expired, .expired, 0, [[83]])] :=
  eq_of_beq (by decide +kernel)

theorem sample_returned {summary : Decision × Lifecycle.State × Nat × List (List UInt8)}
    (evaluated : (sampleVenue.evaluate sampleTicks request).toOption.map Result.summary = some summary) :
    ∃ result, sampleVenue.evaluate sampleTicks request = .ok result ∧ result.summary = summary := by
  obtain ⟨result, returned, seen⟩ := Option.map_eq_some_iff.mp evaluated
  exact ⟨result, ok_of_toOption returned, seen⟩

theorem sampleImmediate_filled : ∃ result, sampleVenue.evaluate sampleTicks sampleImmediate = .ok result ∧
    result.summary = (.filled, .filled, 1, [[207]]) := sample_returned (List.cons.inj samples_evaluated).1

theorem sampleDay_expired : ∃ one two, sampleVenue.evaluate sampleTicks (sampleDay (Uuid.ofByte 7)) = .ok one ∧
    one.summary = (.expired, .expired, 0, [[9]]) ∧ sampleVenue.evaluate sampleTicks (sampleDay (Uuid.ofByte 8)) = .ok two ∧
      two.summary = (.expired, .expired, 0, [[83]]) := by
  have days := (List.cons.inj (List.cons.inj samples_evaluated).2).2
  obtain ⟨one, returned, seen⟩ := sample_returned (List.cons.inj days).1
  obtain ⟨two, alsoReturned, alsoSeen⟩ := sample_returned (List.cons.inj (List.cons.inj days).2).1
  exact ⟨one, two, returned, seen, alsoReturned, alsoSeen⟩

theorem immediate_fills_outside_session :
    newPolicy sampleInput = .ok sampleVenue.policy ∧ sampleAsset.calendar.kind = .explicitSessions ∧
      simulationTimeInSession sampleAsset.calendar sampleImmediate.evaluatedAt = false ∧
        ∃ result, sampleVenue.evaluate sampleTicks sampleImmediate = .ok result ∧ result.fills ≠ [] := by
  obtain ⟨result, returned, seen⟩ := sampleImmediate_filled
  refine ⟨samplePolicy_made, rfl, by decide, result, returned, ?_⟩
  intro none
  simp [Result.summary, none] at seen

theorem fills_outside_sessions_iff_sample :
    ∃ result, sampleVenue.evaluate sampleTicks sampleImmediate = .ok result ∧
      (result.fills = [] ↔ sampleImmediate.slipsThrough (sampleAggregate (sampleOrder .fok ⟨3000000, true⟩))
        (sampleOrder .fok ⟨3000000, true⟩) sampleAsset = false) := by
  obtain ⟨result, returned, _⟩ := sampleImmediate_filled
  exact ⟨result, returned, fills_outside_sessions_iff rfl rfl rfl rfl (by decide) returned⟩

theorem day_expiry_named_by_snapshot :
    ∃ one two t u, sampleVenue.evaluate sampleTicks (sampleDay (Uuid.ofByte 7)) = .ok one ∧
      sampleVenue.evaluate sampleTicks (sampleDay (Uuid.ofByte 8)) = .ok two ∧ one.transitions = [t] ∧
        two.transitions = [u] ∧ t.event.id ≠ u.event.id := by
  obtain ⟨one, two, returned, seen, alsoReturned, alsoSeen⟩ := sampleDay_expired
  obtain ⟨t, isOne, _⟩ := evaluate_expires returned rfl rfl rfl rfl rfl rfl
  obtain ⟨u, isTwo, _⟩ := evaluate_expires alsoReturned rfl rfl rfl rfl rfl rfl
  refine ⟨one, two, t, u, returned, alsoReturned, isOne, isTwo, ?_⟩
  intro same
  simp only [Result.summary, isOne, isTwo, same, List.map_cons, Prod.mk.injEq, List.cons.injEq] at seen alsoSeen
  exact absurd (seen.2.2.2.1.symm.trans alsoSeen.2.2.2.1) (by decide)

theorem day_expiry_identity_sample : ∃ one two t u,
    sampleVenue.evaluate sampleTicks (sampleDay (Uuid.ofByte 7)) = .ok one ∧
      sampleVenue.evaluate sampleTicks (sampleDay (Uuid.ofByte 8)) = .ok two ∧ one.transitions = [t] ∧
        two.transitions = [u] ∧ t.event.sourceAt = sampleSession.closeAt ∧
          t.event.sourceEventID ≠ u.event.sourceEventID := by
  obtain ⟨one, two, returned, _, alsoReturned, _⟩ := sampleDay_expired
  obtain ⟨t, u, isOne, isTwo, ⟨_, sourceAt⟩, _, named, _⟩ :=
    @day_expiry_identity sampleVenue (sampleDay (Uuid.ofByte 7)) _ _ sampleSession sampleInput samplePolicy_made sampleTicks
      sampleTicks (sampleSnapshot (Uuid.ofByte 7)) (sampleSnapshot (Uuid.ofByte 8)) ⟨9000000, true⟩ ⟨9000000, true⟩ one two
      rfl rfl rfl rfl rfl rfl rfl returned alsoReturned
  refine ⟨one, two, t, u, returned, alsoReturned, isOne, isTwo, sourceAt, ?_⟩
  rw [ne_eq, named]
  decide

end Augr.Simulation
