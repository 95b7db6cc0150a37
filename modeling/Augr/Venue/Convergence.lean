import Augr.Foundation.Keyed
import Augr.Lifecycle.Links
import Augr.Venue.Cancellation

/-! Two cancellation commands of one order, persisted one after the other. -/

set_option autoImplicit false

namespace Augr.Venue

open Foundation Lifecycle Text

variable {after result : Aggregate} {event : Event} {moment requestedAt : Instant}

/-- A bound order of a reviewed venue, with the command that would cancel it. -/
structure Cancellable (a : Aggregate) (order : Order) (binding : OrderBinding) (command : CancellationEvidence) :
    Prop where
  placed : a.order = some order
  bound : a.binding = some binding
  policy : order.policyKind = .venue
  reviewed : validProvider (Provider.ofText order.venue) = true
  evidence : cancellationCommandEvidence a (Provider.ofText order.venue) = .ok command

theorem newCancellationCommand_ok_iff (clock : Reading) (a : Aggregate) (requestedAt : Instant) (t : Transition) :
    newCancellationCommand clock (some a) requestedAt = .ok t ↔ ∃ order binding command,
      Cancellable a order binding command ∧
      ((∃ event, a.events.find? command.names = some event ∧ event.evidence = command.evidence ∧ event.alone = t) ∨
        a.events.find? command.names = none ∧ requestedAt.normalize.isZero = false ∧
          requestCancel clock (some a) (command.eventInput requestedAt.normalize) requestedAt.normalize = .ok t) := by
  simp only [newCancellationCommand, returns_iff, admitting_some_iff, Bool.and_eq_true, Bool.not_eq_false']
  constructor
  · rintro ⟨_, ⟨⟨policy, isBound⟩, rfl⟩, order, placed, reviewed, command, evidence, decided⟩
    obtain ⟨binding, bound⟩ := Option.isSome_iff_exists.mp isBound
    rw [placed, Option.any_some, beq_iff_eq] at policy
    refine ⟨order, binding, command, ⟨placed, bound, policy, reviewed, evidence⟩, ?_⟩
    split at decided
    · rename_i event found
      simp only [failIf_bind_ok_iff, bne_eq_false_iff_eq] at decided
      exact Or.inl ⟨event, found, decided.1, by simpa [pure, Except.pure] using decided.2⟩
    · rename_i missing
      simp only [failIf_bind_ok_iff, wrapping_ok_iff] at decided
      exact Or.inr ⟨missing, decided⟩
  · rintro ⟨order, binding, command, ready, decided⟩
    refine ⟨a, ⟨⟨?_, by rw [ready.bound]; rfl⟩, rfl⟩, order, ready.placed, ready.reviewed, command, ready.evidence, ?_⟩
    · rw [ready.placed, Option.any_some, ready.policy]
      rfl
    · rcases decided with ⟨event, found, same, rfl⟩ | ⟨missing, set, built⟩
      · rw [found]
        simp [same, pure, Except.pure]
      · rw [missing]
        simp [set, built]

def cancelEvent (a : Aggregate) (order : Order) (binding : OrderBinding) (command : CancellationEvidence)
    (requestedAt : Instant) : Event :=
  let drafted := (command.eventInput requestedAt).toEvent a.intent .cancelRequested a.state a.state requestedAt
  { { drafted with id := drafted.identity }.inContext a order with bindingID := some binding.id }

/-! The texts of a request are trimmed already. -/

theorem venueCommand_trimmed : toLower (trimSpace "venue_command") = "venue_command" := by decide

theorem trimSpace_empty : trimSpace "" = "" := by decide

theorem normalizeTime_of_canonical {value : Instant} (canonical : value.isCanonical = true) :
    normalizeTime value = value := by
  rw [normalizeTime, Instant.isZero_of_canonical canonical, Instant.normalize_of_canonical canonical]
  rfl

section
variable {a : Aggregate} {order : Order} {binding : OrderBinding} {command : CancellationEvidence}

theorem validate_cancelEvent {first second : Instant} (canonical : second.isCanonical = true)
    (valid : (cancelEvent a order binding command first).validate = .ok ()) :
    (cancelEvent a order binding command second).validate = .ok () := by
  have formed := normalizeTime_of_canonical canonical
  simp only [Event.validate, check_bind_ok_iff, failIf_ok_iff, Bool.or_eq_false_iff, Bool.not_eq_false'] at valid ⊢
  obtain ⟨ids, kind, source, actor, _, _, object, hash, observation, fill, identity⟩ := valid
  refine ⟨ids, kind, source, actor, ⟨⟨?_, ?_⟩, ?_⟩, canonical, object, hash, observation, fill, identity⟩
  · change (normalizeTime second).isCanonical = true
    rwa [formed]
  · change (normalizeTime second).isCanonical = true
    rwa [formed]
  · simp [cancelEvent, Event.inContext, EventInput.toEvent, CancellationEvidence.eventInput, Instant.after]

/-- The checks of a request that do not depend on when it is made. -/
structure Requestable (a : Aggregate) (command : CancellationEvidence) : Prop where
  live : (a.state == .working || a.state == .partiallyFilled) = true
  sourceNamespace : trimSpace command.sourceNamespace ≠ ""
  sourceEventID : trimSpace command.sourceEventID ≠ ""
  object : validateJSONObject command.evidence "lifecycle event evidence" = .ok ()

theorem requestCancel_ok_iff (clock : Reading) (canonical : requestedAt.isCanonical = true)
    (placed : a.order = some order) (bound : a.binding = some binding) (t : Transition) :
    requestCancel clock (some a) (command.eventInput requestedAt) requestedAt = .ok t ↔
      Requestable a command ∧ (cancelEvent a order binding command requestedAt).validate = .ok () ∧
        (cancelEvent a order binding command requestedAt).alone = t := by
  have formed := normalizeTime_of_canonical canonical
  have set := Instant.isZero_of_canonical canonical
  have created : creationTime clock requestedAt = requestedAt := by
    rw [creationTime, formed, set]
    rfl
  simp only [requestCancel, returns_iff, admitting_some_iff, newEvent, created]
  constructor
  · rintro ⟨_, ⟨ready, rfl⟩, order', placed', binding', bound', event, ⟨named, _, _, _, object, _, rfl⟩, valid, rfl⟩
    cases Option.some.inj (placed.symm.trans placed')
    cases Option.some.inj (bound.symm.trans bound')
    simp only [Bool.and_eq_true] at ready
    simp only [Bool.or_eq_false_iff, beq_eq_false_iff_ne] at named
    exact ⟨⟨ready.1.1, named.1.2, named.2, object⟩, valid, rfl⟩
  · rintro ⟨able, valid, rfl⟩
    refine ⟨a, ⟨?_, rfl⟩, order, placed, binding, bound, _, ⟨?_, ?_, ?_, ?_, able.object, ?_, rfl⟩, valid, rfl⟩
    · simp [able.live, placed, bound]
    · simp [EventInput.toEvent, CancellationEvidence.eventInput, able.sourceNamespace, able.sourceEventID,
        venueCommand_trimmed]
    · change (trimSpace "venue-adapter" == "" || toLower (trimSpace "cancel_requested") == "") = false
      decide
    · simp [CancellationEvidence.eventInput, set]
    · simp [EventInput.toEvent, CancellationEvidence.eventInput, Instant.after]
    · simp [EventInput.toEvent, CancellationEvidence.eventInput, Event.checkObservation, ObservationClass.text,
        trimSpace_empty]

def CancellationEvidence.eventID (command : CancellationEvidence) (intent : Intent) : Uuid :=
  deterministicUUID "execution-lifecycle-event"
    [intent.id.toText, "ordinary", "venue_command", command.sourceNamespace, command.sourceEventID, ""]

theorem Cancellable.command_eq (ready : Cancellable a order binding command) :
    command = cancellationEvidence order binding (Provider.ofText order.venue) := by
  have evidence := ready.evidence
  simp only [cancellationCommandEvidence, ready.placed, ready.bound, failIf_bind_ok_iff, pure_ok_iff] at evidence
  exact evidence.2.symm

theorem Cancellable.trimmed (ready : Cancellable a order binding command) :
    trimSpace command.sourceNamespace = command.sourceNamespace ∧
      trimSpace command.sourceEventID = command.sourceEventID := by
  rw [ready.command_eq]
  constructor
  · have ends : (cancellationEvidence order binding (Provider.ofText order.venue)).sourceNamespace.toList =
        'v' :: ("enue-adapter-policy-v1/".toList ++ (Provider.ofText order.venue).text.toList ++
          "/".toList ++ order.policyVersion.toList ++ "/cancel-request-v".toList) ++ ['1'] := by
      simp [cancellationEvidence, policySchemaV1, String.toList_append]
    rw [trimSpace_eq, ends, trim_between (by decide) (by decide), ← ends, String.ofList_toList]
  · have solid : ∀ c ∈ (order.id.toText ++ "/cancel-request-v1").toList, Text.isSpace c = false := by
      intro c member
      rw [String.toList_append, List.mem_append] at member
      rcases member with inID | inTail
      · exact solid_toText order.id c inID
      · have known := List.all_eq_true.mp (rfl : "/cancel-request-v1".toList.all (!Text.isSpace ·) = true) c inTail
        simpa using known
    change trimSpace (order.id.toText ++ "/cancel-request-v1") = _
    rw [trimSpace_eq, trim_eq_self solid, String.ofList_toList]
    rfl

end

/-- What every stored lifecycle says about its intent and its events. -/
structure Recorded (a : Aggregate) : Prop where
  intent : a.intent.validate = .ok ()
  distinct : (a.events.map Event.id).Nodup
  valid : ∀ event ∈ a.events, event.validate = .ok ()
  ofIntent : ∀ event ∈ a.events, event.intentID = a.intent.id

theorem recorded_of_replay {accountID : Uuid} {intent : Intent} {ts : List Transition} {a : Aggregate}
    (ok : replay accountID intent ts = .ok a) : Recorded a := by
  have held : a.events = ts.map Transition.event ∧ Recorded a := by
    refine replay_induction (fun ts a => a.events = ts.map Transition.event ∧ Recorded a) ?_ ?_ ok
    · intro initial intentValid opening valid
      refine ⟨rfl, ⟨intentValid, List.nodup_singleton _, ?_, ?_⟩⟩
      · exact List.forall_mem_singleton.mpr valid
      · simp only [opens, Aggregate.sameContext, Bool.and_eq_true, beq_iff_eq] at opening
        exact List.forall_mem_singleton.mpr (by tauto)
    · intro ts before t after _ held ok fresh
      obtain ⟨accepted, next, effect, same⟩ := step_effect ok
      have context := accepted.context
      simp only [Aggregate.sameContext, Bool.and_eq_true, beq_iff_eq] at context
      have events : after.events = before.events ++ [t.event] := by rw [same]
      obtain ⟨collected, recorded⟩ := held
      refine ⟨by rw [events, collected, List.map_append]; rfl, ⟨?_, ?_, ?_, ?_⟩⟩
      · rw [step_intent ok]
        exact recorded.intent
      · rw [events]
        refine nodup_append_row recorded.distinct fun event member same => fresh ?_
        rw [collected] at member
        obtain ⟨earlier, inside, rfl⟩ := List.mem_map.mp member
        exact List.mem_map.mpr ⟨earlier, inside, same⟩
      · rw [events]
        exact forall_mem_concat recorded.valid accepted.valid
      · rw [events, step_intent ok]
        exact forall_mem_concat recorded.ofIntent (by tauto)
  exact held.2

theorem Recorded.named {a : Aggregate} (recorded : Recorded a) :
    a.intent.id ≠ Uuid.nil ∧ a.intent.accountID ≠ Uuid.nil := by
  have valid := recorded.intent
  simp only [Intent.validate, failIf_bind_ok_iff, Bool.or_eq_false_iff, beq_eq_false_iff_ne] at valid
  exact ⟨valid.1.1.1.1, valid.1.1.1.2⟩

section
variable {a : Aggregate} {order : Order} {binding : OrderBinding} {command : CancellationEvidence}

theorem Recorded.id_of_names (recorded : Recorded a) (member : event ∈ a.events) (named : command.names event = true) :
    event.id = command.eventID a.intent := by
  have valid := recorded.valid event member
  simp only [CancellationEvidence.names, Bool.and_eq_true, beq_iff_eq] at named
  obtain ⟨⟨⟨kind, source⟩, sourceNamespace⟩, sourceEventID⟩ := named
  have ordinary := Event.ordinary_of_validate valid (by rw [kind]; decide) (by rw [kind]; decide)
  simp only [Event.validate, check_bind_ok_iff, failIf_ok_iff, bne_eq_false_iff_eq] at valid
  obtain ⟨_, _, _, _, _, _, _, _, observation, _, identity⟩ := valid
  simp only [Event.validateObservation, ordinary, failIf_ok_iff, Bool.or_eq_false_iff, bne_eq_false_iff_eq]
    at observation
  rw [identity, Event.identity, recorded.ofIntent event member, ordinary, source, sourceNamespace,
    eventIdentitySourceEventID, if_pos rfl, sourceEventID, observation.1.1]
  rfl

abbrev Cancellable.request (_ : Cancellable a order binding command) (requestedAt : Instant) : Event :=
  cancelEvent a order binding command requestedAt

theorem Cancellable.cancelEvent_id (ready : Cancellable a order binding command) (requestedAt : Instant) :
    (ready.request requestedAt).id = command.eventID a.intent := by
  change deterministicUUID "execution-lifecycle-event" [a.intent.id.toText, "ordinary",
    toLower (trimSpace "venue_command"), trimSpace command.sourceNamespace,
    trimSpace command.sourceEventID, trimSpace ""] = _
  rw [ready.trimmed.1, ready.trimmed.2, venueCommand_trimmed, trimSpace_empty]
  rfl

theorem Cancellable.names_cancelEvent (ready : Cancellable a order binding command) (requestedAt : Instant) :
    command.names (ready.request requestedAt) = true := by
  change (true && toLower (trimSpace "venue_command") == "venue_command" &&
    trimSpace command.sourceNamespace == command.sourceNamespace &&
    trimSpace command.sourceEventID == command.sourceEventID) = true
  simp [ready.trimmed, venueCommand_trimmed]

theorem sameEventPayload_cancelEvent_iff (sequence : Int) (createdAt first second : Instant) :
    sameEventPayload ((cancelEvent a order binding command first).restamp sequence createdAt)
      (cancelEvent a order binding command second) = (normalizeTime first).equal (normalizeTime second) := by
  have retimed : (cancelEvent a order binding command first).restamp sequence createdAt =
      { cancelEvent a order binding command second with
        ingestSequence := sequence
        createdAt := createdAt
        sourceAt := normalizeTime first
        receivedAt := normalizeTime first } := rfl
  have at_second : (cancelEvent a order binding command second).sourceAt = normalizeTime second ∧
      (cancelEvent a order binding command second).receivedAt = normalizeTime second := ⟨rfl, rfl⟩
  rw [retimed]
  simp [sameEventPayload, at_second]

theorem cancel_step (ready : Cancellable a order binding command) (able : Requestable a command)
    (canonical : requestedAt.isCanonical = true)
    (valid : (ready.request requestedAt).validate = .ok ()) (clock : Reading) :
    a.step (ready.request requestedAt).alone =
      .ok { a with events := a.events ++ [ready.request requestedAt] } := by
  have built := (requestCancel_ok_iff clock canonical ready.placed ready.bound _).mpr ⟨able, valid, rfl⟩
  obtain ⟨after, stepped⟩ := (requestCancel_taken built).steps
  obtain ⟨_, next, facts, same⟩ := (step_ok_iff _ _ _).mp stepped
  have kept : next = a := by
    have applied : a.applyCancelRequest (ready.request requestedAt).alone = .ok next := facts
    simp only [Aggregate.applyCancelRequest, failIf_bind_ok_iff, pure_ok_iff] at applied
    exact applied.2.symm
  rw [stepped, ← same, kept]
  rfl

section
variable {sequence : Int} {stored : Aggregate} {accountID : Uuid} {aggregate : Option Aggregate}
  {supplied : Option Transition}

theorem persist_ok_iff :
    persistCancellationCommand sequence stored accountID aggregate supplied = (.ok result, after) ↔
      prepareCancellation accountID aggregate supplied = .ok (.recorded result) ∧ stored = after ∨
      ∃ expected t, prepareCancellation accountID aggregate supplied = .ok (.expecting expected t) ∧
        applyExecutionTransition sequence stored accountID t = .ok result ∧
        sameAggregateResult result expected = true ∧ result = after := by
  unfold persistCancellationCommand
  rcases prepareCancellation accountID aggregate supplied with _ | ⟨_⟩ | ⟨expected, t⟩
  · simp
  · simp
  · cases applied : applyExecutionTransition sequence stored accountID t with
    | error => simp [applied]
    | ok persisted => cases same : sameAggregateResult persisted expected <;> simp [applied, same] <;> grind

end

theorem prepareCancellation_ok_iff (ready : Cancellable a order binding command)
    (owned : a.intent.accountID ≠ Uuid.nil) (t : Transition) (prepared : Prepared) :
    prepareCancellation a.intent.accountID (some a) (some t) = .ok prepared ↔
      (command.names t.event = true ∧ t.event.sourceRevision = "" ∧ t.event.evidence = command.evidence) ∧
      ((∃ event, a.events.find? (fun event => event.id == t.event.id) = some event ∧
          sameEventPayload event t.event = true ∧ .recorded a = prepared) ∨
        a.events.find? (fun event => event.id == t.event.id) = none ∧
          ∃ expected, a.step t = .ok expected ∧ .expecting expected t = prepared) := by
  have mine : (a.intent.accountID == Uuid.nil || (some t).isNone) = false := by simp [owned]
  have matching : (a.order.isSome && a.intent.accountID == a.intent.accountID) = true := by simp [ready.placed]
  simp only [prepareCancellation, mine, Bool.false_eq_true, if_false, returns_iff, admitting_some_iff,
    Bool.or_eq_false_iff, Bool.not_eq_false', bne_eq_false_iff_eq]
  constructor
  · rintro ⟨_, ⟨_, rfl⟩, order', placed, t', given, command', evidence, ⟨⟨named, revision⟩, same⟩, decided⟩
    cases given
    cases Option.some.inj (ready.placed.symm.trans placed)
    cases Except.ok.inj (ready.evidence.symm.trans evidence)
    refine ⟨⟨named, revision, same⟩, ?_⟩
    split at decided
    · rename_i event found
      simp only [failIf_bind_ok_iff, Bool.not_eq_false', pure_ok_iff] at decided
      exact Or.inl ⟨event, found, decided⟩
    · rename_i missing
      simp only [returns_iff, applyTransition] at decided
      exact Or.inr ⟨missing, decided⟩
  · rintro ⟨⟨named, revision, same⟩, decided⟩
    refine ⟨a, ⟨matching, rfl⟩, order, ready.placed, t, rfl, command, ready.evidence, ⟨⟨named, revision⟩, same⟩, ?_⟩
    rcases decided with ⟨event, found, payload, rfl⟩ | ⟨missing, expected, stepped, rfl⟩
    · rw [found]
      simp [payload, pure, Except.pure]
    · rw [missing]
      simp [applyTransition, stepped, wrapping, pure, Except.pure]

theorem sameAggregateResult_append (a : Aggregate) {first second : Event} (ids : first.id = second.id)
    (same : sameEventPayload first second = true) :
    sameAggregateResult { a with events := a.events ++ [first] } { a with events := a.events ++ [second] } = true := by
  have pairs {α : Type} (items : List α) : ∀ pair ∈ items.zip items, pair.1 = pair.2 := by
    intro pair member
    rw [← List.map_id items, List.zip_map'] at member
    obtain ⟨item, _, rfl⟩ := List.mem_map.mp member
    rfl
  have events : ∀ pair ∈ (a.events ++ [first]).zip (a.events ++ [second]),
      pair.1.id = pair.2.id ∧ sameEventPayload pair.1 pair.2 = true := by
    rw [List.zip_append rfl, List.forall_mem_append]
    refine ⟨fun pair member => ?_, List.forall_mem_singleton.mpr ⟨ids, same⟩⟩
    rw [pairs a.events pair member]
    exact ⟨rfl, sameEventPayload_self _⟩
  have fills : ∀ pair ∈ a.fills.zip a.fills, sameFillPayload pair.1 pair.2 = true := by
    intro pair member
    rw [pairs a.fills pair member]
    exact sameFillPayload_self _
  simp only [sameAggregateResult, Bool.and_eq_true, List.all_eq_true, beq_iff_eq, List.length_append,
    List.length_singleton]
  exact ⟨⟨by simp, events⟩, fills⟩

/-- One request under the identity, and nothing else changed. -/
structure CancelledOnce (a final : Aggregate) (id : Uuid) : Prop where
  once : (final.events.countP fun event => event.kind == .cancelRequested && event.id == id) = 1
  others : final.events.filter (fun event => event.id != id) = a.events.filter fun event => event.id != id

theorem find_id_none {id : Uuid} : a.events.find? (fun event => event.id == id) = none ↔
    ∀ event ∈ a.events, event.id ≠ id := by
  simp

theorem Recorded.cancelledOnce (recorded : Recorded a) (member : event ∈ a.events)
    (kind : event.kind = .cancelRequested) : CancelledOnce a a event.id := by
  refine ⟨?_, rfl⟩
  have single : (a.events.map Event.id).count event.id = 1 :=
    List.count_eq_one_of_mem recorded.distinct (List.mem_map_of_mem member)
  rw [List.count, List.countP_map] at single
  rw [← single]
  refine List.countP_congr fun other inside => ?_
  have same : other.id = event.id → other = event := List.inj_on_of_nodup_map recorded.distinct inside member
  simp only [Bool.and_eq_true, beq_iff_eq, Function.comp_apply]
  constructor
  · exact fun both => both.2
  · intro ids
    exact ⟨same ids ▸ kind, ids⟩

theorem cancelledOnce_append (kind : event.kind = .cancelRequested)
    (fresh : ∀ earlier ∈ a.events, earlier.id ≠ event.id) :
    CancelledOnce a { a with events := a.events ++ [event] } event.id := by
  constructor
  · have none_before : (a.events.countP fun earlier => earlier.kind == .cancelRequested && earlier.id == event.id) = 0 := by
      rw [List.countP_eq_zero]
      intro earlier member
      simp [fresh earlier member]
    simp only [List.countP_append, none_before, List.countP_singleton, kind, beq_self_eq_true, Bool.and_self, if_true]
  · simp

/-- Two commands built from one lifecycle and persisted against its stored value. -/
def Converges (clock : Reading) (sequence : Int) (a : Aggregate) (first second : Instant) : Prop :=
  ∃ once again answer answerAgain stored final,
    newCancellationCommand clock (some a) first = .ok once ∧
    newCancellationCommand clock (some a) second = .ok again ∧
    persistCancellationCommand sequence a a.intent.accountID (some a) (some once) = (.ok answer, stored) ∧
    persistCancellationCommand sequence stored a.intent.accountID (some a) (some again) = (.ok answerAgain, final) ∧
    CancelledOnce a final once.event.id

end

section
variable {a : Aggregate} {order : Order} {binding : OrderBinding} {command : CancellationEvidence} {clock : Reading}
  {sequence : Int} {first second : Instant} (ready : Cancellable a order binding command) (recorded : Recorded a)

include ready

include recorded in
theorem converges_of_requested (found : a.events.find? command.names = some event)
    (evidence : event.evidence = command.evidence) (unrevised : event.sourceRevision = "") :
    Converges clock sequence a first second := by
  have member := List.mem_of_find?_eq_some found
  have named := List.find?_some found
  have built : ∀ requestedAt, newCancellationCommand clock (some a) requestedAt = .ok event.alone := fun requestedAt =>
    (newCancellationCommand_ok_iff clock a requestedAt _).mpr
      ⟨order, binding, command, ready, Or.inl ⟨event, found, evidence, rfl⟩⟩
  have prepared : prepareCancellation a.intent.accountID (some a) (some event.alone) = .ok (.recorded a) := by
    refine (prepareCancellation_ok_iff ready recorded.named.2 _ _).mpr
      ⟨⟨named, unrevised, evidence⟩, Or.inl ⟨event, ?_, ?_, rfl⟩⟩
    · exact (find_group_eq_some recorded.distinct _ _).mpr ⟨member, rfl⟩
    · exact sameEventPayload_self event
  have kind : event.kind = .cancelRequested := by
    simp only [CancellationEvidence.names, Bool.and_eq_true, beq_iff_eq] at named
    exact named.1.1.1
  have persisted : persistCancellationCommand sequence a a.intent.accountID (some a) (some event.alone) = (.ok a, a) :=
    persist_ok_iff.mpr (.inl ⟨prepared, rfl⟩)
  exact ⟨_, _, a, a, a, a, built first, built second, persisted, persisted, recorded.cancelledOnce member kind⟩

theorem Cancellable.unique {order' : Order} {binding' : OrderBinding} {command' : CancellationEvidence}
    (other : Cancellable a order' binding' command') :
    order' = order ∧ binding' = binding ∧ command' = command := by
  cases Option.some.inj (ready.placed.symm.trans other.placed)
  exact ⟨rfl, Option.some.inj (other.bound.symm.trans ready.bound),
    Except.ok.inj (other.evidence.symm.trans ready.evidence)⟩

theorem Cancellable.built_iff (clock : Reading) (missing : a.events.find? command.names = none)
    (requestedAt : Instant) (t : Transition) :
    newCancellationCommand clock (some a) requestedAt = .ok t ↔ requestedAt.normalize.isZero = false ∧
      Requestable a command ∧ (ready.request requestedAt.normalize).validate = .ok () ∧
        (ready.request requestedAt.normalize).alone = t := by
  have requested (set : requestedAt.normalize.isZero = false) :=
    @requestCancel_ok_iff _ _ _ _ command clock (Instant.isCanonical_normalize set) ready.placed ready.bound t
  rw [newCancellationCommand_ok_iff]
  constructor
  · rintro ⟨_, _, _, other, decided⟩
    obtain ⟨rfl, rfl, rfl⟩ := ready.unique other
    rcases decided with ⟨event, found, _⟩ | ⟨_, set, built⟩
    · rw [missing] at found
      cases found
    · exact ⟨set, (requested set).mp built⟩
  · rintro ⟨set, built⟩
    exact ⟨order, binding, command, ready, Or.inr ⟨missing, set, (requested set).mpr built⟩⟩

omit ready

def withRequest (sequence : Int) (a : Aggregate) (event : Event) : Aggregate :=
  { a with events := a.events ++ [event.restamp sequence event.createdAt] }

include recorded

theorem accepted_cancelEvent (moment : Instant) :
    (a.intent.accountID == Uuid.nil || (cancelEvent a order binding command moment).alone.event.intentID == Uuid.nil ||
      (cancelEvent a order binding command moment).alone.event.accountID != a.intent.accountID) = false := by
  change (a.intent.accountID == Uuid.nil || a.intent.id == Uuid.nil || a.intent.accountID != a.intent.accountID) = false
  simp [recorded.named]

section
variable (fresh : ∀ event ∈ a.events, event.id ≠ command.eventID a.intent) (able : Requestable a command)
include fresh

theorem Recorded.unrequested : a.events.find? command.names = none :=
  List.find?_eq_none.mpr fun event member named => fresh event member (recorded.id_of_names member named)

include ready

omit recorded in
theorem Cancellable.find_cancelEvent (moment : Instant) :
    a.events.find? (fun event => event.id == (ready.request moment).id) = none := by
  rw [find_id_none, ready.cancelEvent_id]
  exact fresh

include able

theorem prepared_fresh (canonical : moment.isCanonical = true)
    (valid : (ready.request moment).validate = .ok ()) (clock : Reading) :
    prepareCancellation a.intent.accountID (some a) (some (ready.request moment).alone) =
      .ok (.expecting { a with events := a.events ++ [ready.request moment] }
        (ready.request moment).alone) := by
  refine (prepareCancellation_ok_iff ready recorded.named.2 _ _).mpr
    ⟨⟨ready.names_cancelEvent moment, trimSpace_empty, rfl⟩, Or.inr ⟨?_, _, cancel_step ready able canonical valid clock, rfl⟩⟩
  exact ready.find_cancelEvent fresh moment

theorem applied_first (canonical : moment.isCanonical = true) (valid : (ready.request moment).validate = .ok ())
    (clock : Reading) :
    applyExecutionTransition sequence a a.intent.accountID (ready.request moment).alone =
      .ok (withRequest sequence a (ready.request moment)) := by
  have missing : a.events.find? (fun event => event.id ==
      (ready.request moment).alone.event.id) = none := ready.find_cancelEvent fresh moment
  simp only [applyExecutionTransition, accepted_cancelEvent recorded, failIf_false, ok_bind, missing,
    cancel_step ready able canonical valid clock, wrapping]
  rfl

omit able in
theorem applied_again_iff {later : Instant} (canonical : moment.isCanonical = true) (canonicalLater : later.isCanonical = true)
    (result : Aggregate) :
    applyExecutionTransition sequence (withRequest sequence a (ready.request moment))
        a.intent.accountID (ready.request later).alone = .ok result ↔
      moment.equal later = true ∧ withRequest sequence a (ready.request moment) = result := by
  have ids : (ready.request moment).id = (ready.request later).id := rfl
  have found : (withRequest sequence a (ready.request moment)).events.find?
      (fun event => event.id == (ready.request later).alone.event.id) =
      some ((ready.request moment).restamp sequence moment) := by
    change (a.events ++ [(ready.request moment).restamp sequence moment]).find?
      (fun event => event.id == (ready.request later).id) = _
    rw [List.find?_append, ready.find_cancelEvent fresh later, Option.none_or]
    simp only [List.find?_singleton, Event.restamp, ids, beq_self_eq_true, if_true]
  have childless : (ready.request later).alone.childless = true := rfl
  have payload : sameEventPayload ((ready.request moment).restamp sequence moment)
      (ready.request later) = moment.equal later := by
    rw [sameEventPayload_cancelEvent_iff, normalizeTime_of_canonical canonical,
      normalizeTime_of_canonical canonicalLater]
  simp only [applyExecutionTransition, accepted_cancelEvent recorded, failIf_false, ok_bind, found, childless, Bool.and_true,
    failIf_bind_ok_iff, Bool.not_eq_false', pure_ok_iff]
  rw [show (ready.request later).alone.event = ready.request later from rfl,
    payload]

end

include ready

omit recorded in
theorem Cancellable.built_recorded (found : a.events.find? command.names = some event) {t : Transition}
    (built : newCancellationCommand clock (some a) requestedAt = .ok t) :
    event.evidence = command.evidence ∧ event.alone = t := by
  obtain ⟨_, _, _, other, decided⟩ := (newCancellationCommand_ok_iff clock a requestedAt t).mp built
  obtain ⟨rfl, rfl, rfl⟩ := ready.unique other
  rcases decided with ⟨event', found', same⟩ | ⟨missing, _⟩
  · cases Option.some.inj (found.symm.trans found')
    exact same
  · rw [found] at missing
    cases missing

omit ready recorded in
theorem prepared_of_persisted {sequence : Int} {stored : Aggregate} {accountID : Uuid} {aggregate : Option Aggregate}
    {t : Option Transition}
    (ok : persistCancellationCommand sequence stored accountID aggregate t = (.ok result, after)) :
    ∃ prepared, prepareCancellation accountID aggregate t = .ok prepared := by
  rcases persist_ok_iff.mp ok with ⟨prepared, _⟩ | ⟨_, _, prepared, _⟩
  · exact ⟨_, prepared⟩
  · exact ⟨_, prepared⟩

theorem Cancellable.fresh_of_persisted (missing : a.events.find? command.names = none) {stored : Aggregate}
    (ok : persistCancellationCommand sequence stored a.intent.accountID (some a) (some (ready.request moment).alone) =
      (.ok result, after)) :
    ∀ event ∈ a.events, event.id ≠ command.eventID a.intent := by
  obtain ⟨prepared, passed⟩ := prepared_of_persisted ok
  obtain ⟨⟨named, _⟩, ⟨event, found, same, _⟩ | ⟨absent, _⟩⟩ :=
    (prepareCancellation_ok_iff ready recorded.named.2 _ _).mp passed
  · -- an event with the same payload would have been found as the request itself
    have names : command.names event = true := by
      obtain ⟨kind, source, sourceNamespace, sourceEventID⟩ := sameEventPayload_source same
      rw [CancellationEvidence.names, kind, source, sourceNamespace, sourceEventID]
      exact named
    exact absurd names (List.find?_eq_none.mp missing event (List.mem_of_find?_eq_some found))
  · have absent' : a.events.find? (fun event => event.id == (ready.request moment).id) = none :=
      absent
    rwa [find_id_none, ready.cancelEvent_id] at absent'

theorem Cancellable.converges_fresh (able : Requestable a command) (valid : (ready.request moment).validate = .ok ())
    (fresh : ∀ event ∈ a.events, event.id ≠ command.eventID a.intent) (set : first.normalize.isZero = false)
    (together : first.normalize = second.normalize) : Converges clock sequence a first second := by
  have missing := recorded.unrequested fresh
  have canonical := Instant.isCanonical_normalize set
  have passes := validate_cancelEvent canonical valid
  have built := (ready.built_iff clock missing first _).mpr ⟨set, able, passes, rfl⟩
  have again := (ready.built_iff clock missing second _).mpr ⟨together ▸ set, able, together ▸ passes, rfl⟩
  rw [← together] at again
  have prepared := prepared_fresh ready recorded fresh able canonical passes clock
  have stored : applyExecutionTransition sequence a a.intent.accountID
      (ready.request first.normalize).alone = .ok (withRequest sequence a _) :=
    applied_first ready recorded fresh able canonical passes clock
  have unchanged := (applied_again_iff ready recorded fresh canonical canonical
    (withRequest sequence a (ready.request first.normalize))).mpr ⟨Instant.equal_self _, rfl⟩
  have same : sameAggregateResult (withRequest sequence a (ready.request first.normalize))
      { a with events := a.events ++ [ready.request first.normalize] } = true :=
    sameAggregateResult_append a rfl (sameEventPayload_restamp _ _ _)
  refine ⟨_, _, _, _, _, _, built, again, persist_ok_iff.mpr (.inr ⟨_, _, prepared, stored, same, rfl⟩),
    persist_ok_iff.mpr (.inr ⟨_, _, prepared, unchanged, same, rfl⟩), cancelledOnce_append rfl fun event member => ?_⟩
  rw [← ready.cancelEvent_id first.normalize] at fresh
  exact fresh event member

theorem Cancellable.together_of_converges (missing : a.events.find? command.names = none)
    (converges : Converges clock sequence a first second) :
    (∀ event ∈ a.events, event.id ≠ command.eventID a.intent) ∧ first.normalize.isZero = false ∧
      first.normalize = second.normalize := by
  obtain ⟨_, _, answer, answerAgain, stored, final, built, again, persisted, persistedAgain, _⟩ := converges
  obtain ⟨set, able, valid, rfl⟩ := (ready.built_iff clock missing first _).mp built
  obtain ⟨setAgain, _, validAgain, rfl⟩ := (ready.built_iff clock missing second _).mp again
  have fresh := ready.fresh_of_persisted recorded missing persisted
  have canonical := Instant.isCanonical_normalize set
  have canonicalAgain := Instant.isCanonical_normalize setAgain
  have prepared := prepared_fresh ready recorded fresh able canonical valid clock
  have preparedAgain := prepared_fresh ready recorded fresh able canonicalAgain validAgain clock
  refine ⟨fresh, set, ?_⟩
  obtain ⟨recordedFirst, _⟩ | ⟨_, _, waiting, applied, _, rfl⟩ := persist_ok_iff.mp persisted
  · cases prepared.symm.trans recordedFirst
  · cases prepared.symm.trans waiting
    cases (applied_first ready recorded fresh able canonical valid clock).symm.trans applied
    obtain ⟨recordedAgain, _⟩ | ⟨_, _, waiting, applied, _⟩ := persist_ok_iff.mp persistedAgain
    · cases preparedAgain.symm.trans recordedAgain
    · cases preparedAgain.symm.trans waiting
      have equal := ((applied_again_iff ready recorded fresh canonical canonicalAgain _).mp applied).1
      have nanos : first.normalize.nanos = second.normalize.nanos := by simpa [Instant.equal] using equal
      exact congrArg (fun nanos => (⟨nanos, true⟩ : Instant)) nanos

omit recorded ready

/-- Two commands of a stored lifecycle converge exactly when the request is already there,
or when nothing has its identity yet and both are made in one microsecond. -/
theorem cancellation_converges_iff {accountID : Uuid} {intent : Intent} {ts : List Transition}
    (stored : replay accountID intent ts = .ok a) (ready : Cancellable a order binding command)
    (accepted : ∃ clock requestedAt t, newCancellationCommand clock (some a) requestedAt = .ok t)
    (clock : Reading) (sequence : Int) (first second : Instant) :
    Converges clock sequence a first second ↔
      (∃ event ∈ a.events, command.names event = true ∧ event.sourceRevision = "") ∨
      (∀ event ∈ a.events, event.id ≠ command.eventID a.intent) ∧ first.normalize.isZero = false ∧
        first.normalize = second.normalize := by
  have recorded := recorded_of_replay stored
  obtain ⟨clock', requestedAt, t, built⟩ := accepted
  cases found : a.events.find? command.names with
  | none =>
    obtain ⟨_, able, valid, _⟩ := (ready.built_iff clock' found requestedAt t).mp built
    constructor
    · intro converges
      exact Or.inr (ready.together_of_converges recorded found converges)
    · rintro (⟨event, member, named, _⟩ | ⟨fresh, set, together⟩)
      · exact absurd named (List.find?_eq_none.mp found event member)
      · exact ready.converges_fresh recorded able valid fresh set together
  | some event =>
    have member := List.mem_of_find?_eq_some found
    have named := List.find?_some found
    constructor
    · rintro ⟨once, _, answer, _, after, _, builtOnce, _, persisted, _⟩
      obtain ⟨_, rfl⟩ := ready.built_recorded found builtOnce
      obtain ⟨prepared, passed⟩ := prepared_of_persisted persisted
      obtain ⟨⟨_, unrevised, _⟩, _⟩ := (prepareCancellation_ok_iff ready recorded.named.2 _ _).mp passed
      exact Or.inl ⟨event, member, named, unrevised⟩
    · rintro (⟨other, inside, names, unrevised⟩ | ⟨fresh, _⟩)
      · have ids : other.id = event.id := by
          rw [recorded.id_of_names inside names, recorded.id_of_names member named]
        rw [List.inj_on_of_nodup_map recorded.distinct inside member ids] at unrevised
        exact converges_of_requested ready recorded found (ready.built_recorded found built).1 unrevised
      · exact absurd (recorded.id_of_names member named) (fresh event member)

end

def sampleWorking : Transition :=
  ⟨{ sampleEvent ⟨[224, 21, 83, 222, 175, 29, 88, 159, 94, 113, 224, 172, 125, 156, 169, 219], rfl⟩ .orderWorking
      .routed .working "s5" with
    orderID := some sampleOrder.id
    policyKind := .venue
    policyVersion := "v1"
    bindingID := some sampleBinding.id }, none, some sampleBinding, none, none⟩

def sampleBound : Aggregate :=
  { sampleAggregate with
    state := .working
    binding := some sampleBinding
    events := sampleAggregate.events ++ [sampleWorking.event] }

theorem sampleBound_replayed :
    replay (Uuid.ofByte 1) sampleIntent (sampleHistory ++ [sampleWorking]) = .ok sampleBound := by
  have stepped : sampleAggregate.step sampleWorking = .ok sampleBound := by decide +kernel
  exact replay_extend sampleHistory_replayed (by decide) (by decide) stepped

def sampleCancellation : CancellationEvidence := cancellationEvidence sampleOrder sampleBinding .alpaca

theorem sampleBound_cancellable : Cancellable sampleBound sampleOrder sampleBinding sampleCancellation where
  placed := rfl
  bound := rfl
  policy := rfl
  reviewed := by decide
  evidence := by
    have alpaca : Provider.ofText sampleOrder.venue = .alpaca := by decide
    rw [alpaca]
    rfl

theorem sampleBound_accepts :
    (newCancellationCommand Ledger.sampleReading (some sampleBound) ⟨6000000, true⟩).toOption.isSome = true := by
  decide +kernel

theorem sampleBound_fresh :
    ∀ event ∈ sampleBound.events, event.id ≠ sampleCancellation.eventID sampleBound.intent := by
  decide +kernel

theorem cancellation_converges_sample :
    replay (Uuid.ofByte 1) sampleIntent (sampleHistory ++ [sampleWorking]) = .ok sampleBound ∧
      Converges Ledger.sampleReading 6 sampleBound ⟨6000000, true⟩ ⟨6000400, true⟩ := by
  obtain ⟨t, built⟩ := Option.isSome_iff_exists.mp sampleBound_accepts
  exact ⟨sampleBound_replayed, (cancellation_converges_iff sampleBound_replayed sampleBound_cancellable
    ⟨_, _, t, ok_of_toOption built⟩ _ _ _ _).mpr (Or.inr ⟨sampleBound_fresh, by decide, by decide⟩)⟩

/-- Two requests a microsecond apart: both commands are built, and they do not converge. -/
theorem later_cancellation_conflicts :
    replay (Uuid.ofByte 1) sampleIntent (sampleHistory ++ [sampleWorking]) = .ok sampleBound ∧
      (∃ once again, newCancellationCommand Ledger.sampleReading (some sampleBound) ⟨6000000, true⟩ = .ok once ∧
        newCancellationCommand Ledger.sampleReading (some sampleBound) ⟨6001000, true⟩ = .ok again) ∧
      ¬ Converges Ledger.sampleReading 6 sampleBound ⟨6000000, true⟩ ⟨6001000, true⟩ := by
  have recorded := recorded_of_replay sampleBound_replayed
  have missing := recorded.unrequested sampleBound_fresh
  obtain ⟨once, seen⟩ := Option.isSome_iff_exists.mp sampleBound_accepts
  have built := ok_of_toOption seen
  obtain ⟨_, able, valid, _⟩ := (sampleBound_cancellable.built_iff _ missing _ _).mp built
  have again := (sampleBound_cancellable.built_iff Ledger.sampleReading missing ⟨6001000, true⟩ _).mpr
    ⟨by decide, able, validate_cancelEvent (by decide) valid, rfl⟩
  refine ⟨sampleBound_replayed, ⟨once, _, built, again⟩, fun converges => ?_⟩
  obtain ⟨_, _, together⟩ := sampleBound_cancellable.together_of_converges recorded missing converges
  exact absurd together (by decide)

end Augr.Venue
