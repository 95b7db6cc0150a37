import Augr.Lifecycle.Links

/-! The binding of an order: whose it is, and which events may name it.

An acknowledgement is compared with the account and the venue, an immediate fill is not;
cancels and terminal observations name the binding, failure evidence may name any.
-/

set_option autoImplicit false

namespace Augr.Lifecycle

open Foundation Ledger

variable {after : Aggregate} {binding : OrderBinding}

/-- The binding belongs to the order, its venue and the account of the intent. -/
structure OrderBinding.Fits (binding : OrderBinding) (a : Aggregate) : Prop where
  order : ∃ order, a.order = some order ∧ binding.orderID = order.id ∧ binding.venue = order.venue
  account : binding.accountID = a.intent.accountID

/-- The transition, its stored number aside, is one that `failReconciliation` returns on the aggregate. -/
def FromFailReconciliation (before : Aggregate) (t : Transition) : Prop :=
  ∃ clock kind input createdAt, failReconciliation clock (some before) kind input createdAt = .ok t.unstored

/-- Immediate fills and failure evidence come from their commands. -/
structure BoundByCommands (before : Aggregate) (t : Transition) : Prop where
  fill : t.event.kind = .fillAcknowledged → FromRecordFill before t
  failure : t.event.kind.isFailure = true → FromFailReconciliation before t

section
variable {a : Aggregate} {t : Transition} {accountID : Uuid} {intent : Intent} {ts : List Transition}

theorem Event.situated_bindingID (event : Event) (a : Aggregate) :
    (event.situated a).bindingID = a.binding.map OrderBinding.id := by
  unfold Event.situated
  cases a.order <;> rfl

theorem FromFailReconciliation.bindingID (made : FromFailReconciliation a t) :
    t.event.bindingID = a.binding.map OrderBinding.id := by
  obtain ⟨clock, kind, input, createdAt, ok⟩ := made
  simp only [failReconciliation, returns_iff, admitting_some_iff] at ok
  obtain ⟨_, ⟨_, rfl⟩, _, event, _, _, _, built⟩ := ok
  calc t.event.bindingID = t.unstored.event.bindingID := rfl
    _ = (event.situated a).bindingID := by rw [← built]; rfl
    _ = a.binding.map OrderBinding.id := Event.situated_bindingID event a

theorem FromRecordFill.fits (made : FromRecordFill a t) (routed : a.state = .routed) (new : t.binding = some binding)
    (kind : t.event.kind = .fillAcknowledged) :
    binding.accountID = a.intent.accountID ∧ ∃ order, a.order = some order ∧ binding.venue = order.venue := by
  obtain ⟨order, fill, n, source, transaction, recordedBinding, facts⟩ := made.recorded
  obtain ⟨created, isCreated, _, carried, _⟩ := bindFill_new kind facts.bound
  cases isCreated
  cases Option.some.inj (new.symm.trans carried)
  obtain ⟨ofAccount, ofVenue⟩ := facts.venue routed
  exact ⟨ofAccount, order, facts.carried.placed, ofVenue⟩

theorem Invariant.unbound (invariant : Invariant a)
    (early : a.state = .proposed ∨ a.state = .allocated ∨ a.state = .riskApproved ∨ a.state = .routed) :
    a.binding = none := by
  have progress := invariant.progress
  rcases early with state | state | state | state <;> rw [state] at progress
  · exact progress.2.2.1
  · exact progress.2.1
  · exact progress.2.1
  · exact progress.1

/-- What a step does to a binding: nothing that does not fit, and no event names another. -/
structure KeepsBinding (a : Aggregate) (t : Transition) (after : Aggregate) : Prop where
  fits : ∀ binding, after.binding = some binding → binding.Fits after
  kept : ∀ binding, a.binding = some binding → after.binding = some binding
  named : ∀ binding, a.binding = some binding → ∀ id, t.event.bindingID = some id → id = binding.id

theorem KeepsBinding.of_unbound (unbound : a.binding = none)
    (fits : ∀ binding, after.binding = some binding → binding.Fits after) : KeepsBinding a t after := by
  refine ⟨fits, ?_, ?_⟩ <;>
    · intro binding bound
      rw [unbound] at bound
      cases bound

theorem KeepsBinding.of_same (fits : ∀ binding, a.binding = some binding → binding.Fits a)
    (sameOrder : after.order = a.order) (sameIntent : after.intent = a.intent)
    (sameBinding : after.binding = a.binding)
    (named : ∀ binding, a.binding = some binding → ∀ id, t.event.bindingID = some id → id = binding.id) :
    KeepsBinding a t after := by
  refine ⟨?_, ?_, named⟩
  · intro binding bound
    rw [sameBinding] at bound
    obtain ⟨order, account⟩ := fits binding bound
    exact ⟨by rw [sameOrder]; exact order, by rw [sameIntent]; exact account⟩
  · intro binding bound
    rw [sameBinding]
    exact bound

theorem named_of (bound : a.binding = some binding) (named : t.event.bindingID = some binding.id) :
    ∀ other, a.binding = some other → ∀ id, t.event.bindingID = some id → id = other.id := by
  intro other isOther id isID
  rw [bound] at isOther
  cases isOther
  rw [named] at isID
  exact (Option.some.inj isID).symm

theorem step_binding (invariant : Invariant a) (fits : ∀ binding, a.binding = some binding → binding.Fits a)
    (commands : BoundByCommands a t) (ok : a.step t = .ok after) : KeepsBinding a t after := by
  obtain ⟨_, next, effect, rfl⟩ := step_effect ok
  cases effect with
  | proposed kind prior =>
    have progress := invariant.progress
    rw [prior] at progress
    exact progress.elim
  | allocated quantity kind prior =>
    have unbound := invariant.unbound (Or.inl prior)
    exact .of_unbound unbound fun binding bound => by cases unbound.symm.trans bound
  | decided kind prior =>
    have unbound := invariant.unbound (Or.inr (Or.inl prior))
    exact .of_unbound unbound fun binding bound => by cases unbound.symm.trans bound
  | routed order kind prior =>
    have unbound := invariant.unbound (Or.inr (Or.inr (Or.inl prior)))
    exact .of_unbound unbound fun binding bound => by cases unbound.symm.trans bound
  | working order binding kind prior _ placed unbound named ofOrder ofAccount ofVenue =>
    refine .of_unbound unbound fun other bound => ?_
    cases bound
    exact ⟨⟨order, placed, ofOrder, ofVenue⟩, ofAccount⟩
  | acknowledged order fill n source transaction binding kind prior _ carried unbound new named ofOrder =>
    refine .of_unbound unbound fun other bound => ?_
    cases bound
    obtain ⟨ofAccount, order', placed, ofVenue⟩ := (commands.fill kind).fits prior new kind
    cases Option.some.inj (carried.placed.symm.trans placed)
    exact ⟨⟨order, placed, ofOrder, ofVenue⟩, ofAccount⟩
  | cancelRequested binding kind prior _ bound named => exact .of_same fits rfl rfl rfl (named_of bound named)
  | recorded order fill n source transaction binding kind prior _ carried bound named =>
    exact .of_same fits rfl rfl rfl (named_of bound named)
  | ended kind named =>
    rcases named with ⟨_, binding, bound, named⟩ | ⟨routed, _⟩
    · exact .of_same fits rfl rfl rfl (named_of bound named)
    · have unbound := invariant.unbound (Or.inr (Or.inr (Or.inr routed)))
      exact .of_unbound unbound fun binding bound => by cases unbound.symm.trans bound
  | failed kind =>
    refine .of_same fits rfl rfl rfl fun binding bound => ?_
    refine named_of bound ?_ binding bound
    rw [(commands.failure kind).bindingID, bound]
    rfl

theorem replay_fits (ok : replay accountID intent ts = .ok a)
    (commands : AtEachStep accountID intent ts BoundByCommands) :
    ∀ binding, a.binding = some binding → binding.Fits a := by
  refine replay_induction_of (fun _ a => ∀ binding, a.binding = some binding → binding.Fits a) ?_ ?_ ok commands
  · intro initial _ _ _ binding bound
    cases bound
  · intro ts before t after replayed fits stepped made
    exact (step_binding (replay_invariant replayed) fits made stepped).fits

theorem replay_names {earlier later : List Transition} {before : Aggregate}
    (reached : replay accountID intent earlier = .ok before) (bound : before.binding = some binding)
    (ok : replay accountID intent (earlier ++ later) = .ok a)
    (commands : AtEachStep accountID intent (earlier ++ later) BoundByCommands) :
    a.binding = some binding ∧ ∀ t ∈ later, ∀ id, t.event.bindingID = some id → id = binding.id := by
  induction later using List.reverseRecOn generalizing a with
  | nil =>
    rw [List.append_nil, reached] at ok
    cases ok
    exact ⟨bound, fun t member => by cases member⟩
  | append_singleton middle t ih =>
    rw [← List.append_assoc] at ok commands
    have nonempty : earlier ++ middle ≠ [] := by
      intro empty
      obtain ⟨rfl, _⟩ := List.append_eq_nil_iff.mp empty
      obtain ⟨_, _, _, _, _, impossible, _⟩ := (replay_ok_iff _ _ _ _).mp reached
      cases impossible
    obtain ⟨last, replayed, stepped, _⟩ := replay_snoc ok nonempty
    obtain ⟨stillBound, named⟩ := ih replayed commands.init
    have keeps := step_binding (replay_invariant replayed) (replay_fits replayed commands.init)
      (commands.last replayed) stepped
    exact ⟨keeps.kept binding stillBound, forall_mem_concat named (keeps.named binding stillBound)⟩

/-- When immediate fills and failure evidence come from their commands, a binding belongs to
its order, account and venue, and every later event that names a binding names it. -/
theorem replay_bindings (ok : replay accountID intent ts = .ok a)
    (commands : AtEachStep accountID intent ts BoundByCommands) :
    (∀ binding, a.binding = some binding → ∃ order, a.order = some order ∧ binding.orderID = order.id ∧
      binding.accountID = a.intent.accountID ∧ binding.venue = order.venue) ∧
    ∀ earlier later before binding, ts = earlier ++ later → replay accountID intent earlier = .ok before →
      before.binding = some binding →
      a.binding = some binding ∧ ∀ t ∈ later, ∀ id, t.event.bindingID = some id → id = binding.id := by
  constructor
  · intro binding bound
    obtain ⟨⟨order, placed, ofOrder, ofVenue⟩, ofAccount⟩ := replay_fits ok commands binding bound
    exact ⟨order, placed, ofOrder, ofAccount, ofVenue⟩
  · rintro earlier later before binding rfl reached bound
    exact replay_names reached bound ok commands

end

theorem replay_bindings_recorded : ∃ ts a, FilledTwice ts a ∧
    ∀ binding, a.binding = some binding → ∃ order, a.order = some order ∧ binding.orderID = order.id ∧
      binding.accountID = a.intent.accountID ∧ binding.venue = order.venue := by
  obtain ⟨first, second, a, twice⟩ := sampleFills_replayed
  refine ⟨_, a, twice, (replay_bindings twice.replayed ?_).1⟩
  intro earlier t later before split reached
  refine ⟨fun kind => twice.recorded earlier t later before split reached (by simp [Event.isFill, kind]), ?_⟩
  intro failure
  rw [twice.reconciled t (by simp [split])] at failure
  cases failure

/-- An immediate fill sets a binding of another account and venue, and a later event names a third one. -/
theorem replay_bindings_foreign : ∃ ts t a order binding id,
    replay (Uuid.ofByte 1) sampleIntent (sampleHistory ++ (ts ++ [t])) = .ok a ∧ a.order = some order ∧
    a.binding = some binding ∧ binding.accountID ≠ a.intent.accountID ∧ binding.venue ≠ order.venue ∧
    (∃ before, replay (Uuid.ofByte 1) sampleIntent (sampleHistory ++ ts) = .ok before ∧
      before.binding = some binding) ∧ t.event.bindingID = some id ∧ id ≠ binding.id := by
  obtain ⟨n, _, transaction, _, _, _, _, _, _, _, ⟨before, reached, bound⟩, a, replayed, isIntent, placed, stillBound⟩ :=
    sampleExecution_uses
  refine ⟨[_], _, a, sampleOrder, sampleForeignBinding, Uuid.ofByte 7, replayed, placed, stillBound, ?_, by decide,
    ⟨before, reached, bound⟩, rfl, by decide⟩
  rw [isIntent]
  decide

end Augr.Lifecycle
