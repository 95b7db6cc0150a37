import Augr.Lifecycle.Links

/-! The event log of a replayed history. -/

set_option autoImplicit false

namespace Augr.Lifecycle

open Foundation

variable {after a : Aggregate} {t : Transition} {ts : List Transition} {accountID : Uuid} {intent : Intent}

def State.stage : State → Nat
  | .none => 0
  | .proposed => 1
  | .allocated => 2
  | .riskApproved => 3
  | .routed => 4
  | .working => 5
  | .partiallyFilled => 6
  | .failedReconciliation => 8
  | _ => 7

/-- The stage that an event of the kind enters, from a lower one. -/
def EventKind.stage : EventKind → Nat
  | .intentProposed => 1
  | .intentAllocated => 2
  | .riskApproved => 3
  | .orderRouted => 4
  | .orderWorking => 5
  | .fillAcknowledged => 6
  | .riskRejected | .orderCancelled | .orderExpired | .orderRejected => 7
  | _ => 8

def EventKind.Repeatable (kind : EventKind) : Prop := kind = .cancelRequested ∨ kind = .fillRecorded

theorem State.stage_lt {state : State} (pending : state ≠ .failedReconciliation) : state.stage < 8 := by
  cases state <;> first | exact absurd rfl pending | decide | simp [State.stage]

theorem Leads.passes {kind : EventKind} {prior next : State} (leads : Leads kind prior next) :
    kind.Repeatable ∧ prior.stage ≤ next.stage ∨ prior.stage < kind.stage ∧ kind.stage ≤ next.stage := by
  cases leads with
  | cancelRequested => exact Or.inl ⟨Or.inl rfl, Nat.le_refl _⟩
  | recorded live filled =>
    refine Or.inl ⟨Or.inr rfl, ?_⟩
    rcases live with rfl | rfl <;> rcases filled with rfl | rfl <;> decide
  | acknowledged filled =>
    right
    rcases filled with rfl | rfl <;> decide
  | cancelled placed | expired placed | rejected placed =>
    right
    rcases placed with rfl | rfl | rfl <;> decide
  | failed failure _ pending =>
    right
    have last : kind.stage = 8 := by cases kind <;> first | rfl | exact absurd failure Bool.false_ne_true
    rw [last]
    exact ⟨State.stage_lt pending, Nat.le_refl _⟩
  | _ =>
    right
    decide

/-- The log is a path through the state graph, in which only cancel requests and recorded fills come again. -/
structure Logged (ts : List Transition) (a : Aggregate) : Prop where
  events : a.events = ts.map fun t => t.event
  distinct : (a.events.map Event.id).Nodup
  legal : ∀ event ∈ a.events, Leads event.kind event.priorState event.nextState
  connected : a.events.IsChain fun earlier later => later.priorState = earlier.nextState
  last : a.events.getLast?.map Event.nextState = some a.state
  passed : ∀ event ∈ a.events, event.nextState.stage ≤ a.state.stage
  once : a.events.Pairwise fun earlier later => earlier.kind = later.kind → earlier.kind.Repeatable

theorem Logged.opened {initial : Transition} (opening : opens intent initial = true) :
    Logged [initial] (.opened intent initial.event) := by
  simp only [opens, Bool.and_eq_true, beq_iff_eq] at opening
  have kind : initial.event.kind = .intentProposed := by tauto
  have prior : initial.event.priorState = .none := by tauto
  have next : initial.event.nextState = .proposed := by tauto
  constructor
  case legal =>
    simp only [Aggregate.opened, List.mem_singleton, forall_eq, kind, prior, next]
    exact .proposed
  all_goals simp [Aggregate.opened, next]

theorem Logged.step (logged : Logged ts a) (ok : a.step t = .ok after)
    (fresh : t.event.id ∉ ts.map fun earlier => earlier.event.id) : Logged (ts ++ [t]) after := by
  obtain ⟨accepted, next, _, rfl⟩ := step_effect ok
  have leads : Leads t.event.kind t.event.priorState t.event.nextState := by
    rw [accepted.prior]
    exact leads_of_legal accepted.legal
  have passes := leads.passes
  have advanced : a.state.stage ≤ t.event.nextState.stage := by
    rw [← accepted.prior]
    omega
  constructor
  · simp [logged.events]
  · rw [List.map_append, List.map_singleton, ← List.concat_eq_append]
    apply logged.distinct.concat
    rwa [logged.events, List.map_map]
  · simpa [or_imp, forall_and] using ⟨logged.legal, leads⟩
  · refine logged.connected.append (.singleton _) ?_
    intro earlier isLast later isNext
    obtain rfl := Option.some.inj isNext
    have last := logged.last
    rw [isLast] at last
    rw [accepted.prior]
    exact (Option.some.inj last).symm
  · simp
  · intro event known
    rcases List.mem_append.mp known with earlier | new
    · exact (logged.passed event earlier).trans advanced
    · rw [List.mem_singleton.mp new]
  · refine List.pairwise_append.mpr ⟨logged.once, List.pairwise_singleton _ _, ?_⟩
    intro earlier known later new same
    obtain rfl := List.mem_singleton.mp new
    -- an event that cannot come again has left its stage behind
    have before := (logged.legal earlier known).passes
    have reached := logged.passed earlier known
    rw [← accepted.prior] at reached
    rw [same] at before ⊢
    rcases passes with ⟨again, _⟩ | ⟨below, _⟩
    · exact again
    · rcases before with ⟨again, _⟩ | ⟨_, entered⟩
      · exact again
      · omega

/-- Every accepted history logs its events as such a path. -/
theorem replay_logged (ok : replay accountID intent ts = .ok a) : Logged ts a := by
  apply replay_induction Logged _ _ ok
  · intro initial _ opening _
    exact .opened opening
  · intro ts before t after _ logged stepped fresh
    exact logged.step stepped fresh

theorem replay_logged_routed : Logged sampleHistory sampleAggregate := replay_logged sampleHistory_replayed

theorem fills_positive_step (positive : ∀ fill ∈ a.fills, 0 < fill.quantity.toRat) (ok : a.step t = .ok after) :
    ∀ fill ∈ after.fills, 0 < fill.quantity.toRat := by
  obtain ⟨_, next, effect, rfl⟩ := step_effect ok
  cases effect with
  | acknowledged _ _ _ _ _ _ _ _ _ carried | recorded _ _ _ _ _ _ _ _ _ carried =>
    simpa [or_imp, forall_and] using ⟨positive, Fill.quantity_of_validate carried.valid⟩
  | _ => exact positive

/-- Each event of a fill reports the total of the fills up to its own. -/
def Aggregate.Totals (a : Aggregate) : Prop :=
  ∀ (index : Nat) (event : Event), a.fillEvents[index]? = some event →
    ∃ quantity, event.cumulativeFillQuantity = some quantity ∧
      quantity.toRat = (sumFillQuantity (a.fills.take (index + 1))).toRat

theorem totals_step (totals : a.Totals) (invariant : Invariant a) (ok : a.step t = .ok after) : after.Totals := by
  have kept := invariant.step ok
  have fills := step_links ok
  have events : after.fillEvents = a.fillEvents ++ [t.event].filter Event.isFill := by
    obtain ⟨_, next, _, rfl⟩ := step_effect ok
    exact List.filter_append ..
  intro index event found
  by_cases earlier : index < a.fillEvents.length
  · rw [events, List.getElem?_append_left earlier] at found
    rw [fills, List.take_append_of_le_length (by rw [invariant.counted]; omega)]
    exact totals index event found
  · -- nothing comes after the event of this step
    obtain ⟨inside, rfl⟩ := List.getElem?_eq_some_iff.mp found
    have length : after.fillEvents.length = index + 1 := by
      have short : ([t.event].filter Event.isFill).length ≤ 1 := List.length_filter_le ..
      rw [events, List.length_append] at inside ⊢
      omega
    rw [List.take_of_length_le (by rw [kept.counted, length])]
    apply kept.cumulative
    rw [List.getLast?_eq_getElem?, length]
    exact found

/-- The cumulative quantities of a history are the running totals of its fills, which are all positive. -/
theorem replay_totals (ok : replay accountID intent ts = .ok a) :
    (∀ fill ∈ a.fills, 0 < fill.quantity.toRat) ∧ a.Totals := by
  apply replay_induction (fun _ a => (∀ fill ∈ a.fills, 0 < fill.quantity.toRat) ∧ a.Totals) _ _ ok
  · intro initial _ opening _
    have none : (Aggregate.opened intent initial.event).fillEvents = [] :=
      List.length_eq_zero_iff.mp (Invariant.opened opening).counted.symm
    refine ⟨by simp [Aggregate.opened], ?_⟩
    intro index event found
    rw [none] at found
    cases found
  · intro ts before t after replayed held stepped _
    exact ⟨fills_positive_step held.1 stepped, totals_step held.2 (replay_invariant replayed) stepped⟩

theorem replay_totals_recorded : ∃ ts a, FilledTwice ts a ∧ a.Totals := by
  obtain ⟨first, second, a, twice⟩ := sampleFills_replayed
  exact ⟨_, a, twice, (replay_totals twice.replayed).2⟩

end Augr.Lifecycle
