import Augr.Lifecycle.Links

/-! One ledger fact, one fill.

Replaying keeps event identifiers apart and nothing else. A fill of `recordFill` carries
the source identity of its event, so that apart events have apart ledger facts.
-/

set_option autoImplicit false

namespace Augr.Lifecycle

open Foundation Ledger

variable {n : EconomicNormalization} {source : EconomicSourceEvent} {transaction : Transaction}

def sourceBytes (fill : Fill) : Bytes :=
  identityBytes "economic-source-event"
    [fill.accountID.toText, fill.source, fill.sourceNamespace, fill.sourceEventID]

def fillBytes (fill : Fill) : Bytes :=
  identityBytes "execution-fill" [fill.orderID.toText, fill.economicSourceEventID.toText]

def normalizationBytes (fill : Fill) (n : EconomicNormalization) : Bytes :=
  identityBytes "economic-normalization" [fill.economicSourceEventID.toText, n.normalizerVersion]

def transactionBytes (fill : Fill) (n : EconomicNormalization) : Bytes :=
  identityBytes "economic-ledger-transaction" [fill.economicSourceEventID.toText, n.normalizerVersion]

/-- Everything that is hashed into the identifiers of a fill and of its ledger facts. -/
def linkPreimages (link : Fill × EconomicNormalization) : List Bytes :=
  [sourceBytes link.1, fillBytes link.1, normalizationBytes link.1 link.2, transactionBytes link.1 link.2]

/-- The hash tells the names of a history's fills apart. -/
def TellsApart (links : List (Fill × EconomicNormalization)) : Prop :=
  ∀ left ∈ links.flatMap linkPreimages, ∀ right ∈ links.flatMap linkPreimages, ¬ Collision left right

/-- The identifiers of the fill, of its event and of its ledger facts are hashes of the fill's fields. -/
structure Hashed (intent : Intent) (eventID : Uuid) (fill : Fill) (n : EconomicNormalization) : Prop where
  isSource : fill.economicSourceEventID =
    deterministicUUID "economic-source-event" [fill.accountID.toText, fill.source, fill.sourceNamespace, fill.sourceEventID]
  isFill : fill.id = deterministicUUID "execution-fill" [fill.orderID.toText, fill.economicSourceEventID.toText]
  isNormalization : fill.normalizationID =
    deterministicUUID "economic-normalization" [fill.economicSourceEventID.toText, n.normalizerVersion]
  isTransaction : fill.ledgerTransactionID =
    deterministicUUID "economic-ledger-transaction" [fill.economicSourceEventID.toText, n.normalizerVersion]
  ofAccount : fill.accountID = intent.accountID
  isEvent : eventID = deterministicUUID "execution-lifecycle-event"
    [intent.id.toText, ObservationClass.ordinary.text, fill.source, fill.sourceNamespace, fill.sourceEventID, ""]

theorem EconomicSourceEvent.identity_of_validate (valid : source.validate = .ok ()) :
    source.id = EconomicSourceEvent.sourceIdentity source.accountID source.source source.sourceNamespace
      source.sourceEventID := by
  simp only [EconomicSourceEvent.validate, check_bind_ok_iff, failIf_ok_iff, bne_eq_false_iff_eq] at valid
  tauto

theorem validate_transactionID {clock : Reading} (valid : n.validate clock = .ok ())
    (isSource : n.sourceEvent = some source) (isTransaction : n.transaction = some transaction) :
    source.validate = .ok () ∧ n.id = EconomicNormalization.normalizationID source.id n.normalizerVersion ∧
      transaction.id = deterministicUUID "economic-ledger-transaction" [source.id.toText, n.normalizerVersion] := by
  obtain ⟨source', account, header, expected, built, same⟩ := (EconomicNormalization.validate_ok_iff clock n).mp valid
  cases Option.some.inj (isSource.symm.trans header.foundSource)
  have currency : isCurrencyUnit n.cashCurrency = true := by
    rw [header.currency]
    exact Account.currency_of_validate header.accountValid
  obtain ⟨lines, _, records⟩ := EconomicNormalization.records_of_expected header
    (fun lines ok => EconomicNormalization.expectedPostings_tidy currency ok) built
  refine ⟨header.sourceValid, header.identity, ?_⟩
  rw [isTransaction] at same
  simp only [sameEconomicTransaction, Bool.and_eq_true, beq_iff_eq] at same
  rw [← records.id]
  tauto

theorem Event.identity_of_fill {event : Event} (valid : event.validate = .ok ()) (isFill : event.isFill = true) :
    event.id = deterministicUUID "execution-lifecycle-event" [event.intentID.toText, ObservationClass.ordinary.text,
      event.source, event.sourceNamespace, event.sourceEventID, ""] := by
  have ordinary : event.observationClass = .ordinary := by
    refine Event.ordinary_of_validate valid ?_ ?_ <;>
      · intro kind
        simp [Event.isFill, kind] at isFill
  simp only [Event.validate, check_bind_ok_iff, failIf_ok_iff, bne_eq_false_iff_eq] at valid
  obtain ⟨_, _, _, _, _, _, _, _, observation, _, identity⟩ := valid
  simp only [Event.validateObservation, ordinary, failIf_ok_iff, Bool.or_eq_false_iff, bne_eq_false_iff_eq] at observation
  rw [identity, Event.identity, ordinary, observation.1.1]
  rfl

section
variable {a : Aggregate} {t : Transition} {intent : Intent}

theorem Recorded.hashed {order : Order} {fill : Fill} {binding : OrderBinding}
    (recorded : Recorded a t order fill n source transaction binding) : Hashed a.intent t.event.id fill n := by
  have carried := recorded.carried
  obtain ⟨clock, sound⟩ := recorded.sound
  obtain ⟨sourceValid, isNormalization, isTransaction⟩ :=
    validate_transactionID sound carried.isSource carried.isTransaction
  have owned := carried.owned
  have linked := carried.linked
  have normalized := carried.normalized
  simp only [Aggregate.owns, Bool.and_eq_true, beq_iff_eq] at owned
  simp only [Aggregate.linked, Bool.and_eq_true, beq_iff_eq] at linked
  simp only [validateFillNormalization, returns_iff, Bool.or_eq_false_iff, bne_eq_false_iff_eq] at normalized
  obtain ⟨⟨⟨⟨⟨_, ofIntent⟩, ofOrder⟩, ofAccount⟩, _⟩, _⟩ := owned
  obtain ⟨⟨⟨⟨⟨⟨⟨toSource, toNormalization⟩, toTransaction⟩, source₁⟩, source₂⟩, source₃⟩, _⟩, _⟩ := linked
  obtain ⟨source', isSource', ⟨⟨⟨⟨⟨⟨⟨⟨⟨sourceAccount, _⟩, _⟩, _⟩, _⟩, _⟩, _⟩, _⟩, _⟩, _⟩, _⟩ := normalized
  cases Option.some.inj (carried.isSource.symm.trans isSource')
  obtain ⟨evidence₁, evidence₂, evidence₃, _⟩ := recorded.evidence
  have isFill : t.event.isFill = true := by
    rcases recorded.kind with kind | kind <;> simp [Event.isFill, kind]
  have identity := Event.identity_of_fill recorded.accepted.valid isFill
  have context := recorded.accepted.context
  simp only [Aggregate.sameContext, Bool.and_eq_true, beq_iff_eq] at context
  constructor
  case isSource =>
    rw [toSource, EconomicSourceEvent.identity_of_validate sourceValid, EconomicSourceEvent.sourceIdentity, ofAccount,
      sourceAccount, ← source₁, ← source₂, ← source₃, evidence₁, evidence₂, evidence₃]
  case isFill =>
    rw [recorded.identity, toSource, ofOrder]
    rfl
  case isNormalization =>
    rw [toNormalization, isNormalization, toSource]
    rfl
  case isTransaction => rw [toTransaction, isTransaction, toSource]
  case ofAccount => exact ofAccount
  case isEvent =>
    rw [identity, source₁, source₂, source₃]
    have same : t.event.intentID = a.intent.id := by tauto
    rw [same]

/-- Two fills that share neither a name nor a ledger fact. -/
structure Fill.Apart (left right : Fill) : Prop where
  id : left.id ≠ right.id
  source : left.economicSourceEventID ≠ right.economicSourceEventID
  normalization : left.normalizationID ≠ right.normalizationID
  transaction : left.ledgerTransactionID ≠ right.ledgerTransactionID

theorem Hashed.apart {first second : Uuid} {left right : Fill} {m : EconomicNormalization}
    (hashed : Hashed intent first left n) (other : Hashed intent second right m) (different : first ≠ second)
    (free : ∀ x ∈ linkPreimages (left, n), ∀ y ∈ linkPreimages (right, m), ¬ Collision x y) : left.Apart right := by
  have sources : left.economicSourceEventID ≠ right.economicSourceEventID := by
    intro same
    rw [hashed.isSource, other.isSource] at same
    have names := deterministicUUID_inj (free (sourceBytes left) (by simp [linkPreimages]) (sourceBytes right)
      (by simp [linkPreimages])) same
    simp only [List.cons.injEq, and_true] at names
    obtain ⟨_, source, sourceNamespace, sourceEvent⟩ := names
    refine different ?_
    rw [hashed.isEvent, other.isEvent, source, sourceNamespace, sourceEvent]
  refine ⟨fun same => sources ?_, sources, fun same => sources ?_, fun same => sources ?_⟩
  · rw [hashed.isFill, other.isFill] at same
    have names := deterministicUUID_inj (free (fillBytes left) (by simp [linkPreimages]) (fillBytes right)
      (by simp [linkPreimages])) same
    simp only [List.cons.injEq, Uuid.toText_inj, and_true] at names
    exact names.2
  · rw [hashed.isNormalization, other.isNormalization] at same
    have names := deterministicUUID_inj (free (normalizationBytes left n) (by simp [linkPreimages])
      (normalizationBytes right m) (by simp [linkPreimages])) same
    simp only [List.cons.injEq, Uuid.toText_inj, and_true] at names
    exact names.1
  · rw [hashed.isTransaction, other.isTransaction] at same
    have names := deterministicUUID_inj (free (transactionBytes left n) (by simp [linkPreimages])
      (transactionBytes right m) (by simp [linkPreimages])) same
    simp only [List.cons.injEq, Uuid.toText_inj, and_true] at names
    exact names.1

variable {accountID : Uuid} {ts : List Transition}

theorem replay_events_distinct (ok : replay accountID intent ts = .ok a) :
    ts.Pairwise fun earlier later => earlier.event.id ≠ later.event.id := by
  refine replay_induction (fun ts _ => ts.Pairwise fun earlier later => earlier.event.id ≠ later.event.id) ?_ ?_ ok
  · intro initial _ _ _
    exact List.pairwise_singleton _ _
  · intro ts before t after _ held _ fresh
    refine List.pairwise_append.mpr ⟨held, List.pairwise_singleton _ _, ?_⟩
    intro earlier member last isLast same
    rw [List.mem_singleton.mp isLast] at same
    exact fresh (List.mem_map.mpr ⟨earlier, member, same⟩)

theorem mem_preimages {links : List (Fill × EconomicNormalization)} {link : Fill × EconomicNormalization} {bytes : Bytes}
    (member : link ∈ links) (hashed : bytes ∈ linkPreimages link) : bytes ∈ links.flatMap linkPreimages :=
  List.mem_flatMap.mpr ⟨link, member, hashed⟩

theorem fills_hashed (ok : replay accountID intent ts = .ok a)
    (recorded : AtEachStep accountID intent ts fun before t => t.event.isFill = true → FromRecordFill before t) :
    ∀ t ∈ ts, t.event.isFill = true → ∀ fill n, t.fill = some fill → t.normalization = some n →
      Hashed intent t.event.id fill n := by
  refine forall_fills ?_ ok recorded
  intro before t ofIntent made fill n isFill isNormalization
  obtain ⟨order, fill', n', source, transaction, binding, facts⟩ := made.recorded
  cases Option.some.inj (isFill.symm.trans facts.carried.isFill)
  cases Option.some.inj (isNormalization.symm.trans facts.carried.isNormalization)
  rw [← ofIntent]
  exact facts.hashed

theorem links_apart (ok : replay accountID intent ts = .ok a)
    (recorded : AtEachStep accountID intent ts fun before t => t.event.isFill = true → FromRecordFill before t)
    (free : TellsApart (links ts)) : (links ts).Pairwise fun left right => left.1.Apart right.1 := by
  have hashed := fills_hashed ok recorded
  unfold links
  rw [List.pairwise_filterMap, List.pairwise_filter]
  refine (replay_events_distinct ok).imp_of_mem ?_
  intro first second inFirst inSecond different isFirst isSecond left isLeft right isRight
  obtain ⟨leftFill, leftNormalization⟩ := Transition.link_eq_some.mp isLeft
  obtain ⟨rightFill, rightNormalization⟩ := Transition.link_eq_some.mp isRight
  have inLeft : left ∈ links ts := mem_links.mpr ⟨first, inFirst, isFirst, leftFill, leftNormalization⟩
  have inRight : right ∈ links ts := mem_links.mpr ⟨second, inSecond, isSecond, rightFill, rightNormalization⟩
  refine (hashed first inFirst isFirst left.1 left.2 leftFill leftNormalization).apart
    (hashed second inSecond isSecond right.1 right.2 rightFill rightNormalization) different ?_
  intro x hashedLeft y hashedRight
  exact free x (mem_preimages inLeft hashedLeft) y (mem_preimages inRight hashedRight)

/-- When every fill comes from `recordFill`, no two fills share an identifier, an economic
source event, a normalization or a ledger transaction, unless the hash collides on them. -/
theorem replay_fills_distinct (ok : replay accountID intent ts = .ok a)
    (recorded : AtEachStep accountID intent ts fun before t => t.event.isFill = true → FromRecordFill before t)
    (free : TellsApart (links ts)) :
    (a.fills.map Fill.id).Nodup ∧ (a.fills.map Fill.economicSourceEventID).Nodup ∧
      (a.fills.map Fill.normalizationID).Nodup ∧ (a.fills.map Fill.ledgerTransactionID).Nodup := by
  have apart : a.fills.Pairwise Fill.Apart := by
    rw [replay_links ok, List.pairwise_map]
    exact links_apart ok recorded free
  refine ⟨?_, ?_, ?_, ?_⟩
  · exact List.pairwise_map.mpr (apart.imp Fill.Apart.id)
  · exact List.pairwise_map.mpr (apart.imp Fill.Apart.source)
  · exact List.pairwise_map.mpr (apart.imp Fill.Apart.normalization)
  · exact List.pairwise_map.mpr (apart.imp Fill.Apart.transaction)

theorem Hashed.names {eventID : Uuid} {fill : Fill} (hashed : Hashed intent eventID fill n) :
    (linkPreimages (fill, n)).map digestUUID = fill.names := by
  rw [Fill.names, hashed.isFill, hashed.isNormalization, hashed.isTransaction]
  nth_rewrite 1 [hashed.isSource]
  rfl

theorem TellsApart.of_names (ok : replay accountID intent ts = .ok a)
    (recorded : AtEachStep accountID intent ts fun before t => t.event.isFill = true → FromRecordFill before t)
    (distinct : ((links ts).flatMap fun link => link.1.names).Nodup) : TellsApart (links ts) := by
  have names : ((links ts).flatMap linkPreimages).map digestUUID = (links ts).flatMap fun link => link.1.names := by
    rw [List.map_flatMap]
    refine List.flatMap_congr fun link member => ?_
    obtain ⟨t, inHistory, isEvent, isFill, isNormalization⟩ := mem_links.mp member
    exact (fills_hashed ok recorded t inHistory isEvent link.1 link.2 isFill isNormalization).names
  intro left inLeft right inRight collision
  rw [← names] at distinct
  exact collision.1 (List.inj_on_of_nodup_map distinct inLeft inRight collision.2)

end

theorem replay_fills_distinct_recorded : ∃ ts a, FilledTwice ts a ∧ TellsApart (links ts) ∧
    (a.fills.map Fill.id).Nodup ∧ (a.fills.map Fill.ledgerTransactionID).Nodup := by
  obtain ⟨first, second, a, twice⟩ := sampleFills_replayed
  have free := TellsApart.of_names twice.replayed twice.recorded twice.names
  have distinct := replay_fills_distinct twice.replayed twice.recorded free
  exact ⟨_, a, twice, free, distinct.1, distinct.2.2.2⟩

/-- The same normalization, source event and transaction, booked once and filled twice. -/
theorem replay_fills_repeat : ∃ n ts a, sampleExecution = .ok n ∧
    replay (Uuid.ofByte 1) sampleIntent (sampleHistory ++ ts) = .ok a ∧
    (∀ t ∈ ts, t.event.isFill = true ∧ t.normalization = some n) ∧ a.fills.length = 2 ∧
    ¬ (a.fills.map Fill.id).Nodup ∧ ¬ (a.fills.map Fill.economicSourceEventID).Nodup ∧
    ¬ (a.fills.map Fill.normalizationID).Nodup ∧ ¬ (a.fills.map Fill.ledgerTransactionID).Nodup := by
  obtain ⟨n, made, transaction, _, _, _, _, _, _, ⟨a, replayed, fills⟩, _⟩ := sampleExecution_uses
  refine ⟨n, _, a, made, replayed, ?_, ?_⟩
  · simp [sampleDrifted, sampleRepeated]
    decide
  · rw [fills]
    simp [sampleSold, sampleBought, sampleLinkedFill]

end Augr.Lifecycle
