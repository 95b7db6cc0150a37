import Augr.Ledger.Events

/-! Every event the normalizer constructs passes its own validation, which compares the
supplied ledger aggregate with the one rebuilt from typed facts: a lookup by posting key
and a length test. -/

set_option autoImplicit false

namespace Augr.Ledger

open Foundation

inductive Constructed (n : EconomicNormalization) : Prop
  | fill (clocks : Clocks) (input : FillEconomicEventInput) (ok : newFillEconomicNormalization clocks input = .ok n)
  | cost (clocks : Clocks) (input : CostEconomicEventInput) (ok : newCostEconomicNormalization clocks input = .ok n)
  | cashSettlement (clocks : Clocks) (input : CashSettlementEconomicEventInput)
      (ok : newCashSettlementEconomicNormalization clocks input = .ok n)
  | physicalOption (clocks : Clocks) (input : PhysicalOptionEconomicEventInput)
      (ok : newPhysicalOptionEconomicNormalization clocks input = .ok n)

theorem materializeAndValidate_ok {built checked : Reading} {bare n : EconomicNormalization}
    (ok : bare.materializeAndValidate built checked = .ok n) :
    ∃ transaction, n.transaction = some transaction ∧ n.expectedTransaction built = .ok transaction ∧
      n.validate checked = .ok () := by
  simp only [EconomicNormalization.materializeAndValidate, bind_ok_iff] at ok
  obtain ⟨transaction, expected, _, valid, same⟩ := ok
  cases same
  exact ⟨transaction, rfl, expected, valid⟩

theorem Constructed.complete {n : EconomicNormalization} (constructed : Constructed n) :
    ∃ built checked transaction, n.transaction = some transaction ∧ n.expectedTransaction built = .ok transaction ∧
      n.validate checked = .ok () := by
  cases constructed
  all_goals
    rename_i ok
    simp only [newFillEconomicNormalization, newCostEconomicNormalization, newCashSettlementEconomicNormalization,
      newPhysicalOptionEconomicNormalization] at ok
    split at ok
  -- an unrecognized kind is refused, every other one is completed at the end
  all_goals
    first
    | cases ok
    | obtain ⟨_, _, next⟩ := bind_ok_iff.mp ok
      obtain ⟨_, _, finished⟩ := bind_ok_iff.mp next
      exact ⟨_, _, materializeAndValidate_ok finished⟩

variable {expected postings : List Posting}

/-- Two postings that differ at most in creation stamps, in how an amount is written and in
how metadata is spelled. -/
structure Posting.SameLine (left right : Posting) : Prop where
  key : left.idempotencyKey = right.idempotencyKey
  id : left.id = right.id
  transactionID : left.transactionID = right.transactionID
  ledgerAccount : left.ledgerAccount = right.ledgerAccount
  unitKind : left.unitKind = right.unitKind
  unit : left.unit = right.unit
  amount : left.amount.toRat = right.amount.toRat
  metadata : jsonSemanticEqual left.metadata right.metadata = true

def PostedOnce (postings expected : List Posting) : Prop :=
  ∃ arranged, arranged.Perm expected ∧ List.Forall₂ Posting.SameLine postings arranged

theorem postingByKey_mem {key : String} {posting : Posting} (found : postingByKey postings key = some posting) :
    posting ∈ postings ∧ posting.idempotencyKey = key := by
  have member := List.mem_of_getLast? found
  rw [List.mem_filter] at member
  exact ⟨member.1, by simpa using member.2⟩

theorem sameEconomicPosting_ok {posting : Posting} (same : sameEconomicPosting postings posting = true) :
    ∃ expected ∈ postings, posting.SameLine expected := by
  unfold sameEconomicPosting at same
  split at same
  · cases same
  · case h_2 expected found =>
    obtain ⟨member, key⟩ := postingByKey_mem found
    simp only [Bool.and_eq_true, beq_iff_eq, Decimal.equal_iff] at same
    obtain ⟨⟨⟨⟨⟨⟨id, transactionID⟩, ledgerAccount⟩, unitKind⟩, unit⟩, amount⟩, metadata⟩ := same
    exact ⟨expected, member,
      { key := key.symm, id, transactionID, ledgerAccount, unitKind, unit, amount, metadata }⟩

theorem sameEconomicTransaction_ok {left right : Transaction}
    (same : sameEconomicTransaction (some left) (some right) = true) :
    left.postings.length = right.postings.length ∧
      ∀ posting ∈ left.postings, ∃ expected ∈ right.postings, posting.SameLine expected := by
  simp only [sameEconomicTransaction, Bool.and_eq_true, beq_iff_eq, List.all_eq_true] at same
  obtain ⟨⟨_, length⟩, lines⟩ := same
  exact ⟨length, fun posting member => sameEconomicPosting_ok (lines posting member)⟩

theorem matches_of_found (found : ∀ posting ∈ postings, ∃ match_ ∈ expected, posting.SameLine match_) :
    ∃ arranged, arranged ⊆ expected ∧ List.Forall₂ Posting.SameLine postings arranged := by
  induction postings with
  | nil => exact ⟨[], List.nil_subset _, .nil⟩
  | cons posting rest ih =>
    obtain ⟨first, member, same⟩ := found posting List.mem_cons_self
    obtain ⟨others, within, matched⟩ := ih fun other inRest => found other (List.mem_cons_of_mem _ inRest)
    exact ⟨first :: others, List.cons_subset.mpr ⟨member, within⟩, .cons same matched⟩

section
variable {α : Type} {line : Posting → α}

theorem map_of_sameLines {arranged : List Posting} (kept : ∀ left right, left.SameLine right → line left = line right)
    (same : List.Forall₂ Posting.SameLine postings arranged) : postings.map line = arranged.map line := by
  rw [← List.forall₂_eq_eq_eq, List.forall₂_map_left_iff, List.forall₂_map_right_iff]
  exact same.imp kept

theorem PostedOnce.map (posted : PostedOnce postings expected)
    (kept : ∀ left right, left.SameLine right → line left = line right) : (postings.map line).Perm (expected.map line) := by
  obtain ⟨arranged, permuted, same⟩ := posted
  rw [map_of_sameLines kept same]
  exact permuted.map _

end

theorem PostedOnce.keys (posted : PostedOnce postings expected) :
    (postings.map Posting.idempotencyKey).Perm (expected.map Posting.idempotencyKey) :=
  posted.map fun _ _ same => same.key

theorem PostedOnce.unitTotal (posted : PostedOnce postings expected) (unit : PostingUnit) :
    unitTotal unit postings = unitTotal unit expected := by
  refine (posted.map fun left right same => ?_).sum_eq
  rw [Posting.postingUnit, Posting.postingUnit, same.unitKind, same.unit, same.amount]

theorem PostedOnce.assetMovement {t other : Transaction} (posted : PostedOnce t.postings other.postings) (id : Uuid) :
    t.assetMovement id = other.assetMovement id := by
  refine (posted.map fun left right same => ?_).sum_eq
  rw [same.unitKind, same.unit, same.ledgerAccount, same.amount]

-- With distinct keys the matches are distinct too, so that as many of them as there are
-- expected postings leave none out.
theorem postedOnce_of_distinct (distinct : (postings.map Posting.idempotencyKey).Nodup)
    (length : postings.length = expected.length)
    (found : ∀ posting ∈ postings, ∃ match_ ∈ expected, posting.SameLine match_) : PostedOnce postings expected := by
  obtain ⟨arranged, within, same⟩ := matches_of_found found
  rw [map_of_sameLines (fun _ _ line => line.key) same] at distinct
  have apart : arranged.Nodup := List.Nodup.of_map _ distinct
  have enough : expected.length ≤ arranged.length := by rw [← same.length_eq, length]
  exact ⟨arranged, (apart.subperm within).perm_of_length_le enough, same⟩

namespace EconomicNormalization

theorem expectedTransaction_valid {clock : Reading} {n : EconomicNormalization} {expected : Transaction}
    (ok : n.expectedTransaction clock = .ok expected) : expected.validate = .ok () := by
  simp only [expectedTransaction, newDeterministicTransaction, materializeTransaction, bind_ok_iff] at ok
  obtain ⟨_, _, _, _, _, _, _, _, _, _, _, _, _, _, _, valid, same⟩ := ok
  cases same
  exact valid

/-- The supplied postings are those of the typed facts, each once, and balance. -/
def PostsFacts (clock : Reading) (n : EconomicNormalization) (t : Transaction) : Prop :=
  ∃ expected, n.expectedTransaction clock = .ok expected ∧ PostedOnce t.postings expected.postings ∧
    ∀ unit, unitTotal unit t.postings = 0

section
variable {clock : Reading} {n : EconomicNormalization} {t : Transaction}

theorem posted_of_distinct (supplied : n.transaction = some t) (valid : n.validate clock = .ok ())
    (distinct : (t.postings.map Posting.idempotencyKey).Nodup) :
    ∃ expected, n.expectedTransaction clock = .ok expected ∧ PostedOnce t.postings expected.postings := by
  obtain ⟨_, _, _, expected, built, same⟩ := (validate_ok_iff clock n).mp valid
  rw [supplied] at same
  obtain ⟨length, found⟩ := sameEconomicTransaction_ok same
  exact ⟨expected, built, postedOnce_of_distinct distinct length found⟩

theorem moves_of_distinct (supplied : n.transaction = some t) (valid : n.validate clock = .ok ())
    (distinct : (t.postings.map Posting.idempotencyKey).Nodup)
    (isFill : n.eventType = .fillBuy ∨ n.eventType = .fillSell) :
    ∃ instrument quantity, n.instrument = some instrument ∧ n.quantity = some quantity ∧ ∀ id, t.assetMovement id =
      movedOnly instrument.id (quantity.toRat * (if n.eventType = .fillSell then -1 else 1)) id := by
  obtain ⟨expected, built, posted⟩ := posted_of_distinct supplied valid distinct
  obtain ⟨source, holder, header, _⟩ := (validate_ok_iff clock n).mp valid
  have currency : isCurrencyUnit n.cashCurrency = true := by
    rw [header.currency]
    exact Account.currency_of_validate header.accountValid
  obtain ⟨lines, postings, records⟩ := records_of_expected header
    (fun lines ok => expectedPostings_tidy currency ok) built
  have filled : n.fillPostings = .ok lines := by
    rcases isFill with buy | sell
    · simpa [expectedPostings, buy] using postings
    · simpa [expectedPostings, sell] using postings
  obtain ⟨instrument, contract, quantity, price, account, cost, facts⟩ := fillPostings_ok filled
  refine ⟨instrument, quantity, facts.isInstrument, facts.isQuantity, fun id => ?_⟩
  rw [posted.assetMovement, records.assetMovement, facts.sums.2, toRat_fillDirection]

end

theorem validate_of_drawn {clock : Reading} {n : EconomicNormalization} {t : Transaction}
    (supplied : n.transaction = some t) (valid : n.validate clock = .ok ()) {drawn : List Posting}
    (within : drawn ⊆ t.postings) (length : drawn.length = t.postings.length) :
    EconomicNormalization.validate clock { n with transaction := some { t with postings := drawn } } = .ok () := by
  obtain ⟨source, account, header, expected, built, same⟩ := (validate_ok_iff clock n).mp valid
  rw [supplied] at same
  simp only [sameEconomicTransaction, Bool.and_eq_true, List.all_eq_true] at same
  obtain ⟨⟨facts, count⟩, lines⟩ := same
  refine (validate_ok_iff clock _).mpr ⟨source, account, { header with }, expected, built, ?_⟩
  simp only [sameEconomicTransaction, Bool.and_eq_true, List.all_eq_true, length]
  exact ⟨⟨facts, count⟩, fun posting member => lines posting (within member)⟩

/-- What validation accepts is the expected aggregate exactly when no posting key is repeated. -/
theorem validated_postsFacts_iff {clock : Reading} {n : EconomicNormalization} {t : Transaction}
    (supplied : n.transaction = some t) (valid : n.validate clock = .ok ()) :
    n.PostsFacts clock t ↔ (t.postings.map Posting.idempotencyKey).Nodup := by
  constructor
  · rintro ⟨expected, built, posted, _⟩
    exact posted.keys.nodup_iff.mpr (Transaction.balanced_of_validate (expectedTransaction_valid built)).keys
  · intro distinct
    obtain ⟨expected, built, posted⟩ := posted_of_distinct supplied valid distinct
    refine ⟨expected, built, posted, fun unit => ?_⟩
    rw [posted.unitTotal, (Transaction.balanced_of_validate (expectedTransaction_valid built)).balance]

end EconomicNormalization

def sampleAccount : Account :=
  { id := Uuid.ofByte 1
    name := "paper"
    environment := .paperScored
    venue := "alpaca"
    externalAccountID := ""
    baseCurrency := "USD"
    storageNamespace := "paper_scored/one"
    evidenceClass := "promotion_evidence"
    startingCapital := Decimal.newFromInt 100000
    buyingPowerMultiplier := Decimal.newFromInt 1
    marginProfile := .cash
    status := .active
    createdBy := "operator"
    creationMetadata := emptyObject
    createdAt := ⟨1000000, true⟩ }

def sampleInstrument : Instrument :=
  { id := Uuid.ofByte 2
    identityKey := "equity:ACME"
    assetClass := .equity
    primaryVenue := "nyse"
    currency := "USD"
    tickSize := ⟨1, -2⟩
    lotSize := Decimal.newFromInt 1
    multiplier := Decimal.newFromInt 1
    expiration := none
    exerciseStyle := .unrecognized ""
    settlementMethod := .physical
    underlyingID := none
    status := .active
    metadata := emptyObject
    createdAt := ⟨1000000, true⟩ }

def sampleContract : VenueContract :=
  { id := Uuid.ofByte 3
    instrumentID := Uuid.ofByte 2
    venue := "alpaca"
    contractID := "ACME"
    currency := "USD"
    tickSize := ⟨1, -2⟩
    lotSize := Decimal.newFromInt 1
    multiplier := Decimal.newFromInt 1
    settlementMethod := .physical
    validFrom := ⟨1000000, true⟩
    validTo := none
    metadata := emptyObject
    createdAt := ⟨1000000, true⟩ }

def sampleReading : Reading := ⟨9000000, by decide⟩

def sampleClocks : Clocks := ⟨sampleReading, sampleReading, sampleReading⟩

/-- The digest fields are written out, so that replaying the sample does not hash them again. -/
def sampleSource : EconomicSourceEvent :=
  { id := ⟨[199, 224, 135, 22, 212, 55, 153, 226, 77, 163, 123, 230, 79, 27, 3, 248], rfl⟩
    accountID := Uuid.ofByte 1
    source := "alpaca"
    sourceNamespace := "fills"
    sourceEventID := "f1"
    sourceRevision := ""
    observedAt := ⟨5000000, true⟩
    rawPayload := emptyObject
    payloadSHA256 := "44136fa355b3678a1146ad16f7e8649e94fb4fc21fe77e8310c060f61caaff8a"
    createdAt := ⟨5000000, true⟩ }

def sampleBase : EconomicNormalizationBaseInput :=
  { sourceEvent := some sampleSource
    account := some sampleAccount
    normalizerVersion := "v1"
    executionOriginType := .operator
    executionOriginID := "desk"
    referenceType := "order"
    referenceID := "1"
    effectiveAt := ⟨4000000, true⟩ }

def sampleFill : Outcome EconomicNormalization :=
  newFillEconomicNormalization sampleClocks
    { base := sampleBase
      instrument := sampleInstrument
      venueContract := sampleContract
      side := .buy
      quantity := Decimal.newFromInt 2
      price := Decimal.newFromInt 10
      cost := none }

namespace EconomicNormalization

theorem sampleFill_lines : (sampleFill.toOption.any fun n => n.transaction.any fun t =>
    decide ((t.postings.map Posting.idempotencyKey).Nodup ∧ t.postings.length = 4 ∧
      unitTotal (.instrument, sampleInstrument.id.toText) (t.postings.take 1 ++ t.postings.eraseIdx 1) = 4)) = true := by
  decide +kernel

theorem validated_postsFacts_fill : ∃ n t, sampleFill = .ok n ∧ n.transaction = some t ∧
    ∃ clock, n.validate clock = .ok () ∧ n.PostsFacts clock t := by
  obtain ⟨n, ok, seen⟩ := ok_of_evaluated sampleFill_lines
  obtain ⟨t, supplied, lines⟩ := (Option.any_eq_true _ _).mp seen
  obtain ⟨_, clock, _, _, _, valid⟩ := (Constructed.fill _ _ ok).complete
  exact ⟨n, t, ok, supplied, clock, valid,
    (validated_postsFacts_iff supplied valid).mpr (of_decide_eq_true lines).1⟩

/-- A fill whose inventory line stands twice, in place of the clearing line that balances it,
is accepted. -/
theorem doubled_inventory_accepted : ∃ n t, sampleFill = .ok n ∧ n.transaction = some t ∧
    ∃ clock doubled, doubled = { t with postings := t.postings.take 1 ++ t.postings.eraseIdx 1 } ∧
      EconomicNormalization.validate clock { n with transaction := some doubled } = .ok () ∧
      ¬ EconomicNormalization.PostsFacts clock { n with transaction := some doubled } doubled := by
  obtain ⟨n, ok, seen⟩ := ok_of_evaluated sampleFill_lines
  obtain ⟨t, supplied, lines⟩ := (Option.any_eq_true _ _).mp seen
  obtain ⟨_, count, doubled⟩ := of_decide_eq_true lines
  obtain ⟨_, clock, _, _, _, valid⟩ := (Constructed.fill _ _ ok).complete
  refine ⟨n, t, ok, supplied, clock, _, rfl, validate_of_drawn supplied valid ?_ ?_, ?_⟩
  · exact List.append_subset.mpr ⟨List.take_subset _ _, (List.eraseIdx_sublist _ _).subset⟩
  · simp [List.length_eraseIdx, count]
  · rintro ⟨_, _, _, balance⟩
    have left_over := balance (.instrument, sampleInstrument.id.toText)
    rw [doubled] at left_over
    norm_num at left_over

end EconomicNormalization

end Augr.Ledger
