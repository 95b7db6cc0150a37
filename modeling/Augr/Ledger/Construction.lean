import Augr.Ledger.Normalization

/-! What a constructed transaction looks like: balanced, independent of the clock but
for its creation stamps, and with the lines its inputs ask for. -/

set_option autoImplicit false

namespace Augr.Ledger

open Foundation Text

variable {transactionID : Uuid}

def unitTotal (unit : PostingUnit) (postings : List Posting) : ℚ :=
  (postings.map fun posting => if posting.postingUnit = unit then posting.amount.toRat else 0).sum

/-- Balanced in every unit, with unique keys and nonzero amounts of at most twelve decimals. -/
structure Transaction.Balanced (t : Transaction) : Prop where
  balance : ∀ unit, unitTotal unit t.postings = 0
  keys : (t.postings.map Posting.idempotencyKey).Nodup
  amounts : ∀ posting ∈ t.postings,
    posting.amount.toRat ≠ 0 ∧ hasDecimalScaleAtMost posting.amount 12 = true

def Balances.total (unit : PostingUnit) (balances : Balances) : ℚ :=
  (balances.map fun entry => if entry.1 = unit then entry.2.toRat else 0).sum

theorem total_addBalance (unit other : PostingUnit) (amount : Decimal) (balances : Balances) :
    (addBalance other amount balances).total unit =
      balances.total unit + if other = unit then amount.toRat else 0 := by
  induction balances with
  | nil => simp [addBalance, Balances.total]
  | cons entry rest ih =>
    by_cases same : entry.1 = other
    · subst same
      by_cases asked : entry.1 = unit
      · simp only [addBalance, if_true, Balances.total, List.map_cons, List.sum_cons, asked, Decimal.toRat_add]
        ring
      · simp [addBalance, Balances.total, asked]
    · simp only [Balances.total] at ih
      simp only [addBalance, same, if_false, Balances.total, List.map_cons, List.sum_cons, ih]
      ring

theorem validateLine_ok {seen : List String} {posting : Posting}
    (ok : posting.validateLine transactionID seen = .ok ()) :
    posting.idempotencyKey ∉ seen ∧ posting.amount.toRat ≠ 0 ∧ hasDecimalScaleAtMost posting.amount 12 = true := by
  simp only [Posting.validateLine, failIf_bind_ok_iff] at ok
  obtain ⟨_, _, fresh, _, _, _, nonzero, _, _, scale, _⟩ := ok
  exact ⟨by simpa using fresh, by simpa using nonzero, by simpa using scale⟩

theorem validatePostings_ok {postings : List Posting} {seen : List String} {balances final : Balances}
    (ok : validatePostings transactionID seen balances postings = .ok final) :
    (∀ unit, final.total unit = balances.total unit + unitTotal unit postings) ∧
      (postings.map Posting.idempotencyKey).Nodup ∧ (∀ posting ∈ postings, posting.idempotencyKey ∉ seen) ∧
      ∀ posting ∈ postings, posting.amount.toRat ≠ 0 ∧ hasDecimalScaleAtMost posting.amount 12 = true := by
  induction postings generalizing seen balances with
  | nil =>
    cases ok
    simp [unitTotal]
  | cons posting rest ih =>
    simp only [validatePostings, check_bind_ok_iff] at ok
    obtain ⟨line, others⟩ := ok
    obtain ⟨fresh, amount⟩ := validateLine_ok line
    obtain ⟨totals, distinct, unseen, amounts⟩ := ih others
    refine ⟨fun unit => ?_, ?_, ?_, ?_⟩
    · rw [totals, total_addBalance, unitTotal, unitTotal, List.map_cons, List.sum_cons, add_assoc]
    · refine List.nodup_cons.mpr ⟨fun repeated => ?_, distinct⟩
      obtain ⟨other, member, same⟩ := List.mem_map.mp repeated
      exact unseen other member (same ▸ List.mem_cons_self)
    · refine List.forall_mem_cons.mpr ⟨fresh, fun other member => ?_⟩
      exact fun old => unseen other member (List.mem_cons_of_mem _ old)
    · exact List.forall_mem_cons.mpr ⟨amount, amounts⟩

theorem Transaction.balanced_of_validate {t : Transaction} (ok : t.validate = .ok ()) : t.Balanced := by
  simp only [Transaction.validate, returns_iff] at ok
  obtain ⟨_, _, _, _, _, _, _, _, _, _, balances, checked, zero⟩ := ok
  obtain ⟨totals, distinct, _, amounts⟩ := validatePostings_ok checked
  refine ⟨fun unit => ?_, distinct, amounts⟩
  have spent : balances.total unit = 0 := by
    refine List.sum_eq_zero fun amount member => ?_
    obtain ⟨entry, inBalances, rfl⟩ := List.mem_map.mp member
    have settled := (forEach_ok_iff _ _).mp zero entry inBalances
    simp only [validateBalance, failIf_ok_iff, Bool.not_eq_false', Decimal.isZero_iff] at settled
    simp [settled]
  have total := totals unit
  rw [spent] at total
  simpa [Balances.total] using total.symm

namespace EconomicNormalization

/-- What validation establishes before it rebuilds the transaction. -/
structure Header (n : EconomicNormalization) (source : EconomicSourceEvent) (account : Account) : Prop where
  foundSource : n.sourceEvent = some source
  foundAccount : n.account = some account
  sourceValid : source.validate = .ok ()
  accountValid : account.validate = .ok ()
  owner : source.accountID = account.id
  version : isNormalizedRequired n.normalizerVersion = true
  originType : validExecutionOriginType n.executionOriginType = true
  originID : isNormalizedRequired n.executionOriginID = true
  referenceType : isNormalizedRequired n.referenceType = true
  referenceID : isNormalizedRequired n.referenceID = true
  effective : n.effectiveAt.isCanonical = true
  observed : n.effectiveAt.after source.observedAt = false
  created : n.createdAt.isCanonical = true
  currency : n.cashCurrency = account.baseCurrency
  identity : n.id = normalizationID source.id n.normalizerVersion

theorem validate_ok_iff (clock : Reading) (n : EconomicNormalization) :
    n.validate clock = .ok () ↔ ∃ source account, Header n source account ∧
      ∃ expected, n.expectedTransaction clock = .ok expected ∧
        sameEconomicTransaction n.transaction (some expected) = true := by
  unfold validate
  split
  · case h_1 source account foundSource foundAccount =>
    simp only [returns_iff, Bool.or_eq_false_iff, Bool.not_eq_false', bne_eq_false_iff_eq]
    constructor
    · rintro ⟨sourceValid, accountValid, owner, version, ⟨originType, originID⟩, ⟨referenceType, referenceID⟩,
        effective, observed, created, currency, identity, expected, built, same⟩
      exact ⟨source, account, ⟨foundSource, foundAccount, sourceValid, accountValid, owner, version, originType,
        originID, referenceType, referenceID, effective, observed, created, currency, identity⟩, expected, built, same⟩
    · rintro ⟨source', account', header, expected, built, same⟩
      have sources := header.foundSource
      have accounts := header.foundAccount
      rw [foundSource] at sources
      rw [foundAccount] at accounts
      cases sources
      cases accounts
      exact ⟨header.sourceValid, header.accountValid, header.owner, header.version,
        ⟨header.originType, header.originID⟩, ⟨header.referenceType, header.referenceID⟩, header.effective,
        header.observed, header.created, header.currency, header.identity, expected, built, same⟩
  · case h_2 missing =>
    constructor
    · intro failed
      cases failed
    · rintro ⟨source, account, header, _⟩
      exact absurd header.foundAccount (missing source account header.foundSource)

end EconomicNormalization

/-- An input that materialisation copies as it is. -/
structure PostingInput.Tidy (candidate : PostingInput) : Prop where
  key : trimSpace candidate.idempotencyKey = candidate.idempotencyKey
  account : trimSpace candidate.ledgerAccount = candidate.ledgerAccount
  unit : trimSpace candidate.unit = candidate.unit
  upper : candidate.unitKind = .currency → toUpper candidate.unit = candidate.unit
  metadata : candidate.metadata = emptyObject

def PostingInput.line (transactionID : Uuid) (postingID : String → Uuid) (stamp : Instant)
    (candidate : PostingInput) : Posting :=
  { id := postingID candidate.idempotencyKey
    transactionID := transactionID
    idempotencyKey := candidate.idempotencyKey
    ledgerAccount := candidate.ledgerAccount
    unitKind := candidate.unitKind
    unit := candidate.unit
    amount := candidate.amount
    metadata := candidate.metadata
    createdAt := stamp }

theorem materializePosting_tidy {postingID : String → Uuid} {stamp : Instant} {candidate : PostingInput}
    (tidy : candidate.Tidy) {posting : Posting}
    (ok : materializePosting transactionID postingID stamp candidate = .ok posting) :
    posting = candidate.line transactionID postingID stamp := by
  simp only [materializePosting, bind_ok_iff] at ok
  obtain ⟨metadata, object, same⟩ := ok
  cases same
  rw [normalizeJSONObject_ok_iff, tidy.metadata] at object
  have unit : (if candidate.unitKind = .currency then toUpper candidate.unit else candidate.unit) =
      candidate.unit := by
    split
    · rename_i currency
      exact tidy.upper currency
    · rfl
  have empty : metadata = emptyObject := by simpa [emptyObject] using object.1
  simp only [PostingInput.line, tidy.key, tidy.account, tidy.unit, tidy.metadata, unit, empty]

theorem materializePostings_tidy {postingID : String → Uuid} {stamp : Instant} {candidates : List PostingInput}
    {postings : List Posting} (tidy : ∀ candidate ∈ candidates, candidate.Tidy)
    (ok : candidates.mapM (materializePosting transactionID postingID stamp) = .ok postings) :
    postings = candidates.map (PostingInput.line transactionID postingID stamp) := by
  induction candidates generalizing postings with
  | nil =>
    cases ok
    rfl
  | cons candidate rest ih =>
    rw [List.forall_mem_cons] at tidy
    simp only [List.mapM_cons, bind_ok_iff] at ok
    obtain ⟨posting, head, others, tail, same⟩ := ok
    cases same
    rw [materializePosting_tidy tidy.1 head, ih tidy.2 tail, List.map_cons]

theorem tidy_instrument {key account : String} (id : Uuid) (amount : Decimal)
    (plainKey : trimSpace key = key) (plainAccount : trimSpace account = account) :
    (postingInput key account .instrument id.toText amount).Tidy where
  key := plainKey
  account := plainAccount
  unit := trimSpace_toText id
  upper := fun currency => by cases currency
  metadata := rfl

theorem tidy_currency {key account currency : String} (amount : Decimal) (code : isCurrencyUnit currency = true)
    (plainKey : trimSpace key = key) (plainAccount : trimSpace account = account) :
    (postingInput key account .currency currency amount).Tidy where
  key := plainKey
  account := plainAccount
  unit := (currency_normal code).2.1
  upper := fun _ => (currency_normal code).2.2
  metadata := rfl

/-- The transaction of a normalization whose expected postings are tidy. -/
structure EconomicNormalization.Records (n : EconomicNormalization) (source : EconomicSourceEvent)
    (candidates : List PostingInput) (t : Transaction) : Prop where
  seed : source.id ≠ Uuid.nil
  id : t.id = deterministicUUID "economic-ledger-transaction" [source.id.toText, n.normalizerVersion]
  eventType : t.eventType = trimSpace n.eventType.text
  referenceType : t.referenceType = n.referenceType
  referenceID : t.referenceID = n.referenceID
  valid : t.validate = .ok ()
  postings : ∃ transactionID postingID stamp, t.postings = candidates.map (PostingInput.line transactionID postingID stamp)

theorem EconomicNormalization.records_of_expected {n : EconomicNormalization} {source : EconomicSourceEvent}
    {account : Account} (header : n.Header source account) {clock : Reading} {t : Transaction}
    (tidy : ∀ candidates, n.expectedPostings = .ok candidates → ∀ candidate ∈ candidates, candidate.Tidy)
    (ok : n.expectedTransaction clock = .ok t) :
    ∃ candidates, n.expectedPostings = .ok candidates ∧ n.Records source candidates t := by
  simp only [expectedTransaction, newDeterministicTransaction, materializeTransaction, returns_iff] at ok
  obtain ⟨candidates, expected, source', found, seed, _, _, metadata, _, postings, lines, checked, same⟩ := ok
  cases Option.some.inj (found.symm.trans header.foundSource)
  cases same
  refine ⟨candidates, expected, by simpa using seed, rfl, rfl, ?_, ?_, checked, _, _, _,
    materializePostings_tidy (tidy _ expected) lines⟩
  · exact ((isNormalizedRequired_iff _).mp header.referenceType).2
  · exact ((isNormalizedRequired_iff _).mp header.referenceID).2

end Augr.Ledger
