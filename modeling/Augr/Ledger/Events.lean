import Augr.Ledger.Books
import Augr.Ledger.Postings
import Augr.Ledger.Valuation

/-! The normalizer and the projector agree on every constructed event. -/

set_option autoImplicit false

namespace Augr.Ledger

open Foundation

/-- Quantity that the postings to asset accounts move in one instrument. -/
def Transaction.assetMovement (transaction : Transaction) (id : Uuid) : ℚ :=
  (transaction.postings.map fun posting =>
    if posting.unitKind = .instrument ∧ posting.unit = id.toText ∧ isAssetAccount posting.ledgerAccount = true then
      posting.amount.toRat else 0).sum

/-! The same totals over the inputs that a transaction was built from. -/

def PostingInput.cash (candidate : PostingInput) : ℚ :=
  if candidate.ledgerAccount = "asset:cash" then candidate.amount.toRat else 0

def PostingInput.moves (id : Uuid) (candidate : PostingInput) : ℚ :=
  if candidate.unitKind = .instrument ∧ candidate.unit = id.toText ∧ isAssetAccount candidate.ledgerAccount = true then
    candidate.amount.toRat else 0

def movedOnly (instrumentID : Uuid) (quantity : ℚ) (key : Uuid) : ℚ := if key = instrumentID then quantity else 0

theorem moves_asset {key account : String} (asset : isAssetAccount account = true) (owner id : Uuid) (amount : Decimal) :
    (postingInput key account .instrument owner.toText amount).moves id = movedOnly owner amount.toRat id := by
  simp only [PostingInput.moves, postingInput, asset, true_and, and_true, Uuid.toText_inj, movedOnly, eq_comm]

theorem moves_clearing {key account : String} (clearing : isAssetAccount account = false) (owner id : Uuid)
    (amount : Decimal) : (postingInput key account .instrument owner.toText amount).moves id = 0 := by
  simp [PostingInput.moves, postingInput, clearing]

@[simp] theorem moves_currency (key account currency : String) (id : Uuid) (amount : Decimal) :
    (postingInput key account .currency currency amount).moves id = 0 := by
  simp [PostingInput.moves, postingInput]

@[simp] theorem cash_cash (key currency : String) (kind : UnitKind) (amount : Decimal) :
    (postingInput key "asset:cash" kind currency amount).cash = amount.toRat := by
  simp [PostingInput.cash, postingInput]

theorem cash_other {account : String} (other : account ≠ "asset:cash") (key unit : String) (kind : UnitKind)
    (amount : Decimal) : (postingInput key account kind unit amount).cash = 0 := by
  simp [PostingInput.cash, postingInput, other]

namespace EconomicNormalization

section
variable {n : EconomicNormalization} {source : EconomicSourceEvent} {lines : List PostingInput} {t : Transaction}

theorem Records.assetMovement (records : n.Records source lines t) (id : Uuid) :
    t.assetMovement id = (lines.map (PostingInput.moves id)).sum := by
  obtain ⟨transactionID, postingID, stamp, postings⟩ := records.postings
  rw [Transaction.assetMovement, postings, List.map_map]
  rfl

/-- Cash of a cost: paid for a fee, received for a rebate. -/
def costCash (n : EconomicNormalization) (amount : Decimal) : ℚ :=
  if n.costKind = .fee then -amount.toRat else amount.toRat

theorem CostFacts.sums {amount : Decimal} (facts : n.CostFacts amount lines) :
    (lines.map PostingInput.cash).sum = n.costCash amount ∧ ∀ id, (lines.map (PostingInput.moves id)).sum = 0 := by
  rcases facts.kind with fee | rebate
  · have expense : ∀ key unit kind amount, (postingInput key "expense:fees" kind unit amount).cash = 0 :=
      cash_other (by decide)
    rw [facts.feeLines fee]
    simp [costCash, fee, expense]
  · have income : ∀ key unit kind amount, (postingInput key "income:rebates" kind unit amount).cash = 0 :=
      cash_other (by decide)
    rw [facts.rebateLines rebate]
    simp [costCash, rebate, income]

theorem toRat_fillDirection (eventType : EconomicEventType) :
    (fillDirection eventType).toRat = if eventType = .fillSell then -1 else 1 := by
  unfold fillDirection
  split <;> simp

section
variable {instrument : Instrument} {contract : VenueContract} {quantity price : Decimal} {account : String}
  {cost : List PostingInput}

theorem FillFacts.cost_sums (facts : n.FillFacts instrument contract quantity price account cost lines) :
    (cost.map PostingInput.cash).sum = ((n.costAmount.map n.costCash).getD 0) ∧
      ∀ id, (cost.map (PostingInput.moves id)).sum = 0 := by
  rcases optionalCostPostings_ok facts.costs with ⟨absent, _, _, rfl⟩ | ⟨amount, costFacts⟩
  · simp [absent]
  · simpa [costFacts.isAmount] using costFacts.sums

theorem FillFacts.sums (facts : n.FillFacts instrument contract quantity price account cost lines) :
    (lines.map PostingInput.cash).sum =
      -(price.toRat * quantity.toRat * contract.multiplier.toRat * (fillDirection n.eventType).toRat) +
        ((n.costAmount.map n.costCash).getD 0) ∧
    ∀ id, (lines.map (PostingInput.moves id)).sum =
      movedOnly instrument.id (quantity.toRat * (fillDirection n.eventType).toRat) id := by
  have execution : ∀ key unit kind amount, (postingInput key "clearing:execution" kind unit amount).cash = 0 :=
    cash_other (by decide)
  have inventory : ∀ key unit kind amount, (postingInput key account kind unit amount).cash = 0 :=
    cash_other facts.inventory.notCash
  obtain ⟨costCash, costMoves⟩ := facts.cost_sums
  rw [facts.isLines]
  constructor
  · split
    · rename_i free
      rw [Decimal.isZero_iff, Decimal.toRat_mul, Decimal.toRat_mul] at free
      simp [inventory, execution, costCash, free]
    · simp [inventory, execution, costCash]
  · intro id
    have clearing : ∀ key amount,
        (postingInput key "clearing:execution" .instrument instrument.id.toText amount).moves id = 0 :=
      fun key => moves_clearing (by decide) instrument.id id
    split <;> simp [moves_asset facts.inventory.asset, clearing, costMoves]

end

end

end EconomicNormalization

end Augr.Ledger
