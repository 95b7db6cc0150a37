import Augr.Ledger.Construction
import Augr.Ledger.Replay

/-! The postings each event type expects, with the facts they rest on. -/

set_option autoImplicit false

namespace Augr.Ledger

open Foundation

/-- The accounts of inventories: assets, and none of the three that carry cash totals. -/
structure InventoryAccount (account : String) : Prop where
  plain : Text.trimSpace account = account
  asset : isAssetAccount account = true
  notCash : account ≠ "asset:cash"
  notFees : account ≠ "expense:fees"
  notRebates : account ≠ "income:rebates"

theorem inventoryLedgerAccount_ok {assetClass : AssetClass} {account : String}
    (ok : inventoryLedgerAccount assetClass = .ok account) : InventoryAccount account := by
  cases assetClass <;> cases ok <;> exact ⟨by decide, by decide, by decide, by decide, by decide⟩

theorem optionInventory_account : InventoryAccount "asset:option_inventory" :=
  ⟨by decide, by decide, by decide, by decide, by decide⟩

namespace EconomicNormalization

variable {n : EconomicNormalization} {lines : List PostingInput}

/-- A cost that is present: its kind, amount and pair of lines. -/
structure CostFacts (n : EconomicNormalization) (amount : Decimal) (lines : List PostingInput) : Prop where
  isAmount : n.costAmount = some amount
  kind : n.costKind = .fee ∨ n.costKind = .rebate
  currency : n.costCurrency = n.cashCurrency
  amountValid : 0 < amount.toRat ∧ validProjectionDecimal amount = true
  feeLines : n.costKind = .fee → lines =
    [postingInput "fee-expense" "expense:fees" .currency n.cashCurrency amount,
      postingInput "fee-cash" "asset:cash" .currency n.cashCurrency amount.neg]
  rebateLines : n.costKind = .rebate → lines =
    [postingInput "rebate-cash" "asset:cash" .currency n.cashCurrency amount,
      postingInput "rebate-income" "income:rebates" .currency n.cashCurrency amount.neg]

theorem requiredCostPostings_ok (ok : n.requiredCostPostings = .ok lines) : ∃ amount, n.CostFacts amount lines := by
  unfold requiredCostPostings at ok
  split at ok
  · cases ok
  · case h_2 amount isAmount =>
    simp only [returns_iff] at ok
    obtain ⟨kind, currency, _, valid, built⟩ := ok
    simp only [Bool.and_eq_false_iff, bne_eq_false_iff_eq] at kind currency
    rw [validatePositiveDecimal_ok_iff] at valid
    refine ⟨amount, isAmount, kind, currency, valid, fun fee => ?_, fun rebate => ?_⟩
    · rw [if_pos fee] at built
      cases built
      rfl
    · rw [if_neg (by rw [rebate]; decide)] at built
      cases built
      rfl

theorem optionalCostPostings_ok (ok : n.optionalCostPostings = .ok lines) :
    (n.costAmount = none ∧ n.costKind.text = "" ∧ n.costCurrency = "" ∧ lines = []) ∨
      ∃ amount, n.CostFacts amount lines := by
  unfold optionalCostPostings at ok
  split at ok
  · case h_1 absent =>
    simp only [failIf_bind_ok_iff, Bool.or_eq_false_iff, bne_eq_false_iff_eq] at ok
    obtain ⟨⟨kind, currency⟩, same⟩ := ok
    cases same
    exact Or.inl ⟨absent, kind, currency, rfl⟩
  · exact Or.inr (requiredCostPostings_ok ok)

structure StandaloneCost (n : EconomicNormalization) (amount : Decimal) (lines : List PostingInput) : Prop where
  noInstrument : n.instrument = none
  noSecondary : n.secondaryInstrument = none
  noContract : n.venueContract = none
  noTerms : n.optionTerms = none
  noVenue : n.venue = ""
  noQuantity : n.quantity = none
  noPrice : n.price = none
  noPosition : n.positionQuantity = none
  noSettlement : n.settlementPrice = none
  kind : n.costKind = if n.eventType = .rebate then .rebate else .fee
  cost : n.CostFacts amount lines

theorem costPostings_ok (ok : n.costPostings = .ok lines) : ∃ amount, n.StandaloneCost amount lines := by
  simp only [costPostings, failIf_bind_ok_iff, Bool.or_eq_false_iff, bne_eq_false_iff_eq,
    Option.isSome_eq_false_iff, Option.isNone_iff_eq_none] at ok
  obtain ⟨⟨⟨⟨⟨⟨⟨⟨⟨instrument, secondary⟩, contract⟩, terms⟩, venue⟩, quantity⟩, price⟩, position⟩, settlement⟩, kind,
    built⟩ := ok
  obtain ⟨amount, cost⟩ := requiredCostPostings_ok built
  exact ⟨amount, instrument, secondary, contract, terms, venue, quantity, price, position, settlement, kind, cost⟩

structure FillFacts (n : EconomicNormalization) (instrument : Instrument) (contract : VenueContract)
    (quantity price : Decimal) (account : String) (cost lines : List PostingInput) : Prop where
  isInstrument : n.instrument = some instrument
  isContract : n.venueContract = some contract
  isQuantity : n.quantity = some quantity
  isPrice : n.price = some price
  noSecondary : n.secondaryInstrument = none
  noTerms : n.optionTerms = none
  noPosition : n.positionQuantity = none
  noSettlement : n.settlementPrice = none
  instrumentValid : instrument.validate = .ok ()
  contractValid : contract.validate = .ok ()
  venue : n.venue = contract.venue
  quantityValid : 0 < quantity.toRat ∧ validProjectionDecimal quantity = true
  priceValid : 0 ≤ price.toRat ∧ validProjectionDecimal price = true
  inventory : InventoryAccount account
  costs : n.optionalCostPostings = .ok cost
  isLines : lines =
    [postingInput "inventory" account .instrument instrument.id.toText (quantity.mul (fillDirection n.eventType)),
      postingInput "clearing-inventory" "clearing:execution" .instrument instrument.id.toText
        (quantity.mul (fillDirection n.eventType)).neg] ++
    (if ((price.mul quantity).mul contract.multiplier).isZero then [] else
      [postingInput "gross-cash" "asset:cash" .currency n.cashCurrency
          (((price.mul quantity).mul contract.multiplier).mul (fillDirection n.eventType)).neg,
        postingInput "clearing-gross-cash" "clearing:execution" .currency n.cashCurrency
          (((price.mul quantity).mul contract.multiplier).mul (fillDirection n.eventType)).neg.neg]) ++ cost

theorem fillPostings_ok (ok : n.fillPostings = .ok lines) :
    ∃ instrument contract quantity price account cost,
      n.FillFacts instrument contract quantity price account cost lines := by
  unfold fillPostings at ok
  split at ok
  · case h_1 instrument contract quantity price isInstrument isContract isQuantity isPrice =>
    simp only [validateFillReferences, returns_iff, Bool.or_eq_false_iff, Option.isSome_eq_false_iff,
      Option.isNone_iff_eq_none, bne_eq_false_iff_eq] at ok
    obtain ⟨⟨⟨⟨secondary, terms⟩, position⟩, settlement⟩, ⟨instrumentValid, _, contractValid, venue, _⟩,
      quantityValid, _, priceValid, _, _, account, inventory, _, cost, costs, built⟩ := ok
    cases built
    exact ⟨instrument, contract, quantity, price, account, cost,
      { isInstrument, isContract, isQuantity, isPrice
        noSecondary := secondary
        noTerms := terms
        noPosition := position
        noSettlement := settlement
        instrumentValid, contractValid
        venue := venue.2
        quantityValid := (validatePositiveDecimal_ok_iff _ _).mp quantityValid
        priceValid := (validateNonnegativeDecimal_ok_iff _ _).mp priceValid
        inventory := inventoryLedgerAccount_ok inventory
        costs
        isLines := rfl }⟩
  · cases ok

structure SettlementFacts (n : EconomicNormalization) (instrument : Instrument) (contract : VenueContract)
    (position price : Decimal) (account : String) (lines : List PostingInput) : Prop where
  isInstrument : n.instrument = some instrument
  isContract : n.venueContract = some contract
  isPosition : n.positionQuantity = some position
  isPrice : n.settlementPrice = some price
  noSecondary : n.secondaryInstrument = none
  noTerms : n.optionTerms = none
  noQuantity : n.quantity = none
  noPrice : n.price = none
  noCost : n.costAmount = none
  noCostKind : n.costKind.text = ""
  noCostCurrency : n.costCurrency = ""
  instrumentValid : instrument.validate = .ok ()
  contractValid : contract.validate = .ok ()
  venue : n.venue = contract.venue
  positionValid : position.toRat ≠ 0 ∧ validProjectionDecimal position = true
  priceValid : 0 ≤ price.toRat ∧ validProjectionDecimal price = true
  inventory : InventoryAccount account
  isLines : lines =
    [postingInput "inventory-settlement" account .instrument instrument.id.toText position.neg,
      postingInput "clearing-inventory-settlement" "clearing:settlement" .instrument instrument.id.toText
        position.neg.neg] ++
    (if ((position.mul price).mul contract.multiplier).isZero then [] else
      [postingInput "settlement-cash" "asset:cash" .currency n.cashCurrency
          ((position.mul price).mul contract.multiplier),
        postingInput "clearing-settlement-cash" "clearing:settlement" .currency n.cashCurrency
          ((position.mul price).mul contract.multiplier).neg])

theorem cashSettlementPostings_ok (ok : n.cashSettlementPostings = .ok lines) :
    ∃ instrument contract position price account, n.SettlementFacts instrument contract position price account lines := by
  unfold cashSettlementPostings at ok
  split at ok
  · case h_1 instrument contract position price isInstrument isContract isPosition isPrice =>
    simp only [validateSettlementReferences, returns_iff, Bool.or_eq_false_iff, Option.isSome_eq_false_iff,
      Option.isNone_iff_eq_none, bne_eq_false_iff_eq, Decimal.isZero_eq_false_iff] at ok
    obtain ⟨⟨⟨⟨⟨⟨⟨secondary, terms⟩, quantity⟩, fillPrice⟩, cost⟩, costKind⟩, costCurrency⟩,
      ⟨instrumentValid, _, contractValid, venue, _⟩, _, started, positionShape, _, priceValid, _,
      account, inventory, _, built⟩ := ok
    rw [validateDecimalShape_ok_iff] at positionShape
    refine ⟨instrument, contract, position, price, account,
      { isInstrument, isContract, isPosition, isPrice
        noSecondary := secondary
        noTerms := terms
        noQuantity := quantity
        noPrice := fillPrice
        noCost := cost
        noCostKind := costKind
        noCostCurrency := costCurrency
        instrumentValid, contractValid
        venue := venue.2
        positionValid := ⟨started, positionShape⟩
        priceValid := (validateNonnegativeDecimal_ok_iff _ _).mp priceValid
        inventory := inventoryLedgerAccount_ok inventory
        isLines := ?_ }⟩
    split at built
    · cases built
      rename_i zero
      simp [zero]
    · cases built
      rename_i nonzero
      simp [nonzero]
  · cases ok

structure PhysicalFacts (n : EconomicNormalization) (option underlying : Instrument) (contract : VenueContract)
    (terms : OptionContractTerms) (position : Decimal) (account : String) (lines : List PostingInput) : Prop where
  isInstrument : n.instrument = some option
  isSecondary : n.secondaryInstrument = some underlying
  isContract : n.venueContract = some contract
  isTerms : n.optionTerms = some terms
  isPosition : n.positionQuantity = some position
  noQuantity : n.quantity = none
  noPrice : n.price = none
  noSettlement : n.settlementPrice = none
  noCost : n.costAmount = none
  noCostKind : n.costKind.text = ""
  noCostCurrency : n.costCurrency = ""
  optionValid : option.validate = .ok ()
  underlyingValid : underlying.validate = .ok ()
  usable : underlying.status ≠ .quarantined
  contractValid : contract.validate = .ok ()
  venue : contract.venue = n.venue
  termsValid : terms.validate = .ok ()
  deliverable : contract.multiplier.toRat = terms.deliverableQuantity.toRat
  positionValid : position.toRat ≠ 0 ∧ validProjectionDecimal position = true
  inventory : InventoryAccount account
  isLines : lines =
    [postingInput "option-close" "asset:option_inventory" .instrument option.id.toText position.neg,
      postingInput "clearing-option-close" "clearing:settlement" .instrument option.id.toText position.neg.neg,
      postingInput "underlying-delivery" account .instrument underlying.id.toText (deliveredQuantity terms position),
      postingInput "clearing-underlying-delivery" "clearing:settlement" .instrument underlying.id.toText
        (deliveredQuantity terms position).neg,
      postingInput "strike-cash" "asset:cash" .currency n.cashCurrency
        ((deliveredQuantity terms position).mul terms.strikePrice).neg,
      postingInput "clearing-strike-cash" "clearing:settlement" .currency n.cashCurrency
        ((deliveredQuantity terms position).mul terms.strikePrice).neg.neg]

theorem physicalOptionPostings_ok (ok : n.physicalOptionPostings = .ok lines) :
    ∃ option underlying contract terms position account,
      n.PhysicalFacts option underlying contract terms position account lines := by
  unfold physicalOptionPostings at ok
  split at ok
  · case h_1 option underlying contract terms position isInstrument isSecondary isContract isTerms isPosition =>
    simp only [validatePhysicalReferences, returns_iff, Bool.or_eq_false_iff, Option.isSome_eq_false_iff,
      Option.isNone_iff_eq_none, bne_eq_false_iff_eq, beq_eq_false_iff_ne, Bool.not_eq_false', Decimal.equal_iff,
      Decimal.isZero_eq_false_iff] at ok
    obtain ⟨⟨⟨⟨⟨⟨quantity, price⟩, settlement⟩, cost⟩, costKind⟩, costCurrency⟩,
      ⟨optionValid, underlyingValid, usable, _, contractValid, ⟨⟨⟨_, venue⟩, _⟩, _⟩, _, termsValid, _, _, _, _, _, _,
        deliverable⟩,
      started, positionShape, _, _, _, _, _, _, account, inventory, built⟩ := ok
    rw [validateDecimalShape_ok_iff] at positionShape
    cases built
    exact ⟨option, underlying, contract, terms, position, account,
      { isInstrument, isSecondary, isContract, isTerms, isPosition
        noQuantity := quantity
        noPrice := price
        noSettlement := settlement
        noCost := cost
        noCostKind := costKind
        noCostCurrency := costCurrency
        optionValid, underlyingValid
        usable := usable.2
        contractValid, venue, termsValid, deliverable
        positionValid := ⟨started, positionShape⟩
        inventory := inventoryLedgerAccount_ok inventory
        isLines := rfl }⟩
  · cases ok

section
variable {n : EconomicNormalization} (code : isCurrencyUnit n.cashCurrency = true)
include code

variable {lines : List PostingInput}

theorem CostFacts.tidy {amount : Decimal} (facts : n.CostFacts amount lines) : ∀ candidate ∈ lines, candidate.Tidy := by
  rcases facts.kind with fee | rebate
  · rw [facts.feeLines fee, List.forall_mem_cons, List.forall_mem_singleton]
    exact ⟨tidy_currency _ code (by decide) (by decide), tidy_currency _ code (by decide) (by decide)⟩
  · rw [facts.rebateLines rebate, List.forall_mem_cons, List.forall_mem_singleton]
    exact ⟨tidy_currency _ code (by decide) (by decide), tidy_currency _ code (by decide) (by decide)⟩

theorem fillPostings_tidy (ok : n.fillPostings = .ok lines) : ∀ candidate ∈ lines, candidate.Tidy := by
  obtain ⟨instrument, contract, quantity, price, account, cost, facts⟩ := fillPostings_ok ok
  rw [facts.isLines, List.forall_mem_append, List.forall_mem_append]
  refine ⟨⟨?_, ?_⟩, ?_⟩
  · rw [List.forall_mem_cons, List.forall_mem_singleton]
    exact ⟨tidy_instrument _ _ (by decide) facts.inventory.plain, tidy_instrument _ _ (by decide) (by decide)⟩
  · split
    · exact fun _ member => absurd member List.not_mem_nil
    · rw [List.forall_mem_cons, List.forall_mem_singleton]
      exact ⟨tidy_currency _ code (by decide) (by decide), tidy_currency _ code (by decide) (by decide)⟩
  · rcases optionalCostPostings_ok facts.costs with ⟨_, _, _, rfl⟩ | ⟨amount, costFacts⟩
    · exact fun _ member => absurd member List.not_mem_nil
    · exact costFacts.tidy code

theorem cashSettlementPostings_tidy (ok : n.cashSettlementPostings = .ok lines) :
    ∀ candidate ∈ lines, candidate.Tidy := by
  obtain ⟨instrument, contract, position, price, account, facts⟩ := cashSettlementPostings_ok ok
  rw [facts.isLines, List.forall_mem_append, List.forall_mem_cons, List.forall_mem_singleton]
  refine ⟨⟨tidy_instrument _ _ (by decide) facts.inventory.plain, tidy_instrument _ _ (by decide) (by decide)⟩, ?_⟩
  split
  · exact fun _ member => absurd member List.not_mem_nil
  · rw [List.forall_mem_cons, List.forall_mem_singleton]
    exact ⟨tidy_currency _ code (by decide) (by decide), tidy_currency _ code (by decide) (by decide)⟩

theorem physicalOptionPostings_tidy (ok : n.physicalOptionPostings = .ok lines) :
    ∀ candidate ∈ lines, candidate.Tidy := by
  obtain ⟨option, underlying, contract, terms, position, account, facts⟩ := physicalOptionPostings_ok ok
  rw [facts.isLines]
  simp only [List.forall_mem_cons]
  exact ⟨tidy_instrument _ _ (by decide) optionInventory_account.plain, tidy_instrument _ _ (by decide) (by decide),
    tidy_instrument _ _ (by decide) facts.inventory.plain, tidy_instrument _ _ (by decide) (by decide),
    tidy_currency _ code (by decide) (by decide), tidy_currency _ code (by decide) (by decide),
    fun _ member => absurd member List.not_mem_nil⟩

theorem expectedPostings_tidy (ok : n.expectedPostings = .ok lines) : ∀ candidate ∈ lines, candidate.Tidy := by
  unfold expectedPostings at ok
  split at ok
  · exact fillPostings_tidy code ok
  · exact fillPostings_tidy code ok
  · obtain ⟨amount, facts⟩ := costPostings_ok ok
    exact facts.cost.tidy code
  · obtain ⟨amount, facts⟩ := costPostings_ok ok
    exact facts.cost.tidy code
  · exact cashSettlementPostings_tidy code ok
  · exact cashSettlementPostings_tidy code ok
  · exact cashSettlementPostings_tidy code ok
  · exact physicalOptionPostings_tidy code ok
  · exact physicalOptionPostings_tidy code ok
  · cases ok

end

end EconomicNormalization

end Augr.Ledger
