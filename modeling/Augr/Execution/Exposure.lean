import Augr.Execution.Ownership

/-! The exposure that a risk check sees, and the exposure that the orders before it were admitted with. -/

set_option autoImplicit false

namespace Augr.Execution

open Foundation Domain

/-- The exposures that the risk engine reads. A key that a table lacks reads as zero. -/
structure RiskPortfolio where
  totalExposurePct : Amount
  positionExposureBySymbol : String → Amount
  marketExposurePct : MarketType → Amount
  concurrentPositions : Nat

def increase {κ : Type} [DecidableEq κ] (key : κ) (amount : Amount) (table : κ → Amount) : κ → Amount :=
  Function.update table key (table key + amount)

def RiskPortfolio.addMarket (portfolio : RiskPortfolio) (marketType : MarketType) (exposure : Amount) : RiskPortfolio :=
  if marketType = .unrecognized "" then portfolio
  else { portfolio with marketExposurePct := increase marketType exposure portfolio.marketExposurePct }

def Position.price (position : Position) : Amount :=
  (position.currentPrice.filter fun current => 0 < current).getD position.avgEntry

def positionNotional (position : Position) : Outcome Amount :=
  if position.ticker = "" then .error (.errorf "position ticker is required" [])
  else if position.quantity = 0 then .ok 0
  else if position.price ≤ 0 then .error (.errorf "position %s has invalid price" [position.ticker])
  else .ok (|position.quantity| * position.price)

def openRows (rows : List Position) : List Position := rows.filter fun position => position.closedAt = none

/-- The open positions, the latest first; the rows are given in that order. -/
def getOpen (limit : Nat) (rows : List Position) : List Position := (openRows rows).take limit

def addPosition (equity : Amount) (portfolio : RiskPortfolio) (position : Position) : Outcome RiskPortfolio := do
  let notional ← positionNotional position
  let exposure := notional / equity
  let portfolio := { portfolio with
    totalExposurePct := portfolio.totalExposurePct + exposure
    positionExposureBySymbol := increase position.ticker exposure portfolio.positionExposureBySymbol }
  pure (portfolio.addMarket position.marketType exposure)

def buildRiskPortfolioSnapshotFromBalance (balance : Balance) (rows : List Position) : Outcome RiskPortfolio := do
  let positions := getOpen riskSnapshotPositionLimit rows
  failIf (positions ≠ [] && balance.equity ≤ 0) (.errorf "account equity must be positive" [])
  positions.foldlM (addPosition balance.equity) ⟨0, 0, 0, positions.length⟩

/-- An order that opens a position: sized, checked and then filled as a whole at one price. -/
structure Opening where
  order : Order
  entryPrice : Amount
  positionID : Uuid
  now : Instant

namespace Opening

def isOption (opening : Opening) : Bool := opening.order.assetClass = .option

/-- The exposure that the limits are checked with. Every contract that `ParseOCC` reads has the multiplier 100. -/
def additionalExposure (equity : Amount) (opening : Opening) : Amount :=
  if opening.isOption then opening.order.quantity * opening.entryPrice * 100 / equity
  else opening.order.quantity * opening.entryPrice / equity

def market (opening : Opening) : MarketType := if opening.isOption then .options else opening.order.marketType

variable (approve : Order → Amount → RiskPortfolio → Bool) (balance : Balance) (marketOf : Option Uuid → MarketType)
  (rows : List Position) (opening : Opening)

def askRisk (portfolio : RiskPortfolio) : Bool :=
  let additional := opening.additionalExposure balance.equity
  approve opening.order additional (portfolio.addMarket opening.market additional)

def processOptionSignal : Outcome Unit := do
  failIf (opening.order.quantity ≤ 0) (.errorf "options_manager: contract quantity must be greater than zero" [])
  failIf (opening.entryPrice ≤ 0) (.errorf "options_manager: explicit executable option price is required" [])
  failIf (balance.equity ≤ 0) (.errorf "options_manager: account equity must be positive" [])
  let portfolio ← wrapping "options_manager: build risk portfolio: %w" []
    (buildRiskPortfolioSnapshotFromBalance balance rows)
  failIf (!opening.askRisk approve balance portfolio)
    (.errorf "options_manager: position limits rejected %s: %s" [opening.order.ticker])

def processSignal : Outcome Unit := do
  let ticker := opening.order.ticker
  failIf (opening.order.quantity ≤ 0) (.errorf "order_manager: calculated position size is zero for %s" [ticker])
  failIf (balance.equity ≤ 0) (.errorf "order_manager: account equity is zero or negative for %s" [ticker])
  let portfolio ← wrapping "order_manager: build risk portfolio: %w" []
    (buildRiskPortfolioSnapshotFromBalance balance rows)
  failIf (!opening.askRisk approve balance portfolio)
    (.errorf "order_manager: risk check rejected for %s: %s" [ticker])

def position : Position :=
  if opening.isOption then
    { id := opening.positionID
      strategyID := opening.order.strategyID
      marketType := marketOf opening.order.strategyID
      ticker := opening.order.ticker
      side := if opening.order.positionIntent = some .sellToOpen then .short else .long
      quantity := opening.order.quantity
      avgEntry := opening.entryPrice
      currentPrice := none
      realizedPnL := 0
      openedAt := opening.now.toUtc
      closedAt := none }
  else
    let filled := { opening.order with filledAvgPrice := some opening.entryPrice }
    { boughtPosition (fillInput filled opening.entryPrice opening.now) opening.positionID with
      marketType := marketOf opening.order.strategyID }

def perform : Outcome (List Position) := do
  if opening.isOption then opening.processOptionSignal approve balance rows
  else opening.processSignal approve balance rows
  pure (opening.position marketOf :: rows)

end Opening

def RiskPortfolio.book (equity : Amount) (portfolio : RiskPortfolio) (opening : Opening) : RiskPortfolio :=
  let additional := opening.additionalExposure equity
  RiskPortfolio.addMarket { portfolio with totalExposurePct := portfolio.totalExposurePct + additional }
    opening.market additional

def RiskPortfolio.exposure (portfolio : RiskPortfolio) : Option MarketType → Amount
  | none => portfolio.totalExposurePct
  | some marketType => portfolio.marketExposurePct marketType

/-- The order is a buy at a positive price under the market of its strategy, and the position that
the limit of the query pushes out of sight is empty. -/
def Opening.Counted (marketOf : Option Uuid → MarketType) (rows : List Position) (opening : Opening) : Prop :=
  opening.isOption = false ∧ 0 < opening.entryPrice ∧ positionTickerOf opening.order ≠ "" ∧
    marketOf opening.order.strategyID = opening.order.marketType ∧
    ∀ last ∈ (openRows rows)[riskSnapshotPositionLimit - 1]?, last.quantity = 0

/-- What an amount under a market adds to the total and to each market. -/
def partOf (marketType : MarketType) (amount : Amount) : Option MarketType → Amount
  | none => amount
  | some other => if marketType = other ∧ other ≠ .unrecognized "" then amount else 0

def Position.Valued (position : Position) : Prop := position.ticker ≠ "" ∧ (position.quantity = 0 ∨ 0 < position.price)

def Position.share (equity : Amount) (position : Position) : Amount := |position.quantity| * position.price / equity

def shares (equity : Amount) (positions : List Position) : Option MarketType → Amount :=
  (positions.map fun position => partOf position.marketType (position.share equity)).sum

@[simp] theorem partOf_zero (marketType : MarketType) : partOf marketType 0 = 0 := by
  funext scope
  cases scope <;> simp [partOf]

theorem positionNotional_ok_iff (position : Position) (notional : Amount) :
    positionNotional position = .ok notional ↔ position.Valued ∧ |position.quantity| * position.price = notional := by
  unfold positionNotional Position.Valued
  split
  · simp_all
  · split
    · simp_all
    · split <;> simp_all

theorem exposure_addMarket (portfolio : RiskPortfolio) (marketType : MarketType) (amount : Amount)
    (symbols : String → Amount) : (RiskPortfolio.addMarket { portfolio with
      totalExposurePct := portfolio.totalExposurePct + amount
      positionExposureBySymbol := symbols } marketType amount).exposure =
    portfolio.exposure + partOf marketType amount := by
  funext scope
  unfold RiskPortfolio.addMarket increase
  cases scope with
  | none => split <;> rfl
  | some other => split <;> grind [RiskPortfolio.exposure, partOf, Function.update_apply, Pi.add_apply]

theorem foldlM_addPosition_iff {equity : Amount} {positions : List Position} {start : RiskPortfolio}
    {exposure : Option MarketType → Amount} :
    (∃ portfolio, positions.foldlM (addPosition equity) start = .ok portfolio ∧ portfolio.exposure = exposure) ↔
      (∀ position ∈ positions, position.Valued) ∧ start.exposure + shares equity positions = exposure := by
  induction positions generalizing start with
  | nil => simp [returns_iff, shares]
  | cons position rest ih =>
    simp [addPosition, returns_iff, positionNotional_ok_iff, and_assoc, ih, exposure_addMarket, shares, Position.share,
      add_assoc]

theorem snapshot_iff {balance : Balance} (funded : 0 < balance.equity) {rows : List Position}
    {exposure : Option MarketType → Amount} :
    (∃ portfolio, buildRiskPortfolioSnapshotFromBalance balance rows = .ok portfolio ∧ portfolio.exposure = exposure) ↔
      (∀ position ∈ getOpen riskSnapshotPositionLimit rows, position.Valued) ∧
        shares balance.equity (getOpen riskSnapshotPositionLimit rows) = exposure := by
  have none : (RiskPortfolio.mk 0 0 0 (getOpen riskSnapshotPositionLimit rows).length).exposure = 0 := by
    funext scope
    cases scope <;> rfl
  simp [buildRiskPortfolioSnapshotFromBalance, funded, foldlM_addPosition_iff, none]

theorem partOf_injective {left right : MarketType} {amount : Amount} (positive : 0 < amount)
    (same : partOf left amount = partOf right amount) : left = right := by
  have atLeft := congrFun same (some left)
  have atRight := congrFun same (some right)
  grind [partOf]

theorem shares_toList {equity : Amount} (funded : 0 < equity) {position : Option Position}
    (valued : ∀ last ∈ position, last.Valued) :
    0 ≤ shares equity position.toList none ∧
      (shares equity position.toList none = 0 → ∀ last ∈ position, last.quantity = 0) ∧
      ((∀ last ∈ position, last.quantity = 0) → shares equity position.toList = 0) := by
  cases position with
  | none => simp [shares]
  | some last =>
    have share : shares equity (some last).toList = partOf last.marketType (last.share equity) := by simp [shares]
    rw [share]
    obtain ⟨_, empty | positive⟩ := valued last rfl
    · simp [Position.share, empty]
    · refine ⟨by unfold partOf Position.share; positivity, ?_, fun empty => by simp [Position.share, empty last rfl]⟩
      simp [partOf, Position.share, positive.ne', funded.ne']

namespace Opening

variable {approve : Order → Amount → RiskPortfolio → Bool} {balance : Balance} {rows after : List Position}
  {opening : Opening} {marketOf : Option Uuid → MarketType} {before : RiskPortfolio}

theorem exposure_book (equity : Amount) (opening : Opening) : (before.book equity opening).exposure =
    before.exposure + partOf opening.market (opening.additionalExposure equity) := exposure_addMarket ..

theorem perform_ok (performed : perform approve balance marketOf rows opening = .ok after) :
    after = opening.position marketOf :: rows ∧ 0 < opening.order.quantity ∧ 0 < balance.equity := by
  unfold perform at performed
  split at performed
  · simp only [processOptionSignal, returns_iff, decide_eq_false_iff_not, not_le] at performed
    obtain ⟨⟨sized, _, funded, _⟩, rfl⟩ := performed
    exact ⟨rfl, sized, funded⟩
  · simp only [processSignal, returns_iff, decide_eq_false_iff_not, not_le] at performed
    obtain ⟨⟨sized, funded, _⟩, rfl⟩ := performed
    exact ⟨rfl, sized, funded⟩

theorem position_eq (marketOf : Option Uuid → MarketType) (opening : Opening) :
    let held := opening.position marketOf
    held.quantity = opening.order.quantity ∧ held.price = opening.entryPrice ∧
      held.marketType = marketOf opening.order.strategyID ∧ held.closedAt = none ∧
      (opening.isOption = false → held.ticker = positionTickerOf opening.order) := by
  dsimp only [position]
  split
  · simp_all [Position.price]
  · exact ⟨rfl, ite_self _, rfl, rfl, fun _ => rfl⟩

/-- One order: the next snapshot reports what the order was admitted with exactly when the order is counted. -/
theorem reported_iff (performed : perform approve balance marketOf rows opening = .ok after)
    (seen : buildRiskPortfolioSnapshotFromBalance balance rows = .ok before) :
    (∃ reported, buildRiskPortfolioSnapshotFromBalance balance after = .ok reported ∧
      reported.exposure = (before.book balance.equity opening).exposure) ↔ opening.Counted marketOf rows := by
  obtain ⟨rfl, sized, funded⟩ := perform_ok performed
  obtain ⟨quantity, price, inMarket, isOpen, ticker⟩ := position_eq marketOf opening
  obtain ⟨valued, sum⟩ := (snapshot_iff funded).mp ⟨before, seen, rfl⟩
  have window : getOpen riskSnapshotPositionLimit (opening.position marketOf :: rows) =
      opening.position marketOf :: getOpen (riskSnapshotPositionLimit - 1) rows := by
    simp [getOpen, openRows, isOpen, riskSnapshotPositionLimit]
  have earlier : getOpen riskSnapshotPositionLimit rows =
      getOpen (riskSnapshotPositionLimit - 1) rows ++ (openRows rows)[riskSnapshotPositionLimit - 1]?.toList :=
    List.take_add_one
  rw [earlier, List.forall_mem_append] at valued
  obtain ⟨nonneg, empty, zero⟩ := shares_toList funded fun last isLast => valued.2 last (Option.mem_toList.mpr isLast)
  -- what the new row adds against what the order was admitted with and what is out of sight now
  have compared : shares balance.equity (opening.position marketOf :: getOpen (riskSnapshotPositionLimit - 1) rows) =
      (before.book balance.equity opening).exposure ↔
      partOf (marketOf opening.order.strategyID) (opening.order.quantity * opening.entryPrice / balance.equity) =
        shares balance.equity (openRows rows)[riskSnapshotPositionLimit - 1]?.toList +
          partOf opening.market (opening.additionalExposure balance.equity) := by
    rw [exposure_book, ← sum, earlier]
    simp only [shares, List.map_cons, List.sum_cons, List.map_append, List.sum_append, Position.share, quantity, price,
      inMarket, abs_of_pos sized]
    rw [add_comm, add_assoc, add_right_inj]
  rw [snapshot_iff funded, window, List.forall_mem_cons, compared, Counted]
  constructor
  · rintro ⟨⟨⟨named, held⟩, _⟩, law⟩
    have priced : 0 < opening.entryPrice := price ▸ held.resolve_left (quantity ▸ sized.ne')
    have positive : 0 < opening.order.quantity * opening.entryPrice / balance.equity := by positivity
    have total := congrFun law none
    cases isOption : opening.isOption with
    | true =>
      have hundredfold : opening.additionalExposure balance.equity =
          100 * (opening.order.quantity * opening.entryPrice / balance.equity) := by
        simp only [additionalExposure, isOption, if_true]
        ring
      simp only [partOf, Pi.add_apply, hundredfold] at total
      linarith
    | false =>
      simp only [market, additionalExposure, isOption, Bool.false_eq_true, if_false] at law total
      have gone := empty (by simpa [partOf] using total)
      rw [zero gone, zero_add] at law
      exact ⟨rfl, priced, ticker isOption ▸ named, partOf_injective positive law, gone⟩
  · rintro ⟨notOption, priced, named, sameMarket, gone⟩
    refine ⟨⟨⟨ticker notOption ▸ named, .inr (price ▸ priced)⟩, valued.1⟩, ?_⟩
    simp [zero gone, sameMarket, market, additionalExposure, notOption]

/-- In every run of admitted and filled orders, all snapshots report the exposure at the start and
what the orders were admitted with, exactly if every order is counted. -/
theorem exposure_admitted_iff {openings : List Opening} {initial final : List Position}
    (run : openings.foldlM (perform approve balance marketOf) initial = .ok final)
    (seen : buildRiskPortfolioSnapshotFromBalance balance initial = .ok before) :
    (∀ done rows, done <+: openings →
      done.foldlM (perform approve balance marketOf) initial = .ok rows →
      ∃ reported, buildRiskPortfolioSnapshotFromBalance balance rows = .ok reported ∧
        reported.exposure = (done.foldl (RiskPortfolio.book balance.equity) before).exposure) ↔
    ∀ done opening rows, done ++ [opening] <+: openings →
      done.foldlM (perform approve balance marketOf) initial = .ok rows →
      opening.Counted marketOf rows := by
  have admit_congr {left right : RiskPortfolio} (same : left.exposure = right.exposure) (opening : Opening) :
      (left.book balance.equity opening).exposure = (right.book balance.equity opening).exposure := by
    rw [exposure_book, exposure_book, same]
  constructor
  · rintro tracked done opening rows ⟨rest, rfl⟩ reached
    rw [List.foldlM_append, bind_ok_iff] at run
    obtain ⟨after, performed, _⟩ := run
    obtain ⟨_, built, same⟩ := tracked done rows ⟨[opening] ++ rest, by simp⟩ reached
    obtain ⟨reported, next⟩ := tracked (done ++ [opening]) after (List.prefix_append _ _) performed
    rw [List.foldlM_append, reached] at performed
    rw [List.foldl_append] at next
    exact (reported_iff (by simpa using performed) built).mp ⟨reported, next.1, next.2.trans (admit_congr same.symm _)⟩
  · intro counted done
    induction done using List.reverseRecOn with
    | nil =>
      intro rows _ reached
      cases reached
      exact ⟨before, seen, rfl⟩
    | append_singleton done opening ih =>
      intro rows inside reached
      rw [List.foldlM_append, bind_ok_iff] at reached
      obtain ⟨middle, reached, performed⟩ := reached
      obtain ⟨_, built, same⟩ := ih middle ((List.prefix_append _ _).trans inside) reached
      have counts := counted done opening middle inside reached
      obtain ⟨reported, next⟩ := (reported_iff (by simpa using performed) built).mpr counts
      rw [List.foldl_append]
      exact ⟨reported, next.1, next.2.trans (admit_congr same _)⟩

def sampleOpening (marketType : MarketType) (assetClass : AssetClass) : Opening :=
  ⟨{ sampleOrder marketType "A" "" with assetClass := assetClass }, 10, .ofByte 3, sampleNow⟩

/-- The second strategy trades crypto, every other one stocks. -/
def sampleMarkets (strategyID : Option Uuid) : MarketType := if strategyID = some (.ofByte 9) then .crypto else .stock

def cryptoOpening : Opening :=
  let opening := sampleOpening .crypto .equity
  { opening with order := { opening.order with strategyID := some (.ofByte 9) } }

def sampleOpenings : List Opening := [sampleOpening .stock .equity, cryptoOpening]

theorem exposure_admitted_markets : ∃ rows,
    sampleOpenings.foldlM (perform (fun _ _ _ => true) sampleBroker.balance sampleMarkets) [] = .ok rows ∧
    ∃ reported, buildRiskPortfolioSnapshotFromBalance sampleBroker.balance rows = .ok reported ∧
      reported.exposure = (sampleOpenings.foldl (RiskPortfolio.book 1000) ⟨0, 0, 0, 0⟩).exposure := by
  have run : sampleOpenings.foldlM (perform (fun _ _ _ => true) sampleBroker.balance sampleMarkets) [] =
    .ok [cryptoOpening.position sampleMarkets, (sampleOpening .stock .equity).position sampleMarkets] := rfl
  refine ⟨_, run, (exposure_admitted_iff run rfl).mpr (fun done opening rows inside reached => ?_) _ _ List.prefix_rfl run⟩
  rcases done with _ | ⟨first, _ | ⟨_, _⟩⟩
  · cases reached
    obtain rfl : opening = sampleOpening .stock .equity := by simpa [sampleOpenings] using inside
    exact ⟨rfl, by decide +kernel, by decide +kernel, rfl, by simp [openRows]⟩
  · obtain ⟨rfl, rfl⟩ : first = sampleOpening .stock .equity ∧ opening = cryptoOpening := by simpa [sampleOpenings] using inside
    cases reached
    exact ⟨rfl, by decide +kernel, by decide +kernel, rfl, fun _ last => nomatch last⟩
  · simpa [sampleOpenings] using inside.length_le

/-- An option order is admitted with a hundred times what is seen of it. -/
theorem option_exposure_unseen : ∃ rows reported,
    perform (fun _ _ _ => true) sampleBroker.balance (fun _ => .options) [] (sampleOpening .options .option) = .ok rows ∧
    buildRiskPortfolioSnapshotFromBalance sampleBroker.balance rows = .ok reported ∧ reported.exposure none = 1 / 100 ∧
    (RiskPortfolio.book 1000 ⟨0, 0, 0, 0⟩ (sampleOpening .options .option)).exposure none = 1 :=
  ⟨_, _, rfl, rfl, by decide +kernel, by decide +kernel⟩

end Opening

end Augr.Execution
