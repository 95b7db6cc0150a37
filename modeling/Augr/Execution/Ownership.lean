import Augr.Execution.Financial
import Augr.Execution.Paper

/-! Whether a sale finds what was bought under the same ticker.

The paper broker writes tickers in upper case and the store keeps them so, while a sale asks for the ticker as the plan
spells it. Only a ticker whose normal form is upper case already is found again. -/

set_option autoImplicit false

namespace Augr.Execution

open Foundation Domain Text

variable {marketType : MarketType}

/-- Under which ticker a sale asks for the positions of a normal spelling. -/
def askedTicker (marketType : MarketType) (ticker side : String) : String :=
  if isPredictionMarket marketType then ticker ++ ":" ++ side else ticker

section
variable {marketType : MarketType} {ticker side : String}

theorem polymarketPositionTicker_plain (trimmed : trimSpace ticker = ticker) (filled : ticker ≠ "")
    (yesNo : isYesNo side = true) (plain : sideSuffix ticker = none) :
    polymarketPositionTicker ticker side = ticker ++ ":" ++ side := by
  obtain ⟨same, nonempty, _⟩ := yesNo_normal yesNo
  simp only [polymarketPositionTicker, trimmed, filled, same, nonempty, plain, if_false]

theorem exitFilter_normal (normal : Normal marketType ticker side) (filled : ticker ≠ "") :
    exitFilter marketType ticker side = .ok ⟨askedTicker marketType ticker side, .long⟩ := by
  unfold exitFilter askedTicker
  split
  · rename_i prediction
    simp only [openPredictionFilter, normal.trimmed, filled, if_false,
      polymarketPositionTicker_plain normal.trimmed filled (normal.sided prediction) (normal.plain prediction)]
  · simp only [openLongFilter, normal.trimmed, filled, if_false]

theorem normalizedPositionTicker_normal (normal : Normal marketType ticker side) (filled : ticker ≠ "") :
    normalizedPositionTicker marketType ticker side = askedTicker marketType ticker side := by
  simp only [normalizedPositionTicker, normal.trimmed, filled, if_false]
  unfold askedTicker
  split
  · rename_i prediction
    exact polymarketPositionTicker_plain normal.trimmed filled (normal.sided prediction) (normal.plain prediction)
  · rfl

theorem append_right_cancel {first second last : String} (same : first ++ last = second ++ last) : first = second := by
  have lists := congrArg String.toList same
  rw [String.toList_append, String.toList_append] at lists
  exact String.toList_inj.mp (List.append_cancel_right lists)

theorem askedTicker_injective {otherTicker otherSide : String} (yesNo : isYesNo side = true)
    (otherYesNo : isYesNo otherSide = true) (same : ticker ++ ":" ++ side = otherTicker ++ ":" ++ otherSide) :
    ticker = otherTicker ∧ side = otherSide := by
  have sides : side = otherSide := by
    have ends := congrArg (fun text => text.toList.getLast?) same
    rcases yesNo_cases yesNo with rfl | rfl <;> rcases yesNo_cases otherYesNo with rfl | rfl
    · rfl
    · simp [String.toList_append] at ends
    · simp [String.toList_append] at ends
    · rfl
  subst sides
  exact ⟨append_right_cancel (append_right_cancel same), rfl⟩

theorem colon_mem_of_sideSuffix (found : sideSuffix (toUpper ticker) ≠ none) : ':' ∈ ticker.toList := by
  by_contra absent
  exact found (sideSuffix_of_notMem (colon_notMem_toUpper absent))

theorem normalizeTicker_empty : normalizeTicker "" = .error (.errorf "paper: order ticker is required" []) := by decide

theorem brokerTicker_nonempty {spelling : String × String × String}
    (spelled : brokerTicker marketType ticker side = .ok spelling) :
    ticker ≠ "" := by
  rintro rfl
  rw [brokerTicker, normalizeTicker_empty] at spelled
  cases spelled

/-- The broker writes the ticker in upper case. Should that make a side of what stands behind a colon, it is cut off. -/
theorem brokerTicker_spelled {base brokerSide position : String} (normal : Normal marketType ticker side)
    (spelled : brokerTicker marketType ticker side = .ok (base, brokerSide, position)) :
    Normal marketType base brokerSide ∧ base ≠ "" ∧ (isPredictionMarket marketType = true → brokerSide = side) ∧
      (base = toUpper ticker ∨
        (isPredictionMarket marketType = true ∧ sideSuffix (toUpper ticker) ≠ none ∧ ':' ∉ base.toList)) := by
  simp only [brokerTicker, bind_ok_iff] at spelled
  obtain ⟨upper, isUpper, ⟨base, brokerSide⟩, accepted, canonical, isCanonical, same⟩ := spelled
  cases same
  have upperIs : upper = toUpper ticker := by
    simp only [normalizeTicker, normal.trimmed] at isUpper
    split at isUpper
    · cases isUpper
    · exact (Except.ok.inj isUpper).symm
  subst upperIs
  have filled : base ≠ "" := by
    rintro rfl
    rw [canonicalPositionTicker, normalizeTicker_empty] at isCanonical
    cases isCanonical
  refine ⟨normalize_normal accepted, filled, ?_, ?_⟩
  · intro prediction
    obtain ⟨sideSame, _, _⟩ := yesNo_normal (normal.sided prediction)
    simp only [normalizePredictionOrderTicker, prediction, Bool.not_true, Bool.false_eq_true, if_false, sideSame,
      normal.sided prediction] at accepted
    split at accepted
    · split at accepted
      · cases accepted
      · cases accepted
        rfl
    · cases accepted
      rfl
  · simp only [normalizePredictionOrderTicker, trimSpace_toUpper, normal.trimmed] at accepted
    split at accepted
    · cases accepted
      exact .inl rfl
    rename_i prediction
    rw [Bool.not_eq_true', Bool.not_eq_false] at prediction
    split at accepted
    · rename_i slug tickerSide found
      have cutOff : isPredictionMarket marketType = true ∧ sideSuffix (toUpper ticker) ≠ none ∧
          ':' ∉ (toUpper slug).toList :=
        ⟨prediction, by simp [found], colon_notMem_toUpper (sideSuffix_some found).2.1⟩
      split at accepted
      · cases accepted
        exact .inr cutOff
      split at accepted
      · cases accepted
      · cases accepted
        exact .inr cutOff
    · split at accepted
      · cases accepted
      · cases accepted
        exact .inl rfl

/-- The store keeps the position under the ticker that a sale will ask for, if the ticker is in upper case and only then. -/
theorem storedTicker_eq_asked_iff {base brokerSide position : String} (normal : Normal marketType ticker side)
    (spelled : brokerTicker marketType ticker side = .ok (base, brokerSide, position)) :
    normalizedPositionTicker marketType base brokerSide = askedTicker marketType ticker side ↔ toUpper ticker = ticker := by
  obtain ⟨brokerNormal, filled, sides, base_⟩ := brokerTicker_spelled normal spelled
  rw [normalizedPositionTicker_normal brokerNormal filled]
  have same : askedTicker marketType base brokerSide = askedTicker marketType ticker side ↔ base = ticker := by
    unfold askedTicker
    split
    · rename_i prediction
      rw [sides prediction]
      exact ⟨fun same => append_right_cancel (append_right_cancel same), fun same => by rw [same]⟩
    · exact Iff.rfl
  rw [same]
  rcases base_ with rfl | ⟨prediction, found, absent⟩
  · exact Iff.rfl
  · refine iff_of_false (fun same => absent (same ▸ colon_mem_of_sideSuffix found)) fun upper => found ?_
    rw [upper]
    exact normal.plain prediction

end

/-- A buy with this spelling was filled by the paper broker, and the store opened this position for it. -/
inductive Bought (strategyID : Uuid) (marketType : MarketType) (ticker side : String) : Position → Prop
  | stored {normal : String × String} {order filled : Order} {broker after : Paper.Broker} {submittedAt now : Instant}
      {brokerPosition positionID tradeID : Uuid} {external : String} {entryPrice : Amount} {store last : FinancialStore}
      {result : OrderFillResult} (accepted : normalizePredictionOrderTicker marketType ticker side = .ok normal)
      (planned : order.ticker = normal.1 ∧ order.predictionSide = normal.2 ∧ order.marketType = marketType ∧
        order.side = .buy ∧ order.strategyID = some strategyID)
      (submitted : broker.submitOrder order submittedAt brokerPosition = ⟨after, filled, .ok external⟩)
      (isFilled : filled.status = .filled)
      (applied : applyOrderFill store (fillInput filled entryPrice now) positionID tradeID = .ok (result, last))
      (first : result.replayed = false) :
      Bought strategyID marketType ticker side (boughtPosition (fillInput filled entryPrice now) positionID)

/-- The open positions that a sale of a normal spelling finds among the rows. -/
def foundPositions (strategyID : Uuid) (marketType : MarketType) (normal : String × String) (rows : List Position) :
    List Position :=
  match exitFilter marketType normal.1 normal.2 with
  | .ok filter => (getByStrategy strategyID filter riskSnapshotPositionLimit rows).filter Position.isOpen
  | .error _ => []

/-- The side belongs to the contracts of prediction markets only. -/
def sameContract (marketType : MarketType) (first second : String × String) : Prop :=
  first.1 = second.1 ∧ (isPredictionMarket marketType = true → first.2 = second.2)

/-- The markets whose sales are checked against what the strategy holds. -/
def hasOwnedExits (marketType : MarketType) : Prop := marketType = .stock ∨ marketType = .polymarket ∨ marketType = .kalshi

theorem submitOrder_ok {broker after : Paper.Broker} {order filled : Order} {now : Instant} {id : Uuid} {external : String}
    (submitted : broker.submitOrder order now id = ⟨after, filled, .ok external⟩) :
    ∃ position, brokerTicker order.marketType order.ticker order.predictionSide =
        .ok (filled.ticker, filled.predictionSide, position) ∧
      filled.marketType = order.marketType ∧ filled.strategyID = order.strategyID ∧ filled.side = order.side := by
  unfold Paper.Broker.submitOrder at submitted
  split at submitted
  · cases submitted
  · rename_i base side position spelled
    refine ⟨position, ?_⟩
    rw [spelled]
    dsimp only at submitted
    split at submitted
    · cases submitted
    split at submitted
    · cases submitted
    · cases submitted
      exact ⟨rfl, rfl, rfl, rfl⟩
    split at submitted
    · cases submitted
    · cases submitted
      exact ⟨rfl, rfl, rfl, rfl⟩

theorem fillMarketType_owned {order : Order} (owned : hasOwnedExits order.marketType) :
    fillMarketType order = order.marketType := by
  rcases owned with market | market | market <;> simp [fillMarketType, market, MarketType.normalize]

theorem boughtPosition_isOpen {input : OrderFillInput} {id : Uuid} (valid : input.isInvalid = false) :
    (boughtPosition input id).isOpen = true := by
  simp only [OrderFillInput.isInvalid, Bool.or_eq_false_iff, decide_eq_false_iff_not, not_le] at valid
  simp [boughtPosition, Position.isOpen, valid]

theorem Bought.row {strategyID : Uuid} {ticker side : String} {normal : String × String} {position : Position}
    (bought : Bought strategyID marketType ticker side position) (owned : hasOwnedExits marketType)
    (accepted : normalizePredictionOrderTicker marketType ticker side = .ok normal) :
    position.strategyID = some strategyID ∧ position.side = .long ∧ position.isOpen = true ∧ normal.1 ≠ "" ∧
      (position.ticker = askedTicker marketType normal.1 normal.2 ↔ toUpper normal.1 = normal.1) := by
  cases bought with
  | @stored bought order filled _ _ _ now _ _ _ _ entryPrice _ _ _ otherwise planned submitted isFilled applied first =>
    rw [accepted] at otherwise
    cases otherwise
    obtain ⟨tickerIs, sideIs, marketIs, _, strategyIs⟩ := planned
    obtain ⟨brokerPosition, spelled, market, strategy, _⟩ := submitOrder_ok submitted
    rw [tickerIs, sideIs, marketIs] at spelled
    have marketSame : (fillInput filled entryPrice now).order.marketType = marketType := market.trans marketIs
    have kept : fillMarketType (fillInput filled entryPrice now).order = marketType :=
      (fillMarketType_owned (marketSame ▸ owned)).trans marketSame
    have valid := (applyOrderFill_ok applied).1
    refine ⟨strategy.trans strategyIs, rfl, boughtPosition_isOpen valid, brokerTicker_nonempty spelled, ?_⟩
    rw [← storedTicker_eq_asked_iff (normalize_normal accepted) spelled]
    dsimp only [boughtPosition, positionTickerOf]
    rw [kept]
    exact Iff.rfl

theorem mem_take_filter {α : Type} {test : α → Bool} {limit : Nat} {newer older : List α} {item : α}
    (recent : newer.length < limit) (passes : test item = true) : item ∈ ((newer ++ item :: older).filter test).take limit := by
  rw [List.filter_append, List.filter_cons_of_pos passes]
  have few : (newer.filter test).length < limit := (List.length_filter_le test newer).trans_lt recent
  refine List.mem_take_iff_getElem.mpr ⟨(newer.filter test).length, ?_, ?_⟩
  · simp only [List.length_append, List.length_cons]
    omega
  · simp

theorem exitFilter_empty (marketType : MarketType) (side : String) : ∃ fault, exitFilter marketType "" side = .error fault := by
  have blank : trimSpace "" = "" := by decide
  unfold exitFilter
  split
  · exact ⟨_, by rw [openPredictionFilter, blank, if_pos rfl]⟩
  · exact ⟨_, by rw [openLongFilter, blank, if_pos rfl]⟩

theorem askedTicker_nonempty {ticker side : String} (filled : ticker ≠ "") :
    askedTicker marketType ticker side ≠ "" := by
  unfold askedTicker
  split
  · intro empty
    have characters := congrArg String.toList empty
    simp [String.toList_append] at characters
  · exact filled

theorem mem_foundPositions_iff {strategyID : Uuid} {normal : String × String} {newer older : List Position}
    {position : Position} (normalForm : Normal marketType normal.1 normal.2)
    (strategy : position.strategyID = some strategyID) (long : position.side = .long)
    (isOpen : position.isOpen = true) (recent : newer.length < riskSnapshotPositionLimit) :
    position ∈ foundPositions strategyID marketType normal (newer ++ position :: older) ↔
      normal.1 ≠ "" ∧ position.ticker = askedTicker marketType normal.1 normal.2 := by
  unfold foundPositions
  by_cases empty : normal.1 = ""
  · obtain ⟨fault, refused⟩ := exitFilter_empty marketType normal.2
    rw [empty, refused]
    exact iff_of_false List.not_mem_nil fun found => found.1 rfl
  · have admitted : PositionFilter.admits ⟨askedTicker marketType normal.1 normal.2, .long⟩ strategyID position = true ↔
        position.ticker = askedTicker marketType normal.1 normal.2 := by
      simp [PositionFilter.admits, strategy, long, askedTicker_nonempty empty]
    rw [exitFilter_normal normalForm empty]
    constructor
    · intro found
      have listed := (List.mem_filter.mp found).1
      exact ⟨empty, admitted.mp (List.mem_filter.mp (List.mem_of_mem_take listed)).2⟩
    · intro found
      exact List.mem_filter.mpr ⟨mem_take_filter recent (admitted.mpr found.2), isOpen⟩

/-- A sale finds what was bought under the same contract and side and nothing else, if the ticker as the order manager
normalises it is in upper case, and only then. -/
theorem bought_found_iff_upper {strategyID : Uuid} {marketType : MarketType} {ticker side : String} {normal : String × String}
    {position : Position} (owned : hasOwnedExits marketType)
    (accepted : normalizePredictionOrderTicker marketType ticker side = .ok normal)
    (bought : Bought strategyID marketType ticker side position) :
    (∀ otherTicker otherSide otherNormal newer older,
      normalizePredictionOrderTicker marketType otherTicker otherSide = .ok otherNormal →
      newer.length < riskSnapshotPositionLimit →
      (position ∈ foundPositions strategyID marketType otherNormal (newer ++ position :: older) ↔
        sameContract marketType normal otherNormal)) ↔ toUpper normal.1 = normal.1 := by
  obtain ⟨strategy, long, isOpen, filled, upper⟩ := bought.row owned accepted
  have normalForm := normalize_normal accepted
  constructor
  · intro finds
    have found := (finds ticker side normal [] [] accepted (by decide)).mpr ⟨rfl, fun _ => rfl⟩
    exact upper.mp ((mem_foundPositions_iff normalForm strategy long isOpen (by decide)).mp found).2
  · intro isUpper otherTicker otherSide otherNormal newer older otherAccepted recent
    have otherForm := normalize_normal otherAccepted
    rw [mem_foundPositions_iff otherForm strategy long isOpen recent, upper.mpr isUpper]
    constructor
    · rintro ⟨_, same⟩
      unfold askedTicker at same
      split at same
      · rename_i prediction
        obtain ⟨tickers, sides⟩ := askedTicker_injective (normalForm.sided prediction) (otherForm.sided prediction) same
        exact ⟨tickers, fun _ => sides⟩
      · rename_i other
        exact ⟨same, fun prediction => absurd prediction other⟩
    · rintro ⟨tickers, sides⟩
      refine ⟨tickers ▸ filled, ?_⟩
      unfold askedTicker
      split
      · rename_i prediction
        rw [tickers, sides prediction]
      · exact tickers

def sampleBroker : Paper.Broker := ⟨[], [], [], ⟨1000, 1000, 1000⟩, 0, 0, 0⟩

def sampleNow : Instant := ⟨63906796800000000000, true⟩

def sampleOrder (marketType : MarketType) (ticker side : String) : Order where
  id := .ofByte 1
  strategyID := some (.ofByte 2)
  externalID := ""
  ticker := ticker
  marketType := marketType
  side := .buy
  orderType := .market
  quantity := 1
  limitPrice := some 10
  stopPrice := none
  referencePrice := none
  filledQuantity := 0
  filledAvgPrice := none
  status := .pending
  submittedAt := none
  filledAt := none
  assetClass := .unrecognized ""
  contractMultiplier := 0
  positionIntent := none
  predictionSide := side

def sampleStore (marketType : MarketType) (ticker side : String) : FinancialStore :=
  ⟨[{ sampleOrder marketType ticker side with status := .submitted }], [], [], []⟩

def samplePosition (marketType : MarketType) (ticker side : String) : Position :=
  boughtPosition
    (fillInput (sampleBroker.submitOrder (sampleOrder marketType ticker side) sampleNow (.ofByte 3)).order 10 sampleNow)
    (.ofByte 4)

/-- What is to be seen of a submission and of the fill for a sample to be bought. -/
def sampleIsBought (marketType : MarketType) (ticker side : String) : Bool :=
  let submitted := sampleBroker.submitOrder (sampleOrder marketType ticker side) sampleNow (.ofByte 3)
  submitted.outcome.isOk && submitted.order.status = .filled &&
    (applyOrderFill (sampleStore marketType ticker side) (fillInput submitted.order 10 sampleNow) (.ofByte 4)
      (.ofByte 5)).toOption.any
      fun applied => !applied.1.replayed

theorem sample_bought {ticker side base spelled : String}
    (accepted : normalizePredictionOrderTicker marketType ticker side = .ok (base, spelled))
    (evaluated : sampleIsBought marketType base spelled = true) :
    Bought (.ofByte 2) marketType ticker side (samplePosition marketType base spelled) := by
  simp only [sampleIsBought, Bool.and_eq_true, decide_eq_true_eq] at evaluated
  obtain ⟨⟨succeeded, filled⟩, applied⟩ := evaluated
  obtain ⟨⟨result, last⟩, isApplied, first⟩ := ok_of_evaluated applied
  rw [samplePosition]
  cases submitted : sampleBroker.submitOrder (sampleOrder marketType base spelled) sampleNow (.ofByte 3) with
  | mk after order outcome =>
    rw [submitted] at succeeded filled isApplied
    cases outcome with
    | error fault => cases succeeded
    | ok external =>
      have planned : (sampleOrder marketType base spelled).strategyID = some (.ofByte 2) := rfl
      exact .stored accepted ⟨rfl, rfl, rfl, rfl, planned⟩ submitted filled isApplied (by simpa using first)

/-- What was bought under a ticker in lower case is not found under that ticker. -/
theorem sampleSale_misses_position : hasOwnedExits .stock ∧
    normalizePredictionOrderTicker .stock "aapl" "" = .ok ("aapl", "") ∧
    Bought (.ofByte 2) .stock "aapl" "" (samplePosition .stock "aapl" "") ∧
    samplePosition .stock "aapl" "" ∉ foundPositions (.ofByte 2) .stock ("aapl", "") [samplePosition .stock "aapl" ""] := by
  have accepted : normalizePredictionOrderTicker .stock "aapl" "" = .ok ("aapl", "") := ok_of_toOption (by decide)
  have evaluated : sampleIsBought .stock "aapl" "" = true := by decide +kernel
  exact ⟨.inl rfl, accepted, sample_bought accepted evaluated, by decide +kernel⟩

/-- A side behind the ticker puts it in upper case, and the sale finds the position. -/
theorem sampleSale_finds_position :
    samplePosition .kalshi "BTC" "YES" ∈
      foundPositions (.ofByte 2) .kalshi ("BTC", "YES") [samplePosition .kalshi "BTC" "YES"] := by
  have accepted : normalizePredictionOrderTicker .kalshi " btc : yes" "" = .ok ("BTC", "YES") := ok_of_toOption (by decide)
  have evaluated : sampleIsBought .kalshi "BTC" "YES" = true := by decide +kernel
  have upper : toUpper "BTC" = "BTC" := by decide
  have finds := (bought_found_iff_upper (.inr (.inr rfl)) accepted (sample_bought accepted evaluated)).mpr upper
  exact (finds " btc : yes" "" ("BTC", "YES") [] [] accepted (by decide)).mpr ⟨rfl, fun _ => rfl⟩

end Augr.Execution
