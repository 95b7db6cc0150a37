import Augr.Domain
import Augr.Foundation.Casing
import Augr.Foundation.Outcome

/-! How a ticker is spelled on its way from a plan to a broker, to a stored position and back. -/

set_option autoImplicit false

namespace Augr.Execution

open Foundation Domain Text

def isPredictionMarket (marketType : MarketType) : Bool :=
  marketType.normalize = .polymarket || marketType.normalize = .kalshi

def isYesNo (side : String) : Bool := side = "YES" || side = "NO"

/-- The side that is written behind the first colon of a ticker. -/
def sideSuffix (ticker : String) : Option (String × String) :=
  match Text.cut ':' ticker with
  | some (slug, side) =>
      let slug := trimSpace slug
      let side := toUpper (trimSpace side)
      if slug ≠ "" ∧ isYesNo side then some (slug, side) else none
  | none => none

def normalizePredictionOrderTicker (marketType : MarketType) (ticker predictionSide : String) : Outcome (String × String) :=
  let trimmedTicker := trimSpace ticker
  let normalizedSide := toUpper (trimSpace predictionSide)
  if !isPredictionMarket marketType then .ok (trimmedTicker, normalizedSide)
  else match sideSuffix trimmedTicker with
    | some (slug, tickerSide) =>
        if !isYesNo normalizedSide then .ok (toUpper slug, tickerSide)
        else if tickerSide ≠ normalizedSide then
          .error (.errorf "order_manager: prediction ticker suffix %q conflicts with prediction side %q"
            [tickerSide, normalizedSide])
        else .ok (toUpper slug, normalizedSide)
    | none =>
        if !isYesNo normalizedSide then .error (.errorf "order_manager: prediction order requires valid side YES or NO" [])
        else .ok (trimmedTicker, normalizedSide)

/-- The order manager and the store each have this function. -/
def polymarketPositionTicker (slug side : String) : String :=
  let slug := trimSpace slug
  if slug = "" then ""
  else
    let side := toUpper (trimSpace side)
    if side = "" then slug
    else match sideSuffix slug with
      | some (existingSlug, existingSide) => existingSlug ++ ":" ++ existingSide
      | none => slug ++ ":" ++ side

def normalizedPositionTicker (marketType : MarketType) (ticker predictionSide : String) : String :=
  let ticker := trimSpace ticker
  if ticker = "" then ""
  else if isPredictionMarket marketType then polymarketPositionTicker ticker predictionSide
  else ticker

def normalizeTicker (ticker : String) : Outcome String :=
  let normalized := toUpper (trimSpace ticker)
  if normalized = "" then .error (.errorf "paper: order ticker is required" []) else .ok normalized

def splitPredictionTicker (ticker : String) : Option (String × String) :=
  (sideSuffix ticker).map fun found => (toUpper found.1, found.2)

def canonicalPositionTicker (marketType : MarketType) (ticker predictionSide : String) : Outcome String := do
  let normalizedTicker ← normalizeTicker ticker
  if !isPredictionMarket marketType then pure normalizedTicker
  else match splitPredictionTicker normalizedTicker with
    | some (slug, side) => pure (slug ++ ":" ++ side)
    | none =>
        let side := toUpper (trimSpace predictionSide)
        if isYesNo side then pure (normalizedTicker ++ ":" ++ side) else pure normalizedTicker

/-- How the broker spells the ticker and the side of an order, and under which ticker it keeps the position. -/
def brokerTicker (marketType : MarketType) (ticker predictionSide : String) : Outcome (String × String × String) := do
  let baseTicker ← normalizeTicker ticker
  let (baseTicker, normalizedSide) ← normalizePredictionOrderTicker marketType baseTicker predictionSide
  let positionTicker ← canonicalPositionTicker marketType baseTicker normalizedSide
  pure (baseTicker, normalizedSide, positionTicker)

theorem yesNo_cases {side : String} (yesNo : isYesNo side = true) : side = "YES" ∨ side = "NO" := by
  simpa [isYesNo] using yesNo

theorem yesNo_normal {side : String} (yesNo : isYesNo side = true) :
    toUpper (trimSpace side) = side ∧ side ≠ "" ∧ ':' ∉ side.toList := by
  rcases yesNo_cases yesNo with rfl | rfl
  · decide
  · decide

/-- What the order manager makes of a spelling: no spaces around the ticker, and in a prediction market a side, and
no side behind the first colon. -/
structure Normal (marketType : MarketType) (ticker side : String) : Prop where
  trimmed : trimSpace ticker = ticker
  sided : isPredictionMarket marketType = true → isYesNo side = true
  plain : isPredictionMarket marketType = true → sideSuffix ticker = none

theorem sideSuffix_of_notMem {ticker : String} (absent : ':' ∉ ticker.toList) : sideSuffix ticker = none := by
  rw [sideSuffix, cut_of_notMem absent]

theorem colon_notMem_trim {text : List Char} (absent : ':' ∉ text) : ':' ∉ Text.trim text := by
  intro member
  apply absent
  have inner : ':' ∈ text.dropWhile Text.isSpace := (List.rdropWhile_prefix Text.isSpace _).subset member
  exact (List.dropWhile_suffix Text.isSpace).subset inner

theorem sideSuffix_some {ticker slug side : String} (found : sideSuffix ticker = some (slug, side)) :
    trimSpace slug = slug ∧ ':' ∉ slug.toList ∧ isYesNo side = true := by
  unfold sideSuffix at found
  split at found
  · rename_i first rest parts
    dsimp only at found
    split at found
    · rename_i valid
      cases found
      refine ⟨trimSpace_trimSpace _, ?_, valid.2⟩
      rw [toList_trimSpace]
      exact colon_notMem_trim (notMem_of_cut parts)
    · cases found
  · cases found

theorem colon_notMem_toUpper {value : String} (absent : ':' ∉ value.toList) : ':' ∉ (toUpper value).toList := by
  rw [toList_toUpper]
  intro member
  obtain ⟨c, inside, same⟩ := List.mem_map.mp member
  exact absent ((upperChar_eq_colon c).mp same ▸ inside)

theorem normal_of_slug {marketType : MarketType} {slug side : String} (trimmed : trimSpace slug = slug)
    (absent : ':' ∉ slug.toList) (yesNo : isYesNo side = true) : Normal marketType (toUpper slug) side where
  trimmed := by rw [trimSpace_toUpper, trimmed]
  sided _ := yesNo
  plain _ := sideSuffix_of_notMem (colon_notMem_toUpper absent)

theorem normalize_normal {marketType : MarketType} {ticker side : String} {normal : String × String}
    (accepted : normalizePredictionOrderTicker marketType ticker side = .ok normal) : Normal marketType normal.1 normal.2 := by
  simp only [normalizePredictionOrderTicker] at accepted
  split at accepted
  · rename_i other
    rw [Bool.not_eq_true'] at other
    cases accepted
    exact ⟨trimSpace_trimSpace _, fun prediction => by simp [other] at prediction,
      fun prediction => by simp [other] at prediction⟩
  split at accepted
  · rename_i slug tickerSide found
    obtain ⟨trimmed, absent, yesNo⟩ := sideSuffix_some found
    split at accepted
    · cases accepted
      exact normal_of_slug trimmed absent yesNo
    split at accepted
    · cases accepted
    · rename_i sided _
      cases accepted
      exact normal_of_slug trimmed absent (by simpa using sided)
  · rename_i plain
    split at accepted
    · cases accepted
    · rename_i sided
      cases accepted
      exact ⟨trimSpace_trimSpace _, fun _ => by simpa using sided, fun _ => plain⟩

end Augr.Execution
