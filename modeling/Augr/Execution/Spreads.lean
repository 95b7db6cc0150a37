import Augr.Execution.Paper

/-! Debit spreads of the paper broker, and what one can lose at expiry. -/

set_option autoImplicit false

namespace Augr.Execution

open Foundation Domain

inductive OptionType where
  | call
  | put
  | unrecognized (text : String)
  deriving DecidableEq

inductive OptionStrategyType where
  | bullCallSpread
  | bearPutSpread
  | other (text : String)
  deriving DecidableEq

structure OptionContract where
  (occSymbol underlying : String)
  optionType : OptionType
  strike : Amount
  expiry : Instant
  multiplier : Amount
  deriving DecidableEq

structure SpreadLeg where
  contract : OptionContract
  side : OrderSide
  positionIntent : PositionIntent
  ratio : Int
  executablePrice : Amount
  deriving DecidableEq

structure OptionSpread where
  strategyType : OptionStrategyType
  legs : List SpreadLeg
  (maxRisk maxReward : Amount)
  deriving DecidableEq

def exerciseValue (optType : OptionType) (strike underlyingPrice : Amount) : Amount :=
  match optType with
  | .call => if strike < underlyingPrice then underlyingPrice - strike else 0
  | .put => if underlyingPrice < strike then strike - underlyingPrice else 0
  | .unrecognized _ => 0

namespace Paper

def defaultOptionFeePerContract : Amount := 65 / 100

structure LegCount where
  (openBuys openSells closeBuys closeSells : Nat)
  netDebit : Amount

def countLeg (first : SpreadLeg) (count : LegCount) (leg : SpreadLeg) : Outcome LegCount := do
  failIf (Text.trimSpace leg.contract.occSymbol = "" || leg.contract.expiry.isZero || leg.contract.multiplier ≤ 0 ||
      leg.ratio ≠ 1 || leg.executablePrice ≤ 0)
    (.errorf "paper: each debit spread leg requires contract metadata, 1:1 ratio, and executable price" [])
  failIf (leg.contract.expiry ≠ first.contract.expiry || leg.contract.optionType ≠ first.contract.optionType ||
      leg.contract.multiplier ≠ first.contract.multiplier)
    (.errorf "paper: debit vertical legs must share type, expiry, and multiplier" [])
  match leg.side, leg.positionIntent with
  | .buy, .buyToOpen =>
      pure { count with openBuys := count.openBuys + 1, netDebit := count.netDebit + leg.executablePrice }
  | .sell, .sellToOpen =>
      pure { count with openSells := count.openSells + 1, netDebit := count.netDebit - leg.executablePrice }
  | .buy, .buyToClose =>
      pure { count with closeBuys := count.closeBuys + 1, netDebit := count.netDebit + leg.executablePrice }
  | .sell, .sellToClose =>
      pure { count with closeSells := count.closeSells + 1, netDebit := count.netDebit - leg.executablePrice }
  | _, _ => .error (.errorf "paper: debit vertical requires consistent open or close intents" [])

/-- Neither the strikes of the legs nor their underlyings are read. The context is live, and the spread is given. -/
def preflightSpread (spread : OptionSpread) (quantity : Amount) : Outcome Unit := do
  failIf (quantity ≤ 0) (.errorf "paper: valid spread and quantity are required" [])
  failIf (spread.strategyType ≠ .bullCallSpread && spread.strategyType ≠ .bearPutSpread)
    (.errorf "paper: only debit vertical spreads are enabled" [])
  match spread.legs with
  | [first, second] => do
      let count ← [first, second].foldlM (countLeg first) ⟨0, 0, 0, 0, 0⟩
      if count.openBuys = 1 ∧ count.openSells = 1 then do
        failIf (spread.maxRisk ≤ 0 || spread.maxReward ≤ 0)
          (.errorf "paper: opening debit vertical requires finite max risk/reward" [])
        failIf (count.netDebit ≤ 0) (.errorf "paper: spread must be a net debit with one bought and one sold leg" [])
      else
        failIf (count.closeBuys ≠ 1 || count.closeSells ≠ 1)
          (.errorf "paper: spread must be a net debit with one bought and one sold leg" [])
  | _ => .error (.errorf "paper: debit vertical requires two legs" [])

def signed (leg : SpreadLeg) (amount : Amount) : Amount := if leg.side = .buy then amount else -amount

def size (leg : SpreadLeg) (quantity : Amount) : Amount := quantity * leg.ratio * leg.contract.multiplier

def premiumPaid (spread : OptionSpread) (quantity : Amount) : Amount :=
  (spread.legs.map fun leg => signed leg (leg.executablePrice * size leg quantity)).sum

/-- The identifiers of the legs, and the account behind them. -/
def Broker.submitSpreadOrder (b : Broker) (spread : OptionSpread) (quantity : Amount) : Outcome (List String × Broker) := do
  preflightSpread spread quantity
  let debit := premiumPaid spread quantity
  let fees := (spread.legs.map fun leg => quantity * leg.ratio * defaultOptionFeePerContract).sum
  let total := debit + fees
  failIf (b.balance.cash < total) (.errorf "paper: insufficient balance for debit spread: need %.2f, have %.2f" [])
  let cash := b.balance.cash - total
  let charged := { b with balance := ⟨cash, cash, b.balance.equity⟩ }
  let ids := spread.legs.zipIdx.map fun entry => externalID (b.nextOrderID + 1 + entry.2)
  pure (ids, { charged with
    balance := { charged.balance with equity := charged.markToMarketEquity }
    nextOrderID := b.nextOrderID + spread.legs.length
    optionSpreads := put ("|".intercalate ids) total b.optionSpreads })

variable {spread : OptionSpread} {quantity : Amount} {long short : SpreadLeg}

/-- What a leg is worth at expiry, given the price of each underlying. -/
def payoff (prices : String → Amount) (leg : SpreadLeg) : Amount :=
  exerciseValue leg.contract.optionType leg.contract.strike (prices leg.contract.underlying)

def loss (prices : String → Amount) (spread : OptionSpread) (quantity : Amount) : Amount :=
  (spread.legs.map fun leg => signed leg ((leg.executablePrice - payoff prices leg) * size leg quantity)).sum

structure LimitedRisk (prices : String → Amount) (spread : OptionSpread) (quantity : Amount) : Prop where
  premium : loss prices spread quantity ≤ premiumPaid spread quantity
  debited : ∀ {b last : Broker} {ids}, b.submitSpreadOrder spread quantity = .ok (ids, last) →
    loss prices spread quantity ≤ b.balance.cash - last.balance.cash
  maxRisk : loss prices spread quantity ≤ spread.maxRisk * quantity

def opens (spread : OptionSpread) : Bool :=
  spread.legs.all fun leg => leg.positionIntent = .buyToOpen || leg.positionIntent = .sellToOpen

/-- The bought leg is worth at least as much as the sold one, at any price of the one underlying. -/
def Covers (long short : SpreadLeg) : Prop :=
  match long.contract.optionType with
  | .call => long.contract.underlying = short.contract.underlying ∧ long.contract.strike ≤ short.contract.strike
  | .put => long.contract.underlying = short.contract.underlying ∧ short.contract.strike ≤ long.contract.strike
  | .unrecognized _ => True

structure Bounded (spread : OptionSpread) : Prop where
  covered : ∀ long ∈ spread.legs, long.side = .buy → ∀ short ∈ spread.legs, short.side = .sell → Covers long short
  stated : premiumPaid spread 1 ≤ spread.maxRisk

structure Vertical (spread : OptionSpread) (quantity : Amount) (long short : SpreadLeg) : Prop where
  legs : spread.legs.Perm [long, short]
  bought : long.side = .buy
  sold : short.side = .sell
  ratios : long.ratio = 1 ∧ short.ratio = 1
  optionType : short.contract.optionType = long.contract.optionType
  multiplier : short.contract.multiplier = long.contract.multiplier
  sized : 0 < quantity * long.contract.multiplier
  quantity : 0 < quantity

theorem countLeg_ok {first leg : SpreadLeg} {count next : LegCount} (counted : countLeg first count leg = .ok next)
    (opening : leg.positionIntent = .buyToOpen ∨ leg.positionIntent = .sellToOpen) :
    leg.ratio = 1 ∧ 0 < leg.contract.multiplier ∧ leg.contract.optionType = first.contract.optionType ∧
      leg.contract.multiplier = first.contract.multiplier ∧ next.closeBuys = count.closeBuys ∧
      ((leg.side = .buy ∧ next.openBuys = count.openBuys + 1 ∧ next.openSells = count.openSells) ∨
        (leg.side = .sell ∧ next.openBuys = count.openBuys ∧ next.openSells = count.openSells + 1)) := by
  simp only [countLeg, failIf_bind_ok_iff] at counted
  obtain ⟨whole, same, counted⟩ := counted
  simp at whole same
  refine ⟨by grind, by grind, by grind, by grind, ?_⟩
  split at counted <;> cases counted <;> simp_all

theorem vertical_of_preflight (accepted : preflightSpread spread quantity = .ok ()) (opening : opens spread = true) :
    ∃ long short, Vertical spread quantity long short := by
  simp only [preflightSpread, failIf_bind_ok_iff] at accepted
  obtain ⟨given, _, accepted⟩ := accepted
  split at accepted
  · rename_i first second legs
    simp only [List.foldlM_cons, List.foldlM_nil, bind_assoc, pure_bind, bind_ok_iff] at accepted
    obtain ⟨one, counted, two, recounted, accepted⟩ := accepted
    simp only [opens, legs, List.all_cons, List.all_nil, Bool.and_true, Bool.and_eq_true, Bool.or_eq_true,
      decide_eq_true_eq] at opening
    obtain ⟨ratio, positive, _, _, closes, counts⟩ := countLeg_ok counted opening.1
    obtain ⟨ratio', _, optionType, multiplier, closes', counts'⟩ := countLeg_ok recounted opening.2
    have given : 0 < quantity := by simpa using given
    split at accepted
    · rcases counts with ⟨bought, _, _⟩ | ⟨sold, _, _⟩
      · refine ⟨first, second, ?_, bought, ?_, ⟨ratio, ratio'⟩, optionType, multiplier, mul_pos given positive, given⟩
        · rw [legs]
        · grind
      · refine ⟨second, first, ?_, ?_, sold, ⟨ratio', ratio⟩, optionType.symm, multiplier.symm, ?_, given⟩
        · rw [legs]
          exact .swap ..
        · grind
        · rw [multiplier]
          exact mul_pos given positive
    · simp only [failIf_ok_iff] at accepted
      grind
  · cases accepted

theorem Vertical.sum_signed (vertical : Vertical spread quantity long short) (value : SpreadLeg → Amount) (count : Amount) :
    (spread.legs.map fun leg => signed leg (value leg * size leg count)).sum =
      (value long - value short) * (count * long.contract.multiplier) := by
  rw [(vertical.legs.map _).sum_eq]
  simp [signed, size, vertical.bought, vertical.sold, vertical.ratios, vertical.multiplier]
  ring

theorem covers_iff (optionType : short.contract.optionType = long.contract.optionType) :
    Covers long short ↔ ∀ prices, payoff prices short ≤ payoff prices long := by
  unfold Covers payoff
  rw [optionType]
  generalize long.contract.strike = high, short.contract.strike = low
  cases long.contract.optionType with
  | call =>
    refine ⟨by grind [exerciseValue], fun above => ?_⟩
    have apart := above fun name => if name = long.contract.underlying then high else low + 1
    have one := above fun _ => max high low + 1
    grind [exerciseValue]
  | put =>
    refine ⟨by grind [exerciseValue], fun above => ?_⟩
    have apart := above fun name => if name = long.contract.underlying then high else low - 1
    have one := above fun _ => min high low - 1
    grind [exerciseValue]
  | unrecognized => simp [exerciseValue]

theorem exists_worthless (optionType : short.contract.optionType = long.contract.optionType) :
    ∃ prices, payoff prices short = 0 ∧ payoff prices long = 0 := by
  unfold payoff
  rw [optionType]
  cases long.contract.optionType with
  | call => exact ⟨fun _ => min long.contract.strike short.contract.strike, by simp [exerciseValue]⟩
  | put => exact ⟨fun _ => max long.contract.strike short.contract.strike, by simp [exerciseValue]⟩
  | unrecognized => exact ⟨fun _ => 0, rfl, rfl⟩

theorem Vertical.debited (vertical : Vertical spread quantity long short) {b last : Broker} {ids : List String}
    (submitted : b.submitSpreadOrder spread quantity = .ok (ids, last)) :
    premiumPaid spread quantity ≤ b.balance.cash - last.balance.cash := by
  simp only [Broker.submitSpreadOrder, bind_ok_iff, (vertical.legs.map _).sum_eq] at submitted
  obtain ⟨_, _, _, _, submitted⟩ := submitted
  cases submitted
  have fee := mul_pos vertical.quantity (show 0 < defaultOptionFeePerContract by norm_num [defaultOptionFeePerContract])
  simp [vertical.ratios]
  linarith

/-- An accepted spread has limited risk exactly when the bought leg covers the sold one and the stated risk covers
the premium. -/
theorem limitedRisk_iff (accepted : preflightSpread spread quantity = .ok ()) (opening : opens spread = true) :
    (∀ prices, LimitedRisk prices spread quantity) ↔ Bounded spread := by
  obtain ⟨long, short, vertical⟩ := vertical_of_preflight accepted opening
  have member (leg : SpreadLeg) : leg ∈ spread.legs ↔ leg = long ∨ leg = short := by simp [vertical.legs.mem_iff]
  have scaled : premiumPaid spread quantity = premiumPaid spread 1 * quantity := by
    simp only [premiumPaid, vertical.sum_signed]
    ring
  have worth (prices) : loss prices spread quantity = premiumPaid spread quantity -
      (payoff prices long - payoff prices short) * (quantity * long.contract.multiplier) := by
    simp only [loss, premiumPaid, vertical.sum_signed]
    ring
  have gains (prices) : loss prices spread quantity ≤ premiumPaid spread quantity ↔
      payoff prices short ≤ payoff prices long := by
    rw [worth, sub_le_self_iff, mul_nonneg_iff_of_pos_right vertical.sized, sub_nonneg]
  constructor
  · intro limited
    refine ⟨fun leg isLong bought other isShort sold => ?_, ?_⟩
    · have covers := (covers_iff vertical.optionType).mpr fun prices => (gains prices).mp (limited prices).premium
      grind [vertical.bought, vertical.sold]
    · obtain ⟨prices, shortNone, longNone⟩ := exists_worthless vertical.optionType
      have bounded := (limited prices).maxRisk
      rw [worth, shortNone, longNone, sub_self, zero_mul, sub_zero, scaled] at bounded
      exact le_of_mul_le_mul_right bounded vertical.quantity
  · rintro ⟨covered, within⟩ prices
    have covers := covered long (by simp [member]) vertical.bought short (by simp [member]) vertical.sold
    have paid := (gains prices).mpr ((covers_iff vertical.optionType).mp covers prices)
    refine ⟨paid, fun submitted => paid.trans (vertical.debited submitted), paid.trans ?_⟩
    rw [scaled]
    exact mul_le_mul_of_nonneg_right within vertical.quantity.le

/-- A bull call spread for 2, of which 200 is stated as the risk of one contract. -/
def sampleSpread (longStrike shortStrike : Amount) : OptionSpread :=
  let contract (strike : Amount) : OptionContract := ⟨"A", "A", .call, strike, ⟨1, true⟩, 100⟩
  ⟨.bullCallSpread, [⟨contract longStrike, .buy, .buyToOpen, 1, 3⟩, ⟨contract shortStrike, .sell, .sellToOpen, 1, 1⟩], 200, 800⟩

theorem limitedRisk_sample : Bounded (sampleSpread 90 100) ∧ ∀ prices, LimitedRisk prices (sampleSpread 90 100) 1 := by
  have bounded : Bounded (sampleSpread 90 100) :=
    ⟨by simp +contextual [sampleSpread, Covers]; norm_num, by decide +kernel⟩
  exact ⟨bounded, (limitedRisk_iff (by decide +kernel) (by decide)).mpr bounded⟩

/-- With the strikes the other way round 1200 can be lost where 200 were paid. -/
theorem inverted_strikes_lose : preflightSpread (sampleSpread 100 90) 1 = .ok () ∧ opens (sampleSpread 100 90) = true ∧
    premiumPaid (sampleSpread 100 90) 1 = 200 ∧ (sampleSpread 100 90).maxRisk = 200 ∧
    loss (fun _ => 100) (sampleSpread 100 90) 1 = 1200 := by
  decide +kernel

end Paper

end Augr.Execution
