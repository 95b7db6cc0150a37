import Augr.Predictionreplay.Lookahead

/-! The fee of a list of fills against the exact fee rounded once.

The contract curve is computed exactly. A share of the notional is divided fill by fill, at sixteen places, before
the sum is rounded, so that the fee is right where these divisions carry the sum over no boundary of the rounding. -/

set_option autoImplicit false

namespace Augr.Predictionreplay

open Foundation

def denoted (text : String) : ℚ := ((Decimal.newFromString text).toOption.map Decimal.toRat).getD 0

theorem denoted_of_parsed {text : String} {value : Decimal} (parsed : (Decimal.newFromString text).toOption = some value) :
    denoted text = value.toRat := by
  rw [denoted, parsed, Option.map_some, Option.getD_some]

def FillCanonical.Numeric (fill : FillCanonical) : Prop :=
  (Decimal.newFromString fill.price).toOption.isSome ∧ (Decimal.newFromString fill.quantity).toOption.isSome

def exactComponent (policy : ParsedFee) (fill : FillCanonical) : ℚ :=
  let notional := denoted fill.price * denoted fill.quantity
  if policy.input.formula = .notionalBPS then notional * policy.rate.toRat / 10000
  else notional * (1 - denoted fill.price) * policy.rate.toRat

def exactFee (policy : ParsedFee) (fills : List FillCanonical) : ℚ := (fills.map (exactComponent policy)).sum

/-- How far a share of the notional lies from the nearest number of sixteen places. -/
def offGrid (policy : ParsedFee) (fill : FillCanonical) : ℚ :=
  if policy.input.formula = .notionalBPS then
    nearest (exactComponent policy fill * 10 ^ 16) / 10 ^ 16 - exactComponent policy fill
  else 0

def RoundingMode.whole (mode : RoundingMode) (x : ℚ) : Int := if mode = .ceiling then ⌈x⌉ else nearest x

/-- A number rounded once, to the scale of the policy and in its mode. -/
def ParsedFee.rounded (policy : ParsedFee) (x : ℚ) : ℚ :=
  policy.input.rounding.whole (x * 10 ^ policy.input.scale.toNat) / 10 ^ policy.input.scale.toNat

/-- No boundary of the rounding lies between the numbers: upward every whole number is one, otherwise every half. -/
def RoundingMode.Unparted (mode : RoundingMode) (x y : ℚ) : Prop :=
  if mode = .ceiling then ∀ m : Int, (m : ℚ) < x ↔ (m : ℚ) < y
  else ∀ k : Nat, ((k + 1 / 2 : ℚ) ≤ x ↔ (k + 1 / 2 : ℚ) ≤ y) ∧ ((k + 1 / 2 : ℚ) ≤ -x ↔ (k + 1 / 2 : ℚ) ≤ -y)

theorem RoundingMode.whole_eq_iff (mode : RoundingMode) (x y : ℚ) : mode.whole x = mode.whole y ↔ mode.Unparted x y := by
  unfold whole Unparted
  split
  · simp only [← Int.lt_ceil]
    exact ⟨fun same m => by rw [same], fun sides => le_antisymm (not_lt.mp fun more => by simpa using (sides _).mp more)
      (not_lt.mp fun more => by simpa using (sides _).mpr more)⟩
  · exact nearest_eq_iff x y

theorem feeComponent_ok (policy : ParsedFee) {fill : FillCanonical} (numeric : fill.Numeric) :
    ∃ component, feeComponent policy fill = .ok component ∧
      component.toRat = exactComponent policy fill + offGrid policy fill := by
  obtain ⟨price, isPrice⟩ := Option.isSome_iff_exists.mp numeric.1
  obtain ⟨quantity, isQuantity⟩ := Option.isSome_iff_exists.mp numeric.2
  simp only [feeComponent, ok_of_toOption isPrice, ok_of_toOption isQuantity, offGrid, exactComponent,
    denoted_of_parsed isPrice, denoted_of_parsed isQuantity]
  refine ⟨_, rfl, ?_⟩
  split
  · have divided := Decimal.toRat_divRound ((price.mul quantity).mul policy.rate) (e := .newFromInt 10000)
      (by rw [Decimal.toRat_newFromInt]; norm_num) 16
    rw [Decimal.toRat_newFromInt, Decimal.toRat_mul, Decimal.toRat_mul, Int.cast_ofNat] at divided
    rw [add_sub_cancel, eq_div_iff (by norm_num)]
    exact divided
  · simp

theorem foldlM_component (policy : ParsedFee) {fills : List FillCanonical} (numeric : ∀ fill ∈ fills, fill.Numeric)
    (start : Decimal) :
    ∃ value, fills.foldlM (fun value fill => return value.add (← feeComponent policy fill)) start = .ok value ∧
      value.toRat = start.toRat + (exactFee policy fills + (fills.map (offGrid policy)).sum) := by
  induction fills generalizing start with
  | nil => exact ⟨start, rfl, by simp [exactFee]⟩
  | cons fill rest ih =>
    obtain ⟨component, computed, isComponent⟩ := feeComponent_ok policy (numeric fill List.mem_cons_self)
    obtain ⟨value, folded, isValue⟩ := ih (fun other member => numeric other (List.mem_cons_of_mem _ member))
      (start.add component)
    refine ⟨value, ?_, ?_⟩
    · rw [List.foldlM_cons, computed]
      exact folded
    · rw [isValue, Decimal.toRat_add, isComponent, exactFee, exactFee, List.map_cons, List.sum_cons, List.map_cons,
        List.sum_cons]
      ring

theorem calculateFee_ok {policy : ParsedFee} (scale : 0 ≤ policy.input.scale) {fills : List FillCanonical}
    (numeric : ∀ fill ∈ fills, fill.Numeric) :
    ∃ fee, calculateFee policy fills = .ok fee ∧
      fee.toRat = policy.rounded (exactFee policy fills + (fills.map (offGrid policy)).sum) := by
  obtain ⟨value, folded, isValue⟩ := foldlM_component policy numeric .zero
  obtain ⟨places, isScale⟩ := Int.eq_ofNat_of_zero_le scale
  rw [Decimal.toRat_zero, zero_add] at isValue
  refine ⟨_, by rw [calculateFee, folded]; rfl, ?_⟩
  rw [ParsedFee.rounded, ← isValue, eq_div_iff (by positivity), isScale, Int.toNat_natCast, RoundingMode.whole]
  split
  · rw [Decimal.toRat_shift, Decimal.toRat_ceil, Decimal.toRat_shift, mul_assoc, ← zpow_natCast, ← zpow_add₀ (by norm_num),
      neg_add_cancel, zpow_zero, mul_one]
  · exact Decimal.toRat_round value places

theorem normalizeFees_scale {values : List FeePolicyInput} {index : Index} {fees : List ParsedFee} {policy : ParsedFee}
    (ok : normalizeFees values index = .ok fees) (member : policy ∈ fees) : 0 ≤ policy.input.scale := by
  simp only [normalizeFees, returns_iff] at ok
  obtain ⟨_, read, readOk, _, rfl⟩ := ok
  have each : ∀ sofar given next, addFee index sofar given = .ok next → ∃ fee, next = sofar ++ [fee] ∧
      0 ≤ fee.input.scale := by
    intro sofar given next passed
    unfold addFee at passed
    cases rateOk : exactDecimal given.normalized.rate with
    | error fault => simp [rateOk] at passed
    | ok rate =>
      simp only [rateOk, returns_iff, feePolicyInvalid, Bool.or_eq_false_iff, decide_eq_false_iff_not, not_lt] at passed
      obtain ⟨⟨⟨⟨⟨⟨_, scale⟩, _⟩, _⟩, _⟩, _⟩, rfl⟩ := passed
      exact ⟨_, rfl, scale⟩
  obtain ⟨rows, rfl, matched⟩ := foldlM_appends each readOk
  obtain ⟨_, _, _, _, _, scale⟩ := exists_left_of_mem matched ((mem_sortedBy _ _ _).mp member)
  exact scale

theorem ParsedFee.le_rounded {policy : ParsedFee} (upward : policy.input.rounding = .ceiling) (x : ℚ) :
    x ≤ policy.rounded x := by
  rw [rounded, RoundingMode.whole, if_pos upward, le_div_iff₀ (by positivity)]
  exact Int.le_ceil _

/-- The fee is the exact fee rounded once, and a fee rounded up is not below it, exactly where moving each share of
the notional to sixteen places moves the sum over no boundary of the rounding. -/
theorem fee_rounded_once_iff {values : List FeePolicyInput} {index : Index} {fees : List ParsedFee} {policy : ParsedFee}
    (accepted : normalizeFees values index = .ok fees) (member : policy ∈ fees) {fills : List FillCanonical}
    (numeric : ∀ fill ∈ fills, fill.Numeric) :
    ∃ fee, calculateFee policy fills = .ok fee ∧
      ((fee.toRat = policy.rounded (exactFee policy fills) ∧
          (policy.input.rounding = .ceiling → exactFee policy fills ≤ fee.toRat)) ↔
        policy.input.rounding.Unparted (exactFee policy fills * 10 ^ policy.input.scale.toNat)
          ((exactFee policy fills + (fills.map (offGrid policy)).sum) * 10 ^ policy.input.scale.toNat)) := by
  obtain ⟨fee, computed, isFee⟩ := calculateFee_ok (normalizeFees_scale accepted member) numeric
  have unit : (0 : ℚ) < 10 ^ policy.input.scale.toNat := by positivity
  have once : fee.toRat = policy.rounded (exactFee policy fills) ↔ policy.input.rounding.Unparted
      (exactFee policy fills * 10 ^ policy.input.scale.toNat)
      ((exactFee policy fills + (fills.map (offGrid policy)).sum) * 10 ^ policy.input.scale.toNat) := by
    rw [isFee, ParsedFee.rounded, ParsedFee.rounded, div_left_inj' unit.ne', Int.cast_inj, eq_comm,
      RoundingMode.whole_eq_iff]
  rw [← once]
  exact ⟨fee, computed, And.left, fun same => ⟨same, fun upward => same ▸ policy.le_rounded upward _⟩⟩

/-- Shares of at most sixteen places are not moved. -/
theorem fee_rounded_once_of_places {values : List FeePolicyInput} {index : Index} {fees : List ParsedFee} {policy : ParsedFee}
    (accepted : normalizeFees values index = .ok fees) (member : policy ∈ fees) {fills : List FillCanonical}
    (numeric : ∀ fill ∈ fills, fill.Numeric)
    (short : ∀ fill ∈ fills, ∃ units : Int, exactComponent policy fill * 10 ^ 16 = units) :
    ∃ fee, calculateFee policy fills = .ok fee ∧ fee.toRat = policy.rounded (exactFee policy fills) := by
  obtain ⟨fee, computed, isFee⟩ := calculateFee_ok (normalizeFees_scale accepted member) numeric
  have still : ∀ fill ∈ fills, offGrid policy fill = 0 := by
    intro fill inside
    obtain ⟨units, isUnits⟩ := short fill inside
    unfold offGrid
    split
    · rw [isUnits, nearest_intCast, ← isUnits, mul_div_cancel_right₀ _ (by norm_num), sub_self]
    · rfl
  rw [List.sum_eq_zero (List.forall_mem_map.mpr still), add_zero] at isFee
  exact ⟨fee, computed, isFee⟩

/-! A contract so small that its share of the notional is less than half of the sixteenth place, alone and with
another. -/

def sampleFill : FillCanonical := ⟨0, 0, "0.01", "0.000000000001", "0.00000000000001"⟩

def ordinaryFill : FillCanonical := ⟨0, 0, "0.5", "10", "5"⟩

theorem sampleFill_fee : ((manifestIndex sampleManifest).toOption.bind fun index =>
    (normalizeFees [sampleFee] index).toOption.map fun fees => fees.map fun policy =>
      (policy.input, policy.rate, (calculateFee policy [sampleFill]).toOption,
        (calculateFee policy [ordinaryFill, sampleFill]).toOption)) =
    some [(sampleFee, ⟨10, 0⟩, some ⟨0, -2⟩, some ⟨1, -2⟩)] := by decide

theorem sampleFill_read : ∃ index fees policy, manifestIndex sampleManifest = .ok index ∧
    normalizeFees [sampleFee] index = .ok fees ∧ policy ∈ fees ∧ policy.input = sampleFee ∧ policy.rate = ⟨10, 0⟩ ∧
    calculateFee policy [sampleFill] = .ok ⟨0, -2⟩ ∧ calculateFee policy [ordinaryFill, sampleFill] = .ok ⟨1, -2⟩ := by
  obtain ⟨index, isIndex, read⟩ := Option.bind_eq_some_iff.mp sampleFill_fee
  obtain ⟨fees, isFees, rows⟩ := Option.map_eq_some_iff.mp read
  obtain ⟨policy, rest, rfl, isPolicy, _⟩ := List.map_eq_cons_iff.mp rows
  simp only [Prod.mk.injEq] at isPolicy
  exact ⟨index, _, policy, ok_of_toOption isIndex, ok_of_toOption isFees, List.mem_cons_self, isPolicy.1, isPolicy.2.1,
    ok_of_toOption isPolicy.2.2.1, ok_of_toOption isPolicy.2.2.2⟩

section

variable {policy : ParsedFee} (input : policy.input = sampleFee) (rate : policy.rate = ⟨10, 0⟩)

include input

theorem rounded_sample {x : ℚ} (positive : 0 < x) (small : x ≤ 1 / 100) : policy.rounded x = 1 / 100 := by
  have cent : ⌈x * 10 ^ 2⌉ = 1 := by
    rw [Int.ceil_eq_iff]
    constructor <;> norm_num <;> linarith
  simp only [ParsedFee.rounded, RoundingMode.whole, input]
  change ((⌈x * 10 ^ 2⌉ : Int) : ℚ) / 10 ^ 2 = 1 / 100
  rw [cent]
  norm_num

include rate

theorem exactComponent_sample {fill : FillCanonical} {price quantity : Decimal}
    (isPrice : (Decimal.newFromString fill.price).toOption = some price)
    (isQuantity : (Decimal.newFromString fill.quantity).toOption = some quantity) :
    exactComponent policy fill = price.toRat * quantity.toRat / 1000 := by
  have formula : policy.input.formula = .notionalBPS := by rw [input]; rfl
  simp only [exactComponent, if_pos formula, denoted_of_parsed isPrice, denoted_of_parsed isQuantity, rate]
  norm_num [Decimal.toRat]
  ring

theorem exactComponent_tiny : exactComponent policy sampleFill = 1 / 10 ^ 17 := by
  have price : (Decimal.newFromString sampleFill.price).toOption = some ⟨1, -2⟩ := by decide
  have quantity : (Decimal.newFromString sampleFill.quantity).toOption = some ⟨1, -12⟩ := by decide
  rw [exactComponent_sample input rate price quantity]
  norm_num [Decimal.toRat]

theorem exactComponent_ordinary : exactComponent policy ordinaryFill = 1 / 200 := by
  have price : (Decimal.newFromString ordinaryFill.price).toOption = some ⟨5, -1⟩ := by decide
  have quantity : (Decimal.newFromString ordinaryFill.quantity).toOption = some ⟨10, 0⟩ := by decide
  rw [exactComponent_sample input rate price quantity]
  norm_num [Decimal.toRat]

end

/-- The fill owes a cent when rounded up, and is charged nothing. -/
theorem tiny_fill_not_charged : ∃ index fees policy fee, manifestIndex sampleManifest = .ok index ∧
    normalizeFees [sampleFee] index = .ok fees ∧ policy ∈ fees ∧ policy.input.rounding = .ceiling ∧
    calculateFee policy [sampleFill] = .ok fee ∧ fee.toRat = 0 ∧ 0 < exactFee policy [sampleFill] ∧
    policy.rounded (exactFee policy [sampleFill]) = 1 / 100 := by
  obtain ⟨index, fees, policy, isIndex, isFees, member, input, rate, computed, _⟩ := sampleFill_read
  have exact : exactFee policy [sampleFill] = 1 / 10 ^ 17 := by simp [exactFee, exactComponent_tiny input rate]
  refine ⟨index, fees, policy, _, isIndex, isFees, member, by rw [input]; rfl, computed, by simp [Decimal.toRat], ?_, ?_⟩
  · rw [exact]
    norm_num
  · rw [exact, rounded_sample input (by norm_num) (by norm_num)]

/-- Beside the other the small share moves, but over no boundary. -/
theorem two_fills_rounded_once : ∃ index fees policy fee, manifestIndex sampleManifest = .ok index ∧
    normalizeFees [sampleFee] index = .ok fees ∧ policy ∈ fees ∧
    calculateFee policy [ordinaryFill, sampleFill] = .ok fee ∧ fee.toRat = 1 / 100 ∧
    policy.input.rounding.Unparted (exactFee policy [ordinaryFill, sampleFill] * 10 ^ policy.input.scale.toNat)
      ((exactFee policy [ordinaryFill, sampleFill] + ([ordinaryFill, sampleFill].map (offGrid policy)).sum) *
        10 ^ policy.input.scale.toNat) := by
  obtain ⟨index, fees, policy, isIndex, isFees, member, input, rate, _, charged⟩ := sampleFill_read
  have numeric : ∀ fill ∈ [ordinaryFill, sampleFill], fill.Numeric := by
    simp only [List.forall_mem_cons, FillCanonical.Numeric]
    exact ⟨⟨by decide, by decide⟩, ⟨by decide, by decide⟩, by simp⟩
  have exact : exactFee policy [ordinaryFill, sampleFill] = 1 / 200 + 1 / 10 ^ 17 := by
    simp [exactFee, exactComponent_tiny input rate, exactComponent_ordinary input rate]
  obtain ⟨fee, computed, once⟩ := fee_rounded_once_iff isFees member numeric
  have cent : fee.toRat = 1 / 100 := by
    rw [← Except.ok.inj (charged.symm.trans computed)]
    norm_num [Decimal.toRat]
  refine ⟨index, fees, policy, fee, isIndex, isFees, member, computed, cent, once.mp ⟨?_, fun _ => ?_⟩⟩
  · rw [cent, exact, rounded_sample input (by norm_num) (by norm_num)]
  · rw [cent, exact]
    norm_num

end Augr.Predictionreplay
