import Augr.Foundation.Decimal
import Mathlib.Data.Rat.Floor

/-! Rounding to a number of decimal places, described by the denoted number. -/

set_option autoImplicit false

namespace Augr.Foundation

/-- The nearest whole number, the one further from zero where two are as near. -/
def nearest (x : ℚ) : Int := if x < 0 then -⌊-x + 1 / 2⌋ else ⌊x + 1 / 2⌋

theorem nearest_neg (x : ℚ) : nearest (-x) = -nearest x := by
  rcases lt_trichotomy x 0 with below | rfl | above
  · rw [nearest, nearest, if_neg (by linarith), if_pos below, neg_neg]
  · norm_num [nearest]
  · rw [nearest, nearest, if_pos (by linarith), if_neg (by linarith), neg_neg]

theorem nearest_of_nonneg {x : ℚ} (above : 0 ≤ x) : nearest x = ⌊x + 1 / 2⌋ := if_neg (not_lt.mpr above)

theorem nearest_intCast (whole : Int) : nearest whole = whole := by
  unfold nearest
  split
  · rw [← Int.cast_neg, Int.floor_intCast_add]
    norm_num
  · rw [Int.floor_intCast_add]
    norm_num

theorem nearest_mono {x y : ℚ} (below : x ≤ y) : nearest x ≤ nearest y := by
  unfold nearest
  split <;> split
  · exact Int.neg_le_neg (Int.floor_le_floor (by linarith))
  · have first : 0 ≤ ⌊-x + 1 / 2⌋ := Int.floor_nonneg.mpr (by linarith)
    have second : 0 ≤ ⌊y + 1 / 2⌋ := Int.floor_nonneg.mpr (by linarith)
    omega
  · linarith
  · exact Int.floor_le_floor (by linarith)

theorem lt_nearest_iff (k : Nat) (x : ℚ) : (k : Int) < nearest x ↔ k + 1 / 2 ≤ x := by
  rcases lt_or_ge x 0 with below | above
  · have least : 0 ≤ ⌊-x + 1 / 2⌋ := Int.floor_nonneg.mpr (by linarith)
    rw [nearest, if_pos below]
    constructor
    · intro passed
      omega
    · intro reached
      linarith [(Nat.cast_nonneg k : (0 : ℚ) ≤ k)]
  · rw [nearest_of_nonneg above, Int.lt_iff_add_one_le, Int.le_floor]
    push_cast
    constructor <;> intro reached <;> linarith

/-- Two numbers round to the same exactly when they lie on the same side of every half. -/
theorem nearest_eq_iff (x y : ℚ) :
    nearest x = nearest y ↔
      ∀ k : Nat, ((k + 1 / 2 : ℚ) ≤ x ↔ (k + 1 / 2 : ℚ) ≤ y) ∧ ((k + 1 / 2 : ℚ) ≤ -x ↔ (k + 1 / 2 : ℚ) ≤ -y) := by
  simp only [← lt_nearest_iff, nearest_neg]
  constructor
  · intro same k
    rw [same]
    exact ⟨Iff.rfl, Iff.rfl⟩
  · intro sides
    have above (k : Nat) := (sides k).1
    have below (k : Nat) := (sides k).2
    rcases lt_trichotomy (nearest x) (nearest y) with less | same | more
    · by_cases positive : 0 < nearest y
      · have := above (nearest y - 1).toNat
        omega
      · have := below (-nearest x - 1).toNat
        omega
    · exact same
    · by_cases positive : 0 < nearest x
      · have := above (nearest x - 1).toNat
        omega
      · have := below (-nearest y - 1).toNat
        omega

theorem nearest_div {a b : Int} (above : 0 ≤ a) (positive : 0 < b) : nearest (a / b) = (2 * a + b) / (2 * b) := by
  have divisor : (0 : ℚ) < b := by exact_mod_cast positive
  have half : (a / b + 1 / 2 : ℚ) = ((2 * a + b : Int) : ℚ) / ((2 * b).toNat : ℚ) := by
    have cast : (((2 * b).toNat : Nat) : ℚ) = 2 * b := by
      have same : (((2 * b).toNat : Nat) : Int) = 2 * b := Int.toNat_of_nonneg (by omega)
      exact_mod_cast congrArg (Int.cast : Int → ℚ) same
    rw [cast]
    push_cast
    field_simp
  have quotient : (0 : ℚ) ≤ a / b := div_nonneg (by exact_mod_cast above) divisor.le
  rw [nearest_of_nonneg quotient, half, Rat.floor_intCast_div_natCast, Int.toNat_of_nonneg (by omega)]

namespace Decimal

def truncate (d : Decimal) (places : Int) : Decimal :=
  if 0 ≤ places ∧ d.exp < -places then d.rescale (-places) else d

def roundCeil (d : Decimal) (places : Int) : Decimal :=
  if -places ≤ d.exp then d
  else
    let rescaled := d.rescale (-places)
    if d.equal rescaled then d
    else if 0 < d.value then ⟨rescaled.value + 1, rescaled.exp⟩
    else rescaled

def roundFloor (d : Decimal) (places : Int) : Decimal :=
  if -places ≤ d.exp then d
  else
    let rescaled := d.rescale (-places)
    if d.equal rescaled then d
    else if d.value < 0 then ⟨rescaled.value - 1, rescaled.exp⟩
    else rescaled

def floor (d : Decimal) : Decimal :=
  if 0 ≤ d.exp then d else ⟨d.value / 10 ^ (-d.exp).toNat, 0⟩

def ceil (d : Decimal) : Decimal :=
  if 0 ≤ d.exp then d
  else
    let unit := 10 ^ (-d.exp).toNat
    ⟨d.value / unit + (if d.value % unit = 0 then 0 else 1), 0⟩

def shift (d : Decimal) (places : Int) : Decimal := ⟨d.value, d.exp + places⟩

theorem toRat_shift (d : Decimal) (places : Int) : (d.shift places).toRat = d.toRat * 10 ^ places := by
  rw [shift, toRat, toRat, zpow_add₀ (by norm_num), mul_assoc]

theorem toRat_of_le {d : Decimal} {places : Nat} (above : -(places : Int) ≤ d.exp) :
    d.toRat * 10 ^ places = ((d.value * 10 ^ (d.exp + places).toNat : Int) : ℚ) := by
  rw [← zpow_natCast, ← toRat_shift]
  exact toRat_of_nonneg (show 0 ≤ d.exp + places by omega)

theorem toRat_of_lt {d : Decimal} {places : Nat} (below : d.exp < -(places : Int)) :
    d.toRat * 10 ^ places = (d.value : ℚ) / ((10 ^ (-(places : Int) - d.exp).toNat : Nat) : ℚ) := by
  rw [← zpow_natCast, ← toRat_shift, toRat_of_neg (show d.exp + places < 0 by omega), sub_eq_add_neg, ← neg_add_rev]
  push_cast
  rfl

theorem toRat_whole (whole : Int) (places : Nat) : (⟨whole, -(places : Int)⟩ : Decimal).toRat * 10 ^ places = whole := by
  rw [toRat, zpow_neg, zpow_natCast, mul_assoc, inv_mul_cancel₀ (by positivity), mul_one]

theorem toRat_eq_iff_scaled {d e : Decimal} (places : Nat) :
    d.toRat = e.toRat ↔ d.toRat * 10 ^ places = e.toRat * 10 ^ places :=
  (mul_left_inj' (by positivity)).symm

theorem rescale_of_lt {d : Decimal} {exp : Int} (below : d.exp < exp) :
    d.rescale exp = ⟨d.value.tdiv (10 ^ (exp - d.exp).toNat), exp⟩ := by
  rw [rescale, if_pos below]

theorem ceil_div (value : Int) {unit : Nat} (positive : 0 < unit) :
    ⌈(value : ℚ) / (unit : ℚ)⌉ = value / unit + if (unit : Int) ∣ value then 0 else 1 := by
  rw [Rat.ceil_intCast_div_natCast, Int.neg_ediv, Int.sign_eq_one_of_pos (by omega)]
  omega

theorem toRat_roundCeil (d : Decimal) (places : Nat) :
    (d.roundCeil places).toRat * 10 ^ places = ⌈d.toRat * 10 ^ places⌉ := by
  unfold roundCeil
  split
  · rename_i above
    rw [toRat_of_le above, Int.ceil_intCast]
  · rename_i below
    have low : d.exp < -(places : Int) := by omega
    rw [rescale_of_lt low]
    dsimp only
    generalize isUnit : (-(places : Int) - d.exp).toNat = digits
    have number : d.toRat * 10 ^ places = (d.value : ℚ) / ((10 ^ digits : Nat) : ℚ) := by rw [toRat_of_lt low, isUnit]
    split
    · rename_i same
      rw [equal_iff, toRat_eq_iff_scaled places, toRat_whole] at same
      rw [same, Int.ceil_intCast]
    · rename_i different
      rw [equal_iff, toRat_eq_iff_scaled places, toRat_whole, number] at different
      have left : ¬ ((10 ^ digits : Nat) : Int) ∣ d.value := by
        rintro ⟨k, multiple⟩
        rw [multiple] at different
        push_cast at different
        rw [Int.mul_tdiv_cancel_left _ (by positivity)] at different
        exact different (mul_div_cancel_left₀ _ (by positivity))
      rw [number, ceil_div _ (by positivity), if_neg left]
      push_cast at left ⊢
      split
      · rename_i positive
        rw [toRat_whole, Int.tdiv_eq_ediv_of_nonneg positive.le, Int.cast_add, Int.cast_one]
      · rename_i nonpositive
        have negative : ¬ 0 ≤ d.value := fun nonneg => left ⟨0, by omega⟩
        rw [toRat_whole, Int.tdiv_eq_ediv, if_neg (by tauto), Int.sign_eq_one_of_pos (by positivity), Int.cast_add, Int.cast_one]

theorem toRat_ceil (d : Decimal) : d.ceil.toRat = ⌈d.toRat⌉ := by
  unfold ceil
  split
  · rename_i above
    rw [toRat_of_nonneg above, Int.ceil_intCast]
  · rename_i below
    have unit : ((10 ^ (-d.exp).toNat : Nat) : ℚ) = 10 ^ (-d.exp).toNat := by push_cast; rfl
    dsimp only
    rw [toRat_of_neg (not_le.mp below), ← unit, ceil_div _ (by positivity), toRat, zpow_zero, mul_one]
    push_cast
    simp only [Int.dvd_iff_emod_eq_zero]

theorem tdiv_rounds (value unit : Int) (positive : 0 < unit) :
    ((if value.tdiv unit < 0 then value.tdiv unit - 5 else value.tdiv unit + 5).tdiv 10 : Int) =
      nearest (value / (unit * 10 : Int)) := by
  have natural (value : Int) (above : 0 ≤ value) : (value.tdiv unit + 5).tdiv 10 = nearest (value / (unit * 10 : Int)) := by
    rw [nearest_div above (by omega), Int.tdiv_eq_ediv_of_nonneg above,
      Int.tdiv_eq_ediv_of_nonneg (by have := Int.ediv_nonneg above positive.le; omega)]
    have cut : (2 * value + unit * 10) / (2 * (unit * 10)) = (value + 5 * unit) / unit / 10 := by
      rw [Int.ediv_ediv_of_nonneg (by omega), show 2 * value + unit * 10 = 2 * (value + 5 * unit) by ring,
        Int.mul_ediv_mul_of_pos _ _ (by decide)]
    rw [cut, Int.add_mul_ediv_right _ _ positive.ne']
  rcases lt_or_ge value 0 with below | above
  · have mirrored := natural (-value) (by omega)
    rw [Int.neg_tdiv, Int.cast_neg, neg_div, nearest_neg] at mirrored
    have low : value.tdiv unit ≤ 0 := by
      have := Int.tdiv_nonneg (a := -value) (b := unit) (by omega) positive.le
      rw [Int.neg_tdiv] at this
      omega
    split
    · rw [← neg_neg (nearest _), ← mirrored, ← Int.neg_tdiv]
      congr 1
      omega
    · rename_i none
      have zero : value.tdiv unit = 0 := by omega
      rw [zero, show (-(0 : Int) + 5).tdiv 10 = 0 by decide] at mirrored
      rw [zero, show ((0 : Int) + 5).tdiv 10 = 0 by decide]
      omega
  · rw [if_neg (not_lt.mpr (Int.tdiv_nonneg above positive.le)), natural value above]

theorem toRat_round (d : Decimal) (places : Nat) :
    (d.round places).toRat * 10 ^ places = nearest (d.toRat * 10 ^ places) := by
  unfold round
  split
  · rename_i exact_
    have number : d.toRat * 10 ^ places = d.value := by
      rw [toRat_of_le (by omega), show (d.exp + places).toNat = 0 by omega, pow_zero, mul_one]
    rw [number, nearest_intCast]
  · dsimp only
    rw [toRat_whole, Int.cast_inj]
    rcases lt_or_ge d.exp (-(places : Int) - 1) with low | high
    · rw [rescale_of_lt low, tdiv_rounds _ _ (by positivity), toRat_of_lt (by omega)]
      congr 2
      rw [show (-(places : Int) - d.exp).toNat = (-(places : Int) - 1 - d.exp).toNat + 1 by omega, pow_succ]
      push_cast
      rfl
    · have kept : (d.rescale (-(places : Int) - 1)).value = (d.rescale (-(places : Int) - 1)).value.tdiv 1 :=
        (Int.tdiv_one _).symm
      rw [kept, tdiv_rounds _ 1 (by decide)]
      congr 1
      have same := toRat_rescale_of_le d high
      have digits : (d.rescale (-(places : Int) - 1)).value = d.toRat * 10 ^ (places + 1) := by
        rw [← same, ← toRat_whole _ (places + 1)]
        congr 2
        rw [rescale, if_neg (not_lt.mpr high), Nat.cast_add, Nat.cast_one, neg_add']
      rw [digits, pow_succ]
      push_cast
      ring

theorem tdiv_nearest (a : Int) {b : Int} (positive : 0 < b) :
    (if 2 * ((a.tmod b).natAbs : Int) < b then a.tdiv b else if a < 0 then a.tdiv b - 1 else a.tdiv b + 1) =
      nearest (a / b) := by
  have natural (a : Int) (above : 0 ≤ a) :
      (if 2 * ((a.tmod b).natAbs : Int) < b then a.tdiv b else a.tdiv b + 1) = nearest (a / b) := by
    have left := Int.emod_nonneg a positive.ne'
    have short := Int.emod_lt_of_pos a positive
    have whole := Int.mul_ediv_add_emod a b
    rw [nearest_div above positive, Int.tdiv_eq_ediv_of_nonneg above, Int.tmod_eq_emod_of_nonneg above,
      show 2 * a + b = 2 * (a % b) + b + 2 * b * (a / b) by linarith [whole], Int.add_mul_ediv_left _ _ (by omega)]
    have carry : (2 * (a % b) + b) / (2 * b) = if 2 * (a % b) < b then 0 else 1 := by
      split
      · exact Int.ediv_eq_zero_of_lt (by omega) (by omega)
      · rw [Int.ediv_eq_iff_of_pos (by omega)]
        omega
    rw [carry, Int.natAbs_of_nonneg left]
    split <;> omega
  rcases lt_or_ge a 0 with below | above
  · have mirrored := natural (-a) (by omega)
    rw [Int.neg_tdiv, Int.neg_tmod, Int.natAbs_neg, Int.cast_neg, neg_div, nearest_neg] at mirrored
    rw [if_pos below]
    split at mirrored <;> split <;> omega
  · rw [if_neg (not_lt.mpr above), natural a above]

theorem quoRem_whole (d : Decimal) {e : Decimal} (positive : 0 < e.toRat) (places : Nat) :
    ∃ a b : Int, 0 < b ∧ (d.quoRem e places).1 = ⟨a.tdiv b, -(places : Int)⟩ ∧ (d.quoRem e places).2.value = a.tmod b ∧
      b * (10 : ℚ) ^ ((d.quoRem e places).2.exp + places) = e.toRat ∧ a / b = d.toRat / e.toRat * 10 ^ places ∧
      (a < 0 ↔ d.value < 0) := by
  have divisor := (toRat_pos_iff e).mp positive
  rcases lt_or_ge (d.exp - e.exp + places) 0 with low | high
  · refine ⟨d.value, e.value * 10 ^ (-(d.exp - e.exp + places)).toNat, by positivity, ?_⟩
    simp only [quoRem, if_pos low, true_and, and_true]
    push_cast
    rw [zpow_toNat (by omega), toRat, toRat, ← zpow_natCast (10 : ℚ) places]
    constructor
    · rw [mul_assoc, ← zpow_add₀ (by norm_num)]
      congr 2
      omega
    · have split : (10 : ℚ) ^ (-(d.exp - e.exp + (places : Int))) * 10 ^ d.exp * 10 ^ (places : Int) = 10 ^ e.exp := by
        rw [← zpow_add₀ (by norm_num), ← zpow_add₀ (by norm_num)]
        congr 1
        omega
      rw [← split]
      field_simp
  · refine ⟨d.value * 10 ^ (d.exp - e.exp + places).toNat, e.value, divisor, ?_⟩
    simp only [quoRem, if_neg (not_lt.mpr high), true_and]
    push_cast
    rw [zpow_toNat high, toRat, toRat, ← zpow_natCast (10 : ℚ) places]
    refine ⟨?_, ?_, ?_⟩
    · rw [sub_add_cancel]
    · have split : (10 : ℚ) ^ (d.exp - e.exp + (places : Int)) * 10 ^ e.exp = 10 ^ d.exp * 10 ^ (places : Int) := by
        rw [← zpow_add₀ (by norm_num), ← zpow_add₀ (by norm_num)]
        congr 1
        omega
      field_simp
      rw [mul_assoc, split, mul_assoc]
    · rw [← not_le, mul_nonneg_iff_of_pos_right (by positivity), not_le]

theorem toRat_divRound (d : Decimal) {e : Decimal} (positive : 0 < e.toRat) (places : Nat) :
    (d.divRound e places).toRat * 10 ^ places = nearest (d.toRat / e.toRat * 10 ^ places) := by
  obtain ⟨a, b, divisor, quotient, remainder, unit, ratio, negative⟩ := quoRem_whole d positive places
  rw [← ratio, ← tdiv_nearest a divisor]
  have short : (⟨2 * ((d.quoRem e places).2.value.natAbs : Int), (d.quoRem e places).2.exp + places⟩ :
      Decimal).lessThan e.abs = true ↔
      2 * ((a.tmod b).natAbs : Int) < b := by
    rw [lessThan_iff, toRat_abs, abs_of_pos positive, ← unit, toRat, remainder]
    dsimp only
    rw [mul_lt_mul_iff_left₀ (zpow_pos (by norm_num) _)]
    exact Int.cast_lt
  have signs : d.sign * e.sign < 0 ↔ a < 0 := by
    rw [sign, sign, Int.sign_eq_one_of_pos ((toRat_pos_iff e).mp positive), mul_one, Int.sign_neg_iff, negative]
  unfold divRound
  simp only [short, signs, quotient]
  split
  · exact toRat_whole _ _
  · split
    · rw [toRat_sub, sub_mul, toRat_whole, toRat_whole]
      push_cast
      ring
    · rw [toRat_add, add_mul, toRat_whole, toRat_whole]
      push_cast
      ring

end Decimal

end Augr.Foundation
