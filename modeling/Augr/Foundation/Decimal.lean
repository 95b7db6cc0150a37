import Mathlib.Data.Rat.Cast.Order
import Mathlib.Tactic.FieldSimp
import Mathlib.Tactic.Positivity
import Mathlib.Tactic.Ring

/-! Arbitrary-precision decimals `value * 10 ^ exp`.

Two decimals may denote the same number with different exponents. Arithmetic
and comparison are described by the denoted rational; `NumDigits` and
`Exponent` read the representation. Exponents are unbounded here.
-/

set_option autoImplicit false

namespace Augr.Foundation

structure Decimal where
  (value exp : Int)
  deriving DecidableEq, Repr, Inhabited

namespace Decimal

def toRat (d : Decimal) : ℚ := d.value * (10 : ℚ) ^ d.exp

/-- The package constant is stored with exponent one. -/
def zero : Decimal := ⟨0, 1⟩

/-- The value of an uninitialised decimal field. -/
def unset : Decimal := ⟨0, 0⟩

def newFromInt (value : Int) : Decimal := ⟨value, 0⟩

/-- Change the exponent; raising it truncates towards zero. -/
def rescale (d : Decimal) (exp : Int) : Decimal :=
  if d.exp < exp then ⟨d.value.tdiv (10 ^ (exp - d.exp).toNat), exp⟩
  else ⟨d.value * 10 ^ (d.exp - exp).toNat, exp⟩

def rescalePair (d e : Decimal) : Decimal × Decimal :=
  if d.exp < e.exp then (d, e.rescale d.exp) else (d.rescale e.exp, e)

def add (d e : Decimal) : Decimal :=
  let pair := rescalePair d e
  ⟨pair.1.value + pair.2.value, pair.1.exp⟩

def sub (d e : Decimal) : Decimal :=
  let pair := rescalePair d e
  ⟨pair.1.value - pair.2.value, pair.1.exp⟩

def mul (d e : Decimal) : Decimal := ⟨d.value * e.value, d.exp + e.exp⟩

def neg (d : Decimal) : Decimal := ⟨-d.value, d.exp⟩

def abs (d : Decimal) : Decimal := ⟨(d.value.natAbs : Int), d.exp⟩

def sign (d : Decimal) : Int := d.value.sign

def isZero (d : Decimal) : Bool := d.sign == 0

def isPositive (d : Decimal) : Bool := d.sign == 1

def isNegative (d : Decimal) : Bool := d.sign == -1

def cmp (d e : Decimal) : Ordering :=
  let pair := rescalePair d e
  compare pair.1.value pair.2.value

def equal (d e : Decimal) : Bool := d.cmp e == .eq

def lessThan (d e : Decimal) : Bool := d.cmp e == .lt

def greaterThan (d e : Decimal) : Bool := d.cmp e == .gt

def min (d e : Decimal) : Decimal := if e.lessThan d then e else d

/-- Quotient at the given precision and the remainder `d - q * e`. -/
def quoRem (d e : Decimal) (precision : Int) : Decimal × Decimal :=
  let shift := d.exp - e.exp + precision
  if shift < 0 then
    let divisor := e.value * 10 ^ (-shift).toNat
    (⟨d.value.tdiv divisor, -precision⟩, ⟨d.value.tmod divisor, d.exp⟩)
  else
    let dividend := d.value * 10 ^ shift.toNat
    (⟨dividend.tdiv e.value, -precision⟩, ⟨dividend.tmod e.value, e.exp - precision⟩)

/-- Division rounded half away from zero; callers exclude a zero divisor. -/
def divRound (d e : Decimal) (precision : Int) : Decimal :=
  let (quotient, remainder) := d.quoRem e precision
  let doubled : Decimal := ⟨2 * (remainder.value.natAbs : Int), remainder.exp + precision⟩
  if doubled.lessThan e.abs then quotient
  else if d.sign * e.sign < 0 then quotient.sub ⟨1, -precision⟩
  else quotient.add ⟨1, -precision⟩

/-- The package divides at sixteen places. -/
def div (d e : Decimal) : Decimal := d.divRound e 16

theorem exp_div (d e : Decimal) : (d.div e).exp = -16 := by
  have quotient : (d.quoRem e 16).1.exp = -16 := by
    simp only [quoRem]
    split <;> rfl
  simp only [div, divRound]
  split
  · exact quotient
  · split
    all_goals simp [sub, add, rescalePair, rescale, quotient]

def mod (d e : Decimal) : Decimal := (d.quoRem e 0).2

def round (d : Decimal) (places : Int) : Decimal :=
  if d.exp = -places then d
  else
    let wide := (d.rescale (-places - 1)).value
    let shifted := if wide < 0 then wide - 5 else wide + 5
    ⟨shifted.tdiv 10, -places⟩

def numDigits (d : Decimal) : Int := (Nat.toDigits 10 d.value.natAbs).length

def exponent (d : Decimal) : Int := d.exp

def trimZeros (digits : List Char) : List Char :=
  (digits.reverse.dropWhile (· == '0')).reverse

/-- Plain notation without trailing fractional zeros. -/
def toText (d : Decimal) : String :=
  let digits := Nat.toDigits 10 d.value.natAbs
  let negative := if d.value < 0 then ['-'] else []
  if 0 ≤ d.exp then
    String.ofList (negative ++ Nat.toDigits 10 (d.value.natAbs * 10 ^ d.exp.toNat))
  else
    let places := (-d.exp).toNat
    let padded := List.replicate (places + 1 - digits.length) '0' ++ digits
    let whole := padded.take (padded.length - places)
    let fraction := trimZeros (padded.drop (padded.length - places))
    String.ofList (negative ++ whole ++ if fraction.isEmpty then [] else '.' :: fraction)

private theorem ten_zpow_pos (exp : Int) : (0 : ℚ) < (10 : ℚ) ^ exp :=
  zpow_pos (by norm_num) exp

theorem zpow_toNat {exponent : Int} (above : 0 ≤ exponent) : (10 : ℚ) ^ exponent.toNat = 10 ^ exponent := by
  rw [← zpow_natCast, Int.toNat_of_nonneg above]

theorem toRat_of_nonneg {d : Decimal} (above : 0 ≤ d.exp) : d.toRat = ((d.value * 10 ^ d.exp.toNat : Int) : ℚ) := by
  push_cast
  rw [toRat, zpow_toNat above]

theorem toRat_of_neg {d : Decimal} (below : d.exp < 0) : d.toRat = d.value / 10 ^ (-d.exp).toNat := by
  rw [zpow_toNat (by omega), zpow_neg, div_inv_eq_mul, toRat]

theorem toRat_rescale_of_le (d : Decimal) {exp : Int} (below : exp ≤ d.exp) :
    (d.rescale exp).toRat = d.toRat := by
  rw [rescale, if_neg (not_lt.mpr below), toRat, toRat]
  push_cast
  rw [zpow_toNat (sub_nonneg.mpr below), mul_assoc, ← zpow_add₀ (by norm_num), sub_add_cancel]

theorem rescalePair_spec (d e : Decimal) :
    (rescalePair d e).1.toRat = d.toRat ∧ (rescalePair d e).2.toRat = e.toRat ∧
      (rescalePair d e).1.exp = (rescalePair d e).2.exp := by
  by_cases below : d.exp < e.exp
  · simp only [rescalePair, below, if_true]
    refine ⟨trivial, toRat_rescale_of_le e (le_of_lt below), ?_⟩
    simp [rescale, not_lt.mpr (le_of_lt below)]
  · simp only [rescalePair, below, if_false]
    refine ⟨toRat_rescale_of_le d (not_lt.mp below), trivial, ?_⟩
    simp [rescale, below]

@[simp] theorem toRat_add (d e : Decimal) : (d.add e).toRat = d.toRat + e.toRat := by
  obtain ⟨first, second, shared⟩ := rescalePair_spec d e
  rw [← first, ← second]
  simp only [add, toRat, ← shared]
  push_cast
  ring

@[simp] theorem toRat_sub (d e : Decimal) : (d.sub e).toRat = d.toRat - e.toRat := by
  obtain ⟨first, second, shared⟩ := rescalePair_spec d e
  rw [← first, ← second]
  simp only [sub, toRat, ← shared]
  push_cast
  ring

@[simp] theorem toRat_mul (d e : Decimal) : (d.mul e).toRat = d.toRat * e.toRat := by
  simp only [mul, toRat, zpow_add₀ (by norm_num : (10 : ℚ) ≠ 0)]
  push_cast
  ring

@[simp] theorem toRat_neg (d : Decimal) : d.neg.toRat = -d.toRat := by
  simp [neg, toRat]

@[simp] theorem toRat_abs (d : Decimal) : d.abs.toRat = |d.toRat| := by
  simp [abs, toRat, abs_mul, abs_of_pos (ten_zpow_pos d.exp), ← Int.cast_abs]

@[simp] theorem toRat_zero : zero.toRat = 0 := by simp [zero, toRat]

@[simp] theorem toRat_unset : unset.toRat = 0 := by simp [unset, toRat]

@[simp] theorem toRat_newFromInt (value : Int) : (newFromInt value).toRat = value := by
  simp [newFromInt, toRat]

theorem toRat_pos_iff (d : Decimal) : 0 < d.toRat ↔ 0 < d.value := by
  simp [toRat, mul_pos_iff_of_pos_right (ten_zpow_pos d.exp)]

theorem toRat_neg_iff (d : Decimal) : d.toRat < 0 ↔ d.value < 0 := by
  simp [toRat, mul_neg_iff, ten_zpow_pos d.exp, not_lt.mpr (le_of_lt (ten_zpow_pos d.exp))]

theorem toRat_eq_zero_iff (d : Decimal) : d.toRat = 0 ↔ d.value = 0 := by
  simp [toRat, (ten_zpow_pos d.exp).ne']

@[simp] theorem isZero_iff (d : Decimal) : d.isZero = true ↔ d.toRat = 0 := by
  simp [isZero, sign, toRat_eq_zero_iff]

@[simp] theorem isPositive_iff (d : Decimal) : d.isPositive = true ↔ 0 < d.toRat := by
  simp [isPositive, sign, toRat_pos_iff]

@[simp] theorem isNegative_iff (d : Decimal) : d.isNegative = true ↔ d.toRat < 0 := by
  simp [isNegative, sign, toRat_neg_iff]

@[simp] theorem isZero_eq_false_iff (d : Decimal) : d.isZero = false ↔ d.toRat ≠ 0 := by
  rw [← Bool.not_eq_true, isZero_iff]

@[simp] theorem isNegative_eq_false_iff (d : Decimal) : d.isNegative = false ↔ 0 ≤ d.toRat := by
  rw [← Bool.not_eq_true, isNegative_iff, not_lt]

theorem sign_of_pos {d : Decimal} (above : 0 < d.toRat) : d.sign = 1 :=
  Int.sign_eq_one_of_pos ((toRat_pos_iff d).mp above)

theorem sign_of_neg {d : Decimal} (below : d.toRat < 0) : d.sign = -1 :=
  Int.sign_eq_neg_one_of_neg ((toRat_neg_iff d).mp below)

/-- The program compares signs of nonzero decimals: they agree exactly when the product is positive. -/
theorem sign_eq_iff {d e : Decimal} (first : d.toRat ≠ 0) (second : e.toRat ≠ 0) :
    d.sign = e.sign ↔ 0 < d.toRat * e.toRat := by
  rcases lt_or_gt_of_ne first with below | above <;> rcases lt_or_gt_of_ne second with below' | above'
  · simp [sign_of_neg below, sign_of_neg below', mul_pos_of_neg_of_neg below below']
  · simp [sign_of_neg below, sign_of_pos above', le_of_lt (mul_neg_of_neg_of_pos below above')]
  · simp [sign_of_pos above, sign_of_neg below', le_of_lt (mul_neg_of_pos_of_neg above below')]
  · simp [sign_of_pos above, sign_of_pos above', mul_pos above above']

private theorem cmp_spec (d e : Decimal) :
    d.cmp e = compare d.toRat e.toRat := by
  obtain ⟨first, second, shared⟩ := rescalePair_spec d e
  rw [← first, ← second]
  simp only [cmp, toRat, ← shared]
  have scale := ten_zpow_pos (rescalePair d e).1.exp
  rcases lt_trichotomy (rescalePair d e).1.value (rescalePair d e).2.value with below | same | above
  · rw [compare_lt_iff_lt.mpr below, eq_comm, compare_lt_iff_lt]
    exact mul_lt_mul_of_pos_right (by exact_mod_cast below) scale
  · rw [same]
    simp
  · rw [compare_gt_iff_gt.mpr above, eq_comm, compare_gt_iff_gt]
    exact mul_lt_mul_of_pos_right (by exact_mod_cast above) scale

@[simp] theorem equal_iff (d e : Decimal) : d.equal e = true ↔ d.toRat = e.toRat := by
  simp [equal, cmp_spec]

@[simp] theorem lessThan_iff (d e : Decimal) : d.lessThan e = true ↔ d.toRat < e.toRat := by
  simp [lessThan, cmp_spec, compare_lt_iff_lt]

@[simp] theorem greaterThan_iff (d e : Decimal) : d.greaterThan e = true ↔ e.toRat < d.toRat := by
  simp [greaterThan, cmp_spec, compare_gt_iff_gt]

@[simp] theorem greaterThan_eq_false_iff (d e : Decimal) :
    d.greaterThan e = false ↔ d.toRat ≤ e.toRat := by
  rw [← Bool.not_eq_true, greaterThan_iff, not_lt]

@[simp] theorem toRat_min (d e : Decimal) : (d.min e).toRat = Min.min d.toRat e.toRat := by
  unfold min
  by_cases below : e.lessThan d = true
  · have less := (lessThan_iff e d).mp below
    simp [below, min_eq_right (le_of_lt less)]
  · have notLess : d.toRat ≤ e.toRat := not_lt.mp (fun less => below ((lessThan_iff e d).mpr less))
    simp [below, min_eq_left notLess]

example : ((⟨1, 0⟩ : Decimal).div ⟨3, 0⟩).round 12 = ⟨333333333333, -12⟩ := by decide

end Decimal

end Augr.Foundation
