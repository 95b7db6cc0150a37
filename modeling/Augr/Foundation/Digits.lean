import Augr.Foundation.Text

/-! Reading decimal digits back from the text that `Nat.toDigits` writes. -/

set_option autoImplicit false

namespace Augr.Foundation

/-- A nonempty run of decimal digits; leading zeros are allowed. -/
def parseNat (text : List Char) : Option Nat :=
  if !text.isEmpty && text.all Char.isDigit then some (Nat.ofDigitChars 10 text 0) else none

/-- An optional sign and digits, as `strconv.ParseInt` reads base ten. -/
def parseInt (text : List Char) : Option Int :=
  match text with
  | '-' :: digits => (parseNat digits).map fun value => -Int.ofNat value
  | '+' :: digits => (parseNat digits).map Int.ofNat
  | digits => (parseNat digits).map Int.ofNat

def intDigits (value : Int) : List Char := (if value < 0 then ['-'] else []) ++ Nat.toDigits 10 value.natAbs

theorem isDigit_toDigits {c : Char} {value : Nat} (member : c ∈ Nat.toDigits 10 value) : c.isDigit = true :=
  Nat.isDigit_of_mem_toDigits (by decide) (by decide) member

theorem isDigit_ne {c mark : Char} (digit : c.isDigit = true) (other : mark.isDigit = false) : c ≠ mark := by
  rintro rfl
  rw [digit] at other
  cases other

theorem isSpace_of_isDigit {c : Char} (digit : c.isDigit = true) : Text.isSpace c = false := by
  simp only [Char.isDigit, Bool.and_eq_true, decide_eq_true_eq] at digit
  have low : 48 ≤ c.toNat := digit.1
  have high : c.toNat ≤ 57 := digit.2
  simp only [Text.isSpace, Bool.or_eq_false_iff, Bool.and_eq_false_iff, decide_eq_false_iff_not, beq_eq_false_iff_ne]
  omega

theorem parseNat_eq {text : List Char} (nonempty : text ≠ []) (digits : ∀ c ∈ text, c.isDigit = true) :
    parseNat text = some (Nat.ofDigitChars 10 text 0) := by
  rw [parseNat, if_pos]
  simpa [nonempty] using digits

theorem isDigit_of_mem_zeros {zeros value : Nat} {c : Char} (member : c ∈ List.replicate zeros '0' ++ Nat.toDigits 10 value) :
    c.isDigit = true := by
  rcases List.mem_append.mp member with zero | digit
  · rw [List.eq_of_mem_replicate zero]
    rfl
  · exact isDigit_toDigits digit

theorem parseNat_zeros (zeros value : Nat) :
    parseNat (List.replicate zeros '0' ++ Nat.toDigits 10 value) = some value := by
  rw [parseNat_eq (by simp [Nat.toDigits_ne_nil]) fun _ => isDigit_of_mem_zeros]
  rw [Nat.ofDigitChars_append, Nat.ofDigitChars_replicate_zero, Nat.mul_zero, Nat.ofDigitChars_ten_toDigits]

@[simp] theorem parseNat_toDigits (value : Nat) : parseNat (Nat.toDigits 10 value) = some value :=
  parseNat_zeros 0 value

theorem parseInt_signed {digits : List Char} {size : Nat} (value : Int) (read : parseNat digits = some size)
    (same : value.natAbs = size) : parseInt ((if value < 0 then ['-'] else []) ++ digits) = some value := by
  split
  · rename_i negative
    simp only [List.singleton_append, parseInt, read, Option.map_some, ← same, Option.some.injEq, Int.ofNat_eq_natCast]
    omega
  · rename_i nonnegative
    have plain : parseInt digits = (parseNat digits).map Int.ofNat := by
      unfold parseInt
      split
      · simp [parseNat] at read
      · simp [parseNat] at read
      · rfl
    rw [List.nil_append, plain, read, Option.map_some, ← same, Int.ofNat_eq_natCast]
    congr 1
    omega

@[simp] theorem parseInt_intDigits (value : Int) : parseInt (intDigits value) = some value :=
  parseInt_signed value (parseNat_toDigits _) rfl

theorem toDigits_leading_zero {value : Nat} {tail : List Char} (leading : Nat.toDigits 10 value = '0' :: tail) :
    value = 0 := by
  induction value using Nat.strongRecOn generalizing tail with
  | ind value ih =>
    rcases Nat.lt_or_ge value 10 with small | large
    · have back := @Nat.ofDigitChars_ten_toDigits value
      rw [Nat.toDigits_of_lt_base small] at leading
      injection leading with _ none
      subst none
      rw [Nat.toDigits_of_lt_base small, ‹value.digitChar = '0'›] at back
      exact back.symm
    · rw [Nat.toDigits_of_base_le (by decide) large] at leading
      cases shorter : Nat.toDigits 10 (value / 10) with
      | nil => exact absurd shorter Nat.toDigits_ne_nil
      | cons first rest =>
        rw [shorter] at leading
        injection leading with zero _
        rw [zero] at shorter
        have := ih (value / 10) (by omega) shorter
        omega

/-! A number of so many digits is bounded by them. -/

theorem ofDigitChars_lt {text : List Char} (digits : ∀ c ∈ text, c.isDigit = true) (start : Nat) :
    Nat.ofDigitChars 10 text start < (start + 1) * 10 ^ text.length := by
  induction text generalizing start with
  | nil => simp [Nat.ofDigitChars]
  | cons c rest ih =>
    have digit : c.toNat - '0'.toNat ≤ 9 := by
      have high := digits c (by simp)
      simp only [Char.isDigit, Bool.and_eq_true, decide_eq_true_eq] at high
      have : c.toNat ≤ 57 := high.2
      have zero : '0'.toNat = 48 := rfl
      omega
    rw [Nat.ofDigitChars_cons]
    refine lt_of_lt_of_le (ih (fun c member => digits c (by simp [member])) _) ?_
    rw [List.length_cons, pow_succ', ← mul_assoc]
    exact Nat.mul_le_mul_right _ (by omega)

theorem parseNat_lt {text : List Char} {value : Nat} (read : parseNat text = some value) : value < 10 ^ text.length := by
  simp only [parseNat] at read
  split at read
  · rename_i digits
    simp only [Bool.and_eq_true, List.all_eq_true] at digits
    have small := ofDigitChars_lt digits.2 0
    cases read
    omega
  · cases read

theorem parseInt_lt {text : List Char} {value : Int} (read : parseInt text = some value) : value < 10 ^ text.length := by
  have signed : ∀ {digits : List Char} {size : Nat}, parseNat digits = some size → (size : Int) < 10 ^ (digits.length + 1) := by
    intro digits size isSize
    have small : size < 10 ^ (digits.length + 1) :=
      (parseNat_lt isSize).trans_le (Nat.pow_le_pow_right (by decide) (Nat.le_succ _))
    exact_mod_cast small
  simp only [parseInt] at read
  split at read
  · obtain ⟨size, isSize, rfl⟩ := Option.map_eq_some_iff.mp read
    have small := signed isSize
    simp only [List.length_cons, Int.ofNat_eq_natCast]
    omega
  · obtain ⟨size, isSize, rfl⟩ := Option.map_eq_some_iff.mp read
    exact signed isSize
  · obtain ⟨size, isSize, rfl⟩ := Option.map_eq_some_iff.mp read
    rw [Int.ofNat_eq_natCast]
    exact_mod_cast parseNat_lt isSize

end Augr.Foundation
