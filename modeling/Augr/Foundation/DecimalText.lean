import Augr.Foundation.Decimal
import Augr.Foundation.Digits
import Augr.Foundation.Outcome
import Mathlib.Data.List.TakeWhile
import Mathlib.Data.Rat.Floor

/-! Decimals as text.

Two decimals are written the same exactly when they denote the same number, and what is
written is read back as that number.
-/

set_option autoImplicit false

namespace Augr.Foundation.Decimal

/-- The coefficient's digits, with zeros in front so that one digit stands before the fraction. -/
def paddedDigits (coefficient places : Nat) : List Char :=
  let digits := Nat.toDigits 10 coefficient
  List.replicate (places + 1 - digits.length) '0' ++ digits

/-- An unsigned number with a fraction of the given length, trailing zeros dropped. -/
def pointed (coefficient places : Nat) : List Char :=
  let padded := paddedDigits coefficient places
  let fraction := trimZeros (padded.drop (padded.length - places))
  padded.take (padded.length - places) ++ if fraction.isEmpty then [] else '.' :: fraction

def signed (value : Int) (text : List Char) : List Char := (if value < 0 then ['-'] else []) ++ text

theorem length_paddedDigits (coefficient places : Nat) : places < (paddedDigits coefficient places).length := by
  have some := @Nat.length_toDigits_pos 10 coefficient
  simp only [paddedDigits, List.length_append, List.length_replicate]
  omega

theorem paddedDigits_zero (coefficient : Nat) : paddedDigits coefficient 0 = Nat.toDigits 10 coefficient := by
  have some := @Nat.length_toDigits_pos 10 coefficient
  simp only [paddedDigits, show 0 + 1 - (Nat.toDigits 10 coefficient).length = 0 by omega, List.replicate_zero,
    List.nil_append]

theorem paddedDigits_succ (coefficient places : Nat) :
    paddedDigits coefficient (places + 1) = paddedDigits (coefficient / 10) places ++ [(coefficient % 10).digitChar] := by
  rcases Nat.lt_or_ge coefficient 10 with small | large
  · have none : coefficient / 10 = 0 := Nat.div_eq_of_lt small
    rw [none, Nat.mod_eq_of_lt small]
    simp only [paddedDigits, Nat.toDigits_of_lt_base small, Nat.toDigits_zero, List.length_singleton,
      Nat.add_sub_cancel, List.replicate_succ', List.append_assoc]
  · simp only [paddedDigits, Nat.toDigits_of_base_le (by decide) large, List.length_append, List.length_singleton,
      Nat.add_sub_add_right, List.append_assoc]

theorem isDigit_paddedDigits {coefficient places : Nat} {c : Char} (member : c ∈ paddedDigits coefficient places) :
    c.isDigit = true := isDigit_of_mem_zeros member

theorem trimZeros_append_zero (digits : List Char) : trimZeros (digits ++ ['0']) = trimZeros digits := by
  simp [trimZeros]

theorem trimZeros_append_other {digits : List Char} {last : Char} (other : last ≠ '0') :
    trimZeros (digits ++ [last]) = digits ++ [last] := by
  simp [trimZeros, other]

theorem pointed_zero (coefficient : Nat) : pointed coefficient 0 = Nat.toDigits 10 coefficient := by
  simp [pointed, paddedDigits_zero, trimZeros]

theorem pointed_succ {coefficient : Nat} (places : Nat) (even : coefficient % 10 = 0) :
    pointed coefficient (places + 1) = pointed (coefficient / 10) places := by
  have long := length_paddedDigits (coefficient / 10) places
  have split : (paddedDigits (coefficient / 10) places).length + 1 - (places + 1) =
      (paddedDigits (coefficient / 10) places).length - places := by omega
  simp only [pointed, paddedDigits_succ, even, List.length_append, List.length_singleton, split]
  rw [List.take_append_of_le_length (by omega), List.drop_append_of_le_length (by omega)]
  rw [show Nat.digitChar 0 = '0' from rfl, trimZeros_append_zero]

theorem pointed_of_last {coefficient : Nat} (places : Nat) (last : coefficient % 10 ≠ 0) :
    ∃ whole fraction, paddedDigits coefficient (places + 1) = whole ++ fraction ∧ fraction.length = places + 1 ∧
      pointed coefficient (places + 1) = whole ++ '.' :: fraction := by
  have long := length_paddedDigits coefficient (places + 1)
  refine ⟨_, _, (List.take_append_drop ((paddedDigits coefficient (places + 1)).length - (places + 1)) _).symm, ?_, ?_⟩
  · rw [List.length_drop]
    omega
  · have before := length_paddedDigits (coefficient / 10) places
    have kept : trimZeros ((paddedDigits coefficient (places + 1)).drop
        ((paddedDigits coefficient (places + 1)).length - (places + 1))) =
        (paddedDigits coefficient (places + 1)).drop ((paddedDigits coefficient (places + 1)).length - (places + 1)) := by
      rw [paddedDigits_succ, List.length_append, List.length_singleton, List.drop_append_of_le_length (by omega)]
      apply trimZeros_append_other
      intro zero
      have digit : ∀ n < 10, Nat.digitChar n = '0' → n = 0 := by decide
      exact last (digit _ (Nat.mod_lt _ (by decide)) zero)
    have nonempty : ((paddedDigits coefficient (places + 1)).drop
        ((paddedDigits coefficient (places + 1)).length - (places + 1))).isEmpty = false := by
      rw [List.isEmpty_eq_false_iff, ← List.length_pos_iff, List.length_drop]
      omega
    simp only [pointed, kept, nonempty, Bool.false_eq_true, if_false]

/-- No shorter fraction denotes the same number. -/
def Lowest (value : Int) (places : Nat) : Prop := places = 0 ∨ value % 10 ≠ 0

def rendered (value : Int) (places : Nat) : List Char := signed value (pointed value.natAbs places)

theorem rendered_lowest (value : Int) (places : Nat) :
    ∃ reduced fewer, Lowest reduced fewer ∧ fewer ≤ places ∧ value = reduced * 10 ^ (places - fewer) ∧
      rendered value places = rendered reduced fewer := by
  induction places generalizing value with
  | zero => exact ⟨value, 0, Or.inl rfl, Nat.le_refl 0, by simp, rfl⟩
  | succ places ih =>
    by_cases last : value % 10 = 0
    · obtain ⟨reduced, fewer, lowest, below, same, text⟩ := ih (value / 10)
      refine ⟨reduced, fewer, lowest, by omega, ?_, ?_⟩
      · rw [show places + 1 - fewer = places - fewer + 1 by omega, pow_succ, ← mul_assoc, ← same]
        omega
      · have whole : value.natAbs % 10 = 0 := by omega
        have shorter : (value / 10).natAbs = value.natAbs / 10 := by omega
        have sign : (value / 10 < 0) ↔ value < 0 := by omega
        rw [← text, rendered, rendered, pointed_succ places whole, shorter]
        simp only [signed, sign]
    · exact ⟨value, places + 1, Or.inr last, Nat.le_refl _, by simp, rfl⟩

theorem lowest_unique {value other : Int} {places longer : Nat} (first : Lowest value places) (second : Lowest other longer)
    (same : (value : ℚ) / 10 ^ places = (other : ℚ) / 10 ^ longer) : value = other ∧ places = longer := by
  wlog below : places ≤ longer generalizing value other places longer
  · obtain ⟨values, lengths⟩ := this second first same.symm (by omega)
    exact ⟨values.symm, lengths.symm⟩
  obtain ⟨extra, rfl⟩ := Nat.exists_eq_add_of_le below
  have scaled : (other : ℚ) = value * 10 ^ extra := by
    rw [pow_add] at same
    field_simp at same
    linarith
  have whole : other = value * 10 ^ extra := by exact_mod_cast scaled
  cases extra with
  | zero => exact ⟨by simpa using whole.symm, rfl⟩
  | succ extra =>
    exfalso
    rcases second with none | last
    · omega
    · rw [whole, pow_succ, ← mul_assoc] at last
      omega

theorem toText_lowest (d : Decimal) :
    ∃ (value : Int) (places : Nat), Lowest value places ∧ places ≤ (-d.exp).toNat ∧
      d.toRat = (value : ℚ) / 10 ^ places ∧ d.toText = String.ofList (rendered value places) := by
  rcases lt_or_ge d.exp 0 with below | above
  · obtain ⟨reduced, fewer, lowest, within, same, text⟩ := rendered_lowest d.value (-d.exp).toNat
    refine ⟨reduced, fewer, lowest, within, ?_, ?_⟩
    · have shifted : (10 : ℚ) ^ (-d.exp).toNat = 10 ^ ((-d.exp).toNat - fewer) * 10 ^ fewer := by
        rw [← pow_add, Nat.sub_add_cancel within]
      have number : (d.value : ℚ) = reduced * 10 ^ ((-d.exp).toNat - fewer) := by exact_mod_cast same
      rw [toRat_of_neg below, shifted, number]
      field_simp
    · rw [← text, toText, if_neg (by omega)]
      exact congrArg String.ofList (List.append_assoc _ _ _)
  · refine ⟨d.value * 10 ^ d.exp.toNat, 0, Or.inl rfl, Nat.zero_le _, ?_, ?_⟩
    · rw [toRat_of_nonneg above, pow_zero, div_one]
    · have sign : (d.value * 10 ^ d.exp.toNat < 0) ↔ d.value < 0 := by
        rw [← not_le, mul_nonneg_iff_of_pos_right (by positivity), not_le]
      rw [toText, if_pos above]
      simp only [rendered, signed, pointed_zero, sign, Int.natAbs_mul, Int.natAbs_pow]
      rfl

def wholePart (text : List Char) : List Char := text.takeWhile (· != '.')

def fractionPart (text : List Char) : List Char := text.drop ((wholePart text).length + 1)

theorem parts_pointed {whole : List Char} (fraction : List Char) (digits : ∀ c ∈ whole, c ≠ '.') :
    wholePart (whole ++ '.' :: fraction) = whole ∧ fractionPart (whole ++ '.' :: fraction) = fraction := by
  have taken : wholePart (whole ++ '.' :: fraction) = whole := by
    rw [wholePart, List.takeWhile_append_of_pos (by simpa using digits)]
    simp
  refine ⟨taken, ?_⟩
  rw [fractionPart, taken]
  simp

theorem parts_whole {whole : List Char} (digits : ∀ c ∈ whole, c ≠ '.') :
    wholePart whole = whole ∧ fractionPart whole = [] := by
  have taken : wholePart whole = whole := List.takeWhile_eq_self_iff.mpr (by simpa using digits)
  refine ⟨taken, ?_⟩
  rw [fractionPart, taken]
  simp

theorem signed_member {value : Int} {text : List Char} {c : Char} (member : c ∈ signed value text) :
    c = '-' ∨ c ∈ text := by
  rcases List.mem_append.mp member with sign | inside
  · split at sign
    · exact Or.inl (List.mem_singleton.mp sign)
    · cases sign
  · exact Or.inr inside

theorem rendered_parts {value : Int} {places : Nat} (lowest : Lowest value places) :
    parseInt (wholePart (rendered value places) ++ fractionPart (rendered value places)) = some value ∧
      (fractionPart (rendered value places)).length = places ∧ '.' ∉ fractionPart (rendered value places) ∧
      ∀ c ∈ rendered value places, c = '-' ∨ c = '.' ∨ c.isDigit = true := by
  have plain : ∀ {digits : List Char}, (∀ c ∈ digits, c.isDigit = true) → ∀ c ∈ signed value digits, c ≠ '.' := by
    intro digits each c member
    rcases signed_member member with rfl | inside
    · decide
    · exact isDigit_ne (each c inside) (by decide)
  cases places with
  | zero =>
    have each : ∀ c ∈ Nat.toDigits 10 value.natAbs, c.isDigit = true := fun c => isDigit_toDigits
    obtain ⟨whole, fraction⟩ := parts_whole (plain each)
    rw [rendered, pointed_zero, whole, fraction]
    refine ⟨by rw [List.append_nil]; exact parseInt_intDigits value, rfl, by simp, ?_⟩
    intro c member
    exact (signed_member member).imp_right fun inside => Or.inr (each c inside)
  | succ places =>
    have last : value.natAbs % 10 ≠ 0 := by
      rcases lowest with none | last
      · cases none
      · omega
    obtain ⟨whole, fraction, padded, size, text⟩ := pointed_of_last places last
    have each : ∀ c ∈ whole ++ fraction, c.isDigit = true := fun c member => isDigit_paddedDigits (padded ▸ member)
    have split : rendered value (places + 1) = signed value whole ++ '.' :: fraction := by
      rw [rendered, text, signed, signed, List.append_assoc]
    obtain ⟨isWhole, isFraction⟩ := parts_pointed fraction
      (plain fun c member => each c (List.mem_append_left _ member))
    rw [split, isWhole, isFraction]
    refine ⟨?_, size, ?_, ?_⟩
    · rw [signed, List.append_assoc, ← padded]
      exact parseInt_signed value (parseNat_zeros _ _) rfl
    · exact fun point => absurd (each '.' (List.mem_append_right _ point)) (by decide)
    · intro c member
      rcases List.mem_append.mp member with front | back
      · exact (signed_member front).imp_right fun inside => Or.inr (each c (List.mem_append_left _ inside))
      · rcases List.mem_cons.mp back with rfl | inside
        · exact Or.inr (Or.inl rfl)
        · exact Or.inr (Or.inr (each c (List.mem_append_right _ inside)))

theorem toText_eq_iff (d e : Decimal) : d.toText = e.toText ↔ d.toRat = e.toRat := by
  obtain ⟨value, places, lowest, _, number, text⟩ := toText_lowest d
  obtain ⟨other, longer, lowest', _, number', text'⟩ := toText_lowest e
  constructor
  · intro same
    have written := String.ofList_injective (text.symm.trans (same.trans text'))
    obtain ⟨read, size, _⟩ := rendered_parts lowest
    obtain ⟨read', size', _⟩ := rendered_parts lowest'
    rw [written] at read size
    rw [number, number', Option.some.inj (read.symm.trans read'), size.symm.trans size']
  · intro same
    obtain ⟨rfl, rfl⟩ := lowest_unique lowest lowest' (number.symm.trans (same.trans number'))
    rw [text, text']


def fitsInt32 (value : Int) : Bool := -2 ^ 31 ≤ value && value < 2 ^ 31

/-- Digits with at most one point, and an exponent after `e` or `E`. -/
def newFromString (text : String) : Outcome Decimal := do
  let characters := Text.characters text
  let mantissa := characters.takeWhile fun c => c != 'e' && c != 'E'
  let exponent ← match characters.drop mantissa.length with
    | [] => .ok 0
    | _ :: digits =>
        match parseInt digits with
        | none => .error (.errorf "can't convert %s to decimal: exponent is not numeric" [text])
        | some exponent => do
            failIf (!fitsInt32 exponent) (.errorf "can't convert %s to decimal: fractional part too long" [text])
            pure exponent
  let value := String.ofList mantissa
  let fraction := fractionPart mantissa
  failIf (fraction.contains '.') (.errorf "can't convert %s to decimal: too many .s" [value])
  match parseInt (wholePart mantissa ++ fraction) with
  | none => .error (.errorf "can't convert %s to decimal" [value])
  | some coefficient => do
      let exp := exponent - fraction.length
      failIf (!fitsInt32 exp) (.errorf "can't convert %s to decimal: fractional part too long" [text])
      pure ⟨coefficient, exp⟩

example : (newFromString "-12.50").toOption = some ⟨-1250, -2⟩ ∧ (newFromString "+.5E3").toOption = some ⟨5, 2⟩ ∧
    (newFromString "1.2.3").toOption = none ∧ (newFromString "").toOption = none := by decide

theorem newFromString_toText {d : Decimal} (short : -2 ^ 31 ≤ d.exp) :
    (∃ e, newFromString d.toText = .ok e ∧ e.toRat = d.toRat) ∧ Text.trimSpace d.toText = d.toText := by
  obtain ⟨value, places, lowest, within, number, text⟩ := toText_lowest d
  obtain ⟨read, size, unpointed, each⟩ := rendered_parts lowest
  have mantissa : (rendered value places).takeWhile (fun c => c != 'e' && c != 'E') = rendered value places := by
    refine List.takeWhile_eq_self_iff.mpr fun c member => ?_
    rcases each c member with rfl | rfl | digit
    · decide
    · decide
    · simp [isDigit_ne digit (show 'e'.isDigit = false by decide), isDigit_ne digit (show 'E'.isDigit = false by decide)]
  have fits : fitsInt32 (0 - places) = true := by
    simp only [fitsInt32, Bool.and_eq_true, decide_eq_true_eq]
    omega
  constructor
  · refine ⟨⟨value, 0 - places⟩, ?_, ?_⟩
    · simp only [newFromString, text, Text.characters_eq, String.toList_ofList, mantissa, List.drop_length, ok_bind]
      rw [failIf_bind_ok_iff]
      refine ⟨by simpa using unpointed, ?_⟩
      simp only [read, size, fits, Bool.not_true, failIf_false, ok_bind]
      rfl
    · rw [number, toRat, zero_sub, zpow_neg, zpow_natCast, div_eq_mul_inv]
  · rw [text, Text.trimSpace_eq, String.toList_ofList, Text.trim_eq_self]
    intro c member
    rcases each c member with rfl | rfl | digit
    · decide
    · decide
    · exact isSpace_of_isDigit digit

end Augr.Foundation.Decimal
