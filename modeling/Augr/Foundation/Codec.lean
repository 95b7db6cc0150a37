import Augr.Foundation.Json
import Augr.Foundation.Digits
import Mathlib.Data.List.Forall2

/-! What the JSON encoder writes, the decoder reads back.

`Reads` is the compositional form: a run of bytes spells a value, whatever closes the run.
It is proved for each thing the encoder writes, so the encoding of a record is read by
applying the rule of each of its parts.
-/

set_option autoImplicit false

namespace Augr.Foundation.Json

variable {bytes rest tail : Bytes} {result : Json} {fields : List (String × Json)} {fuel : Nat} {byte : UInt8}

def isSpace (byte : UInt8) : Bool := byte == 0x20 || byte == 0x09 || byte == 0x0A || byte == 0x0D

theorem skipSpace_cons (solid : isSpace byte = false) : skipSpace (byte :: rest) = byte :: rest := by
  simp only [skipSpace]
  exact List.dropWhile_cons_of_neg (by simpa [isSpace] using solid)

section Steps

variable {accepts : NumberParts → Bool}

theorem digit_solid (digit : isDigit byte = true) : isSpace byte = false ∧ byte ≠ 0x5D ∧ byte ≠ 0x7D := by
  simp only [isDigit, Bool.and_eq_true, decide_eq_true_eq, UInt8.le_iff_toNat_le] at digit
  simp only [isSpace, Bool.or_eq_false_iff, beq_eq_false_iff_ne, ne_eq, ← UInt8.toNat_inj]
  simp at digit ⊢
  omega

theorem value_number {room : Nat} {first : UInt8} (starts : first = 0x2D ∨ isDigit first = true) :
    value accepts (fuel + 1) room (first :: tail) =
      (numberParts (first :: tail)).bind fun (parts, rest) =>
        if accepts parts then
          some (.number (asciiText ((first :: tail).take ((first :: tail).length - rest.length))), rest)
        else none := by
  have solid : isSpace first = false := by
    rcases starts with rfl | digit
    · decide
    · exact (digit_solid digit).1
  rw [value, skipSpace_cons solid]
  split
  case h_7 => rfl
  all_goals
    rename_i same
    injection same with isFirst _
    subst isFirst
    exact absurd starts (by decide)

theorem value_array {room : Nat} {first : UInt8} (solid : isSpace first = false) (inside : first ≠ 0x5D) :
    value accepts (fuel + 1) (room + 1) (0x5B :: first :: tail) =
      (elements accepts fuel room (first :: tail)).map fun (items, rest) => (.array items, rest) := by
  rw [value, skipSpace_cons (by decide)]
  simp [skipSpace_cons solid, inside]

theorem value_object {room : Nat} {first : UInt8} (solid : isSpace first = false) (inside : first ≠ 0x7D) :
    value accepts (fuel + 1) (room + 1) (0x7B :: first :: tail) =
      (members accepts fuel room [] (first :: tail)).map fun (fields, rest) => (.object fields, rest) := by
  rw [value, skipSpace_cons (by decide)]
  simp [skipSpace_cons solid, inside]

end Steps

theorem toNat_byte {n : Nat} (small : n < 256) : (UInt8.ofNat n).toNat = n := by
  simp [Nat.mod_eq_of_lt small]

theorem not_special {n : Nat} (low : 93 ≤ n) (small : n < 256) :
    ¬ (UInt8.ofNat n = 0x22 ∨ UInt8.ofNat n = 0x5C ∨ UInt8.ofNat n < 0x20) := by
  simp only [← UInt8.toNat_inj, UInt8.lt_iff_toNat_lt, toNat_byte small]
  simp; omega

section Runes

variable {first second third fourth : UInt8} {v : Nat}

theorem decodeRune_two (low : 127 < v) (high : v ≤ 2047) (one : first.toNat = v / 64 % 32 + 192)
    (two : second.toNat = v % 64 + 128) (rest : Bytes) : decodeRune first (second :: rest) = (Char.ofNat v, rest) := by
  have code : (v / 64 % 32 + 192) % 32 * 64 + (v % 64 + 128) % 64 = v := by omega
  simp only [decodeRune, continuation, Bool.and_eq_true, decide_eq_true_eq, UInt8.le_iff_toNat_le, UInt8.lt_iff_toNat_lt,
    one, two, code]
  rw [if_neg (by simp), if_pos (by simp; omega), if_pos (by simp; omega)]

theorem decodeRune_three (low : 2047 < v) (high : v ≤ 65535) (valid : v.isValidChar)
    (one : first.toNat = v / 4096 % 16 + 224) (two : second.toNat = v / 64 % 64 + 128) (three : third.toNat = v % 64 + 128)
    (rest : Bytes) : decodeRune first (second :: third :: rest) = (Char.ofNat v, rest) := by
  have code : (v / 4096 % 16 + 224) % 16 * 4096 + (v / 64 % 64 + 128) % 64 * 64 + (v % 64 + 128) % 64 = v := by omega
  simp only [Nat.isValidChar] at valid
  simp only [decodeRune, secondRange, continuation, Bool.and_eq_true, decide_eq_true_eq, UInt8.le_iff_toNat_le,
    UInt8.lt_iff_toNat_lt, beq_iff_eq, ← UInt8.toNat_inj, one, two, three, code]
  rw [if_neg (by simp), if_neg (by simp), if_pos (by simp; omega), if_pos]
  repeat' split
  all_goals
    simp at *
    omega

theorem decodeRune_four (low : 65535 < v) (valid : v.isValidChar) (one : first.toNat = v / 262144 % 8 + 240)
    (two : second.toNat = v / 4096 % 64 + 128) (three : third.toNat = v / 64 % 64 + 128) (four : fourth.toNat = v % 64 + 128)
    (rest : Bytes) : decodeRune first (second :: third :: fourth :: rest) = (Char.ofNat v, rest) := by
  simp only [Nat.isValidChar] at valid
  have code : (v / 262144 % 8 + 240) % 8 * 262144 + (v / 4096 % 64 + 128) % 64 * 4096 + (v / 64 % 64 + 128) % 64 * 64 +
      (v % 64 + 128) % 64 = v := by omega
  simp only [decodeRune, secondRange, continuation, Bool.and_eq_true, decide_eq_true_eq, UInt8.le_iff_toNat_le,
    UInt8.lt_iff_toNat_lt, beq_iff_eq, ← UInt8.toNat_inj, one, two, three, four, code]
  rw [if_neg (by simp), if_neg (by simp), if_neg (by simp), if_pos (by simp; omega), if_pos]
  repeat' split
  all_goals
    simp at * <;> omega

end Runes

theorem decodeRune_encoded (c : Char) (rest : Bytes) :
    ∃ first tail, String.utf8EncodeChar c = first :: tail ∧ decodeRune first (tail ++ rest) = (c, rest) ∧
      (first = 0x22 ∨ first = 0x5C ∨ first < 0x20 → first.toNat = c.toNat) := by
  have valid : c.val.toNat.isValidChar := c.valid
  have same : Char.ofNat c.val.toNat = c := Char.ofNat_toNat c
  unfold String.utf8EncodeChar
  dsimp only
  split
  · rename_i small
    have first := toNat_byte (n := c.val.toNat) (by omega)
    refine ⟨_, _, rfl, ?_, fun _ => first⟩
    have ascii : UInt8.ofNat c.val.toNat < 0x80 := by
      rw [UInt8.lt_iff_toNat_lt, first]
      exact Nat.lt_succ_of_le small
    simp only [decodeRune, ascii, if_true, first, same, List.nil_append]
  · split
    · refine ⟨_, _, rfl, ?_, fun special => ?_⟩
      · rw [List.singleton_append, decodeRune_two (by omega) (by omega) (toNat_byte (by omega)) (toNat_byte (by omega)), same]
      · exact absurd special (not_special (by omega) (by omega))
    · split
      · refine ⟨_, _, rfl, ?_, fun special => ?_⟩
        · simp only [List.cons_append, List.nil_append]
          rw [decodeRune_three (by omega) (by omega) valid (toNat_byte (by omega)) (toNat_byte (by omega))
              (toNat_byte (by omega)),
            same]
        · exact absurd special (not_special (by omega) (by omega))
      · refine ⟨_, _, rfl, ?_, fun special => ?_⟩
        · simp only [List.cons_append, List.nil_append]
          rw [decodeRune_four (by omega) valid (toNat_byte (by omega)) (toNat_byte (by omega)) (toNat_byte (by omega))
            (toNat_byte (by omega)), same]
        · exact absurd special (not_special (by omega) (by omega))

theorem hexValue_hexByte : ∀ n < 16, hexValue (hexByte n) = some n := by decide

theorem stringBody_escape {letter : UInt8} {c : Char} (fuel : Nat) (rest : Bytes)
    (escaped : ∀ rest, escape (letter :: rest) = some (c, rest)) :
    stringBody (fuel + 1) ([0x5C, letter] ++ rest) = (stringBody fuel rest).map fun (tail, rest) => (c :: tail, rest) := by
  simp only [List.cons_append, List.nil_append, stringBody, escaped]
  rw [Option.map_eq_bind]
  rfl

theorem unicodeEscape_four {a b c d : UInt8} {w x y z : Nat} (rest : Bytes) (first : hexValue a = some w)
    (second : hexValue b = some x) (third : hexValue c = some y) (fourth : hexValue d = some z) :
    unicodeEscape (a :: b :: c :: d :: rest) = some (((w * 16 + x) * 16 + y) * 16 + z, rest) := by
  simp only [unicodeEscape, first, second, third, fourth]
  rfl

theorem stringBody_unicode {a b c d : UInt8} {w x y z : Nat} {symbol : Char} (fuel : Nat) (rest : Bytes)
    (first : hexValue a = some w) (second : hexValue b = some x) (third : hexValue c = some y)
    (fourth : hexValue d = some z) (code : symbol.toNat = ((w * 16 + x) * 16 + y) * 16 + z)
    (low : symbol.toNat < 0xD800) :
    stringBody (fuel + 1) ([0x5C, 0x75, a, b, c, d] ++ rest) =
      (stringBody fuel rest).map fun (tail, rest) => (symbol :: tail, rest) := by
  have same : Char.ofNat (((w * 16 + x) * 16 + y) * 16 + z) = symbol := by rw [← code, Char.ofNat_toNat]
  have escaped : escape (0x75 :: a :: b :: c :: d :: rest) = some (symbol, rest) := by
    rw [code] at low
    simp only [escape, unicodeEscape_four rest first second third fourth, bind, Option.bind]
    rw [if_neg (by omega), if_neg (by omega), same]
    rfl
  simp only [List.cons_append, List.nil_append, stringBody, escaped]
  rw [Option.map_eq_bind]
  rfl

theorem stringBody_plain {c : Char} (fuel : Nat) (rest : Bytes) (quoted : c.toNat ≠ 34) (slashed : c.toNat ≠ 92)
    (visible : 32 ≤ c.toNat) :
    stringBody (fuel + 1) (String.utf8EncodeChar c ++ rest) =
      (stringBody fuel rest).map fun (tail, rest) => (c :: tail, rest) := by
  obtain ⟨first, tail, encoded, decoded, special⟩ := decodeRune_encoded c rest
  have quote : first ≠ 0x22 := by
    rintro rfl
    exact quoted (special (Or.inl rfl)).symm
  have slash : first ≠ 0x5C := by
    rintro rfl
    exact slashed (special (Or.inr (Or.inl rfl))).symm
  have high : ¬ first < 0x20 := by
    intro low
    have value := special (Or.inr (Or.inr low))
    rw [UInt8.lt_iff_toNat_lt, value] at low
    exact absurd low (by simpa using visible)
  rw [encoded, List.cons_append, stringBody]
  · simp only [high, if_false, decoded]
    rw [Option.map_eq_bind]
    rfl
  · exact quote
  · exact slash

theorem stringBody_character (c : Char) (fuel : Nat) (rest : Bytes) :
    stringBody (fuel + 1) (encodeCharacter c ++ rest) =
      (stringBody fuel rest).map fun (tail, rest) => (c :: tail, rest) := by
  have of_code : ∀ {n : Nat}, c.toNat = n → c = Char.ofNat n := fun same => same ▸ (Char.ofNat_toNat c).symm
  unfold encodeCharacter
  simp only [beq_iff_eq, Bool.or_eq_true, decide_eq_true_eq]
  -- one branch at a time: splitting the whole chain again at each condition is slow
  have branch {p : Prop} [Decidable p] {yes no : Bytes} {read : Option (List Char × Bytes)}
      (first : p → stringBody (fuel + 1) (yes ++ rest) = read) (second : ¬ p → stringBody (fuel + 1) (no ++ rest) = read) :
      stringBody (fuel + 1) ((if p then yes else no) ++ rest) = read :=
    iteInduction (motive := fun bytes => stringBody (fuel + 1) (bytes ++ rest) = read) first second
  iterate 7
    refine branch (fun code => ?_) fun _ => ?_
    · exact stringBody_escape fuel rest (fun _ => by rw [of_code code]; rfl)
  refine branch (fun code => ?_) fun ordinary => ?_
  · have zero : hexValue 0x30 = some 0 := by decide
    exact stringBody_unicode fuel rest zero zero (hexValue_hexByte _ (by omega)) (hexValue_hexByte _ (by omega))
      (by omega) (by omega)
  refine branch (fun code => ?_) fun notLine => ?_
  · exact stringBody_unicode (w := 2) (x := 0) (y := 2) (z := 8) fuel rest (by decide) (by decide) (by decide)
      (by decide) (by omega) (by omega)
  refine branch (fun code => ?_) fun notParagraph => ?_
  · exact stringBody_unicode (w := 2) (x := 0) (y := 2) (z := 9) fuel rest (by decide) (by decide) (by decide)
      (by decide) (by omega) (by omega)
  · exact stringBody_plain fuel rest (by omega) (by omega) (by omega)

theorem stringBody_characters (text : List Char) (fuel : Nat) (rest : Bytes) (enough : text.length < fuel) :
    stringBody fuel (text.flatMap encodeCharacter ++ 0x22 :: rest) = some (text, rest) := by
  induction text generalizing fuel with
  | nil =>
    obtain ⟨fuel, rfl⟩ := Nat.exists_eq_succ_of_ne_zero (Nat.ne_of_gt enough)
    rfl
  | cons c text ih =>
    obtain ⟨fuel, rfl⟩ := Nat.exists_eq_succ_of_ne_zero (Nat.ne_of_gt (Nat.zero_lt_of_lt enough))
    simp only [List.length_cons, Nat.succ_eq_add_one, Nat.add_lt_add_iff_right] at enough
    rw [List.flatMap_cons, List.append_assoc, stringBody_character, ih fuel enough]
    rfl

theorem encodeCharacter_ne_nil (c : Char) : encodeCharacter c ≠ [] := by
  unfold encodeCharacter
  iterate 10 refine iteInduction (motive := (· ≠ [])) (fun _ => List.cons_ne_nil _ _) fun _ => ?_
  exact String.utf8EncodeChar_ne_nil

theorem length_le_flatMap (text : List Char) : text.length ≤ (text.flatMap encodeCharacter).length := by
  induction text with
  | nil => exact Nat.le_refl 0
  | cons c text ih =>
    have some := List.length_pos_iff.mpr (encodeCharacter_ne_nil c)
    rw [List.flatMap_cons, List.length_append, List.length_cons]
    omega

/-- What may follow a value inside a document: its end, a comma or a closing bracket. -/
def Closes : Bytes → Prop
  | [] => True
  | byte :: _ => byte = 0x2C ∨ byte = 0x5D ∨ byte = 0x7D

theorem closes_comma (rest : Bytes) : Closes (0x2C :: rest) := Or.inl rfl

theorem closes_bracket (rest : Bytes) : Closes (0x5D :: rest) := Or.inr (Or.inl rfl)

theorem closes_brace (rest : Bytes) : Closes (0x7D :: rest) := Or.inr (Or.inr rfl)

/-- The bytes spell a value: reading them, with room for its nesting, gives the value and stops at their end. -/
structure Reads (accepts : NumberParts → Bool) (depth : Nat) (bytes : Bytes) (result : Json) : Prop where
  starts : ∃ first tail, bytes = first :: tail ∧ isSpace first = false ∧ first ≠ 0x5D ∧ first ≠ 0x7D
  reads : ∀ {room fuel : Nat} {rest : Bytes}, depth ≤ room → 2 * bytes.length ≤ fuel → Closes rest →
    value accepts fuel room (bytes ++ rest) = some (result, rest)

section Values

variable {accepts : NumberParts → Bool} {depth : Nat}

theorem decodeFirst_of_reads (spelt : Reads accepts depth bytes result) (shallow : depth ≤ maxNestingDepth) :
    decodeFirst accepts bytes = some (result, []) := by
  have whole := spelt.reads shallow (Nat.le_add_right (2 * bytes.length) 2) (show Closes [] from trivial)
  rwa [List.append_nil] at whole

theorem decode_of_reads (spelt : Reads accepts depth bytes result) (shallow : depth ≤ maxNestingDepth) :
    decode accepts bytes = some result := by
  simp only [decode, decodeFirst_of_reads spelt shallow]
  rfl

theorem encodeCharacter_plain {byte : UInt8} (kept : plain byte = true) :
    byte.toNat < 128 ∧ encodeCharacter (Char.ofNat byte.toNat) = [byte] := by
  have each : ∀ code < 256, plain (UInt8.ofNat code) = true →
      code < 128 ∧ encodeCharacter (Char.ofNat code) = [UInt8.ofNat code] := by
    decide +kernel
  have own := each byte.toNat byte.toNat_lt
  rw [UInt8.ofNat_toNat] at own
  exact own kept

theorem quote_eq (text : String) : quote text = 0x22 :: text.toList.flatMap encodeCharacter ++ [0x22] := by
  rw [← Text.characters_eq, quote]
  split
  · rename_i kept
    rw [List.all_eq_true] at kept
    have ascii : ((Text.utf8 text).all fun byte => Nat.blt byte.toNat 128) = true := by
      rw [List.all_eq_true]
      exact fun byte member => Nat.blt_eq.mpr (encodeCharacter_plain (kept byte member)).1
    rw [Text.characters, if_pos ascii, List.flatMap_map,
      List.flatMap_congr fun byte member => (encodeCharacter_plain (kept byte member)).2, List.flatMap_singleton']
  · rfl

theorem reads_quote (text : String) : Reads accepts depth (quote text) (.string text) where
  starts := ⟨0x22, _, rfl, by decide, by decide, by decide⟩
  reads := by
    intro room fuel rest _ enough _
    simp only [quote_eq, List.cons_append, List.length_cons, List.length_append] at enough ⊢
    have long := length_le_flatMap text.toList
    obtain ⟨fuel, rfl⟩ := Nat.exists_eq_add_of_le' (show 1 ≤ fuel by omega)
    rw [value, skipSpace_cons (by decide), List.append_assoc]
    simp only [List.singleton_append]
    rw [stringBody_characters _ _ _ (by simp only [List.length_nil] at enough; omega)]
    simp only [Option.map_some, String.ofList_toList]

theorem reads_bool (choice : Bool) : Reads accepts depth (encodeBool choice) (.bool choice) where
  starts := by cases choice <;> exact ⟨_, _, rfl, by decide, by decide, by decide⟩
  reads := by
    intro room fuel rest _ enough _
    have some : 1 ≤ fuel := Nat.le_trans (by cases choice <;> decide) enough
    obtain ⟨fuel, rfl⟩ := Nat.exists_eq_add_of_le' some
    rw [value]
    cases choice <;> rfl

/-! ### Numbers -/

def integer (number : Int) : Json := .number (String.ofList (intDigits number))

def integerParts (number : Int) : NumberParts := ⟨Text.utf8 (Text.itoa number.natAbs), [], false, []⟩

theorem encodeInt_eq (number : Int) : encodeInt number = Text.utf8 (String.ofList (intDigits number)) := by
  rw [encodeInt, intDigits, Text.utf8_ofList, List.flatMap_append, Text.itoa, Text.utf8_ofList]
  split <;> rfl

theorem encoded_digit {c : Char} (digit : c.isDigit = true) :
    String.utf8EncodeChar c = [UInt8.ofNat c.toNat] ∧ 48 ≤ c.toNat ∧ c.toNat ≤ 57 := by
  obtain ⟨low, high⟩ := Char.isDigit_iff_toNat.mp digit
  have code : c.val.toNat = c.toNat := rfl
  have above : 48 ≤ c.toNat := low
  have below : c.toNat ≤ 57 := high
  refine ⟨?_, above, below⟩
  simp only [String.utf8EncodeChar, code, show c.toNat ≤ 127 by omega, if_true]

theorem isDigit_of_mem_itoa {n : Nat} (member : byte ∈ Text.utf8 (Text.itoa n)) : isDigit byte = true := by
  rw [Text.itoa, Text.utf8_ofList, List.mem_flatMap] at member
  obtain ⟨c, digit, inside⟩ := member
  obtain ⟨encoded, above, below⟩ := encoded_digit (isDigit_toDigits digit)
  rw [encoded, List.mem_singleton] at inside
  subst inside
  simp only [isDigit, Bool.and_eq_true, decide_eq_true_eq, UInt8.le_iff_toNat_le,
    toNat_byte (show c.toNat < 256 by omega)]
  exact ⟨above, below⟩

theorem itoa_starts (number : Nat) : ∃ first tail, Text.utf8 (Text.itoa number) = first :: tail ∧ isDigit first = true := by
  cases written : Text.utf8 (Text.itoa number) with
  | nil =>
    rw [Text.itoa, Text.utf8_ofList, List.flatMap_eq_nil_iff] at written
    obtain ⟨digit, member⟩ := List.exists_mem_of_ne_nil _ (Nat.toDigits_ne_nil (b := 10) (n := number))
    exact absurd (written digit member) String.utf8EncodeChar_ne_nil
  | cons first tail => exact ⟨first, tail, rfl, isDigit_of_mem_itoa (written ▸ List.mem_cons_self)⟩

theorem closes_number (closes : Closes rest) :
    (rest.takeWhile isDigit = [] ∧ rest.dropWhile isDigit = rest) ∧ fractionPart rest = some ([], rest) ∧
      exponentPart rest = some (false, [], rest) := by
  cases rest with
  | nil => exact ⟨⟨rfl, rfl⟩, rfl, rfl⟩
  | cons byte rest =>
    rcases closes with rfl | rfl | rfl
    all_goals exact ⟨⟨rfl, rfl⟩, rfl, rfl⟩

theorem takeWhile_digits {taken : Bytes} (all : ∀ byte ∈ taken, isDigit byte = true) (closes : Closes rest) :
    (taken ++ rest).takeWhile isDigit = taken ∧ (taken ++ rest).dropWhile isDigit = rest := by
  obtain ⟨⟨taken, dropped⟩, _⟩ := closes_number closes
  rw [List.takeWhile_append_of_pos all, List.dropWhile_append_of_pos all, taken, dropped, List.append_nil]
  exact ⟨rfl, rfl⟩

theorem integerPart_itoa (number : Nat) (closes : Closes rest) :
    integerPart (Text.utf8 (Text.itoa number) ++ rest) = some (Text.utf8 (Text.itoa number), rest) := by
  obtain ⟨taken, dropped⟩ := takeWhile_digits (fun _ => isDigit_of_mem_itoa (n := number)) closes
  unfold integerPart
  split
  · -- a leading zero is the whole number
    rename_i tail leading
    cases written : Nat.toDigits 10 number with
    | nil => exact absurd written Nat.toDigits_ne_nil
    | cons first others =>
      obtain ⟨encoded, above, below⟩ := encoded_digit (isDigit_toDigits (written ▸ List.mem_cons_self))
      have same := leading
      rw [Text.itoa, Text.utf8_ofList, written, List.flatMap_cons, encoded] at same
      injection same with isZero _
      have code := congrArg UInt8.toNat isZero
      rw [toNat_byte (by omega)] at code
      have symbol : first = '0' := by rw [← Char.ofNat_toNat first, code]; rfl
      rw [symbol] at written
      have zero := toDigits_leading_zero written
      subst zero
      injection leading with _ rests
      rw [← rests]
      rfl
  · obtain ⟨first, others, written, _⟩ := itoa_starts number
    rw [written] at taken dropped ⊢
    simp only [Json.digits, taken, dropped, List.isEmpty_cons, Bool.false_eq_true, if_false]

theorem numberParts_encodeInt (number : Int) (closes : Closes rest) :
    numberParts (encodeInt number ++ rest) = some (integerParts number, rest) := by
  obtain ⟨_, noFraction, noExponent⟩ := closes_number closes
  unfold encodeInt
  split
  · simp only [List.nil_append, List.cons_append, numberParts, integerPart_itoa _ closes, bind, Option.bind, noFraction,
      noExponent]
    rfl
  · unfold numberParts
    simp only [List.nil_append]
    split
    · -- a digit is not a minus sign
      rename_i tail minus
      obtain ⟨first, others, written, digit⟩ := itoa_starts number.natAbs
      rw [written] at minus
      injection minus with isMinus _
      subst isMinus
      cases digit
    · simp only [integerPart_itoa _ closes, bind, Option.bind, noFraction, noExponent]
      rfl

theorem asciiText_encodeInt (number : Int) : asciiText (encodeInt number) = String.ofList (intDigits number) := by
  rw [asciiText, encodeInt_eq, Text.utf8_ofList, Text.decoded_ascii]
  intro byte member
  obtain ⟨c, inside, isByte⟩ := List.mem_flatMap.mp member
  rcases List.mem_append.mp inside with sign | digit
  · have minus : c = '-' := by
      split at sign
      · exact List.mem_singleton.mp sign
      · cases sign
    subst minus
    rw [List.mem_singleton.mp isByte]
    decide
  · obtain ⟨encoded, _, below⟩ := encoded_digit (isDigit_toDigits digit)
    rw [encoded, List.mem_singleton] at isByte
    rw [isByte, toNat_byte (by omega)]
    omega

theorem encodeInt_starts (number : Int) :
    ∃ first tail, encodeInt number = first :: tail ∧ (first = 0x2D ∨ isDigit first = true) := by
  unfold encodeInt
  split
  · exact ⟨_, _, rfl, Or.inl rfl⟩
  · obtain ⟨first, others, written, digit⟩ := itoa_starts number.natAbs
    exact ⟨first, others, written, Or.inr digit⟩

theorem reads_encodeInt (number : Int) (accepted : accepts (integerParts number) = true) :
    Reads accepts depth (encodeInt number) (integer number) where
  starts := by
    obtain ⟨first, tail, written, kind⟩ := encodeInt_starts number
    refine ⟨first, tail, written, ?_⟩
    rcases kind with rfl | digit
    · decide
    · exact digit_solid digit
  reads := by
    intro room fuel rest _ enough closes
    obtain ⟨first, tail, written, kind⟩ := encodeInt_starts number
    rw [written, List.length_cons] at enough
    obtain ⟨fuel, rfl⟩ := Nat.exists_eq_add_of_le' (show 1 ≤ fuel by omega)
    have parts := numberParts_encodeInt number closes
    have consumed : ((encodeInt number ++ rest).take ((encodeInt number ++ rest).length - rest.length)) =
        encodeInt number := by simp
    rw [written, List.cons_append] at parts consumed ⊢
    rw [value_number kind, parts]
    simp only [Option.bind_some, accepted, if_true]
    rw [consumed, ← written, asciiText_encodeInt]
    rfl

/-! ### Arrays and objects -/

def commaSeparated : List Bytes → Bytes
  | [] => []
  | [item] => item
  | item :: rest => item ++ 0x2C :: commaSeparated rest

theorem separated_eq (closing : Bytes) (items : List Bytes) : separated closing items = commaSeparated items ++ closing := by
  fun_induction commaSeparated items with
  | case1 => rfl
  | case2 item => rfl
  | case3 item rest some ih =>
    rw [separated, ih, List.append_assoc, List.cons_append]
    exact some

theorem encodeArray_eq (items : List Bytes) : encodeArray items = 0x5B :: commaSeparated items ++ [0x5D] :=
  congrArg _ (separated_eq _ _)

theorem elements_commaSeparated {items : List Bytes} {results : List Json}
    (spelt : List.Forall₂ (Reads accepts depth) items results) (some : items ≠ []) {room : Nat} (rest : Bytes)
    (deep : depth ≤ room) (enough : 2 * (commaSeparated items).length + 1 ≤ fuel) :
    elements accepts fuel room (commaSeparated items ++ 0x5D :: rest) = .some (results, rest) := by
  induction spelt generalizing fuel with
  | nil => exact absurd rfl some
  | @cons item result items results first others ih =>
    obtain ⟨fuel, rfl⟩ := Nat.exists_eq_add_of_le' (show 1 ≤ fuel by omega)
    cases others with
    | nil =>
      simp only [commaSeparated] at enough ⊢
      rw [elements, first.reads deep (by omega) (closes_bracket rest)]
      rfl
    | @cons second _ _ _ _ _ =>
      simp only [commaSeparated, List.length_append, List.length_cons] at enough ih ⊢
      rw [List.append_assoc, List.cons_append, elements, first.reads deep (by omega) (closes_comma _)]
      simp only [bind, Option.bind, skipSpace_cons (show isSpace 0x2C = false by decide)]
      rw [ih (by simp) (by omega)]
      rfl

theorem commaSeparated_starts {item : Bytes} (spelt : Reads accepts depth item result) (items : List Bytes) :
    ∃ first tail, commaSeparated (item :: items) = first :: tail ∧ isSpace first = false ∧ first ≠ 0x5D ∧ first ≠ 0x7D := by
  obtain ⟨first, tail, rfl, plain⟩ := spelt.starts
  cases items with
  | nil => exact ⟨first, tail, rfl, plain⟩
  | cons second others => exact ⟨first, _, rfl, plain⟩

theorem reads_enclosed {opening closing : UInt8} {inner : Bytes}
    (plain : isSpace opening = false ∧ opening ≠ 0x5D ∧ opening ≠ 0x7D)
    (inside : ∀ {room fuel : Nat} (rest : Bytes), depth ≤ room → 2 * inner.length + 1 ≤ fuel →
      value accepts (fuel + 1) (room + 1) (opening :: (inner ++ closing :: rest)) = some (result, rest)) :
    Reads accepts (depth + 1) (opening :: inner ++ [closing]) result where
  starts := ⟨opening, _, rfl, plain⟩
  reads := by
    intro room fuel rest deep enough _
    obtain ⟨room, rfl⟩ := Nat.exists_eq_add_of_le' (show 1 ≤ room by omega)
    simp only [List.cons_append, List.length_cons, List.length_append, List.length_nil] at enough ⊢
    obtain ⟨fuel, rfl⟩ := Nat.exists_eq_add_of_le' (show 1 ≤ fuel by omega)
    rw [List.append_assoc, List.singleton_append]
    exact inside rest (by omega) (by omega)

theorem reads_encodeArray {items : List Bytes} {results : List Json}
    (spelt : List.Forall₂ (Reads accepts depth) items results) :
    Reads accepts (depth + 1) (encodeArray items) (.array results) := by
  rw [encodeArray_eq]
  refine reads_enclosed (by decide) fun rest deep enough => ?_
  cases spelt with
  | nil =>
    rw [commaSeparated, List.nil_append, value, skipSpace_cons (by decide)]
    rfl
  | @cons item result items results first others =>
    have whole := elements_commaSeparated (.cons first others) (List.cons_ne_nil _ _) rest deep enough
    obtain ⟨byte, tail, written, solid, inside, _⟩ := commaSeparated_starts first items
    rw [written, List.cons_append] at whole ⊢
    rw [value_array solid inside, whole]
    rfl

def encodeMember (field : String × Bytes) : Bytes := quote field.1 ++ 0x3A :: field.2

theorem encodeObject_eq (fields : List (String × Bytes)) :
    encodeObject fields = 0x7B :: commaSeparated (fields.map encodeMember) ++ [0x7D] := congrArg _ (separated_eq _ _)

/-- The encoded field spells the value under the same key. -/
def MemberReads (accepts : NumberParts → Bool) (depth : Nat) (field : String × Bytes) (member : String × Json) : Prop :=
  field.1 = member.1 ∧ Reads accepts depth field.2 member.2

theorem members_step {room : Nat} {key : String} {item : Json} (spelt : Reads accepts depth bytes item)
    (deep : depth ≤ room) (enough : 2 * (encodeMember (key, bytes)).length ≤ fuel) (closes : Closes tail) :
    members accepts (fuel + 1) room fields (encodeMember (key, bytes) ++ tail) =
      match skipSpace tail with
      | 0x2C :: rest => members accepts fuel room (insertField key item fields) rest
      | 0x7D :: rest => some (insertField key item fields, rest)
      | _ => none := by
  have long := length_le_flatMap key.toList
  simp only [encodeMember, quote_eq, List.cons_append, List.length_cons, List.length_append,
    List.append_assoc, List.nil_append] at enough ⊢
  rw [members, skipSpace_cons (by decide)]
  simp only [bind, Option.bind]
  rw [stringBody_characters _ _ _ (by omega)]
  simp only [skipSpace_cons (show isSpace 0x3A = false by decide), String.ofList_toList]
  rw [spelt.reads deep (by omega) closes]
  rfl

theorem members_commaSeparated {fields : List (String × Bytes)} {results : List (String × Json)}
    (spelt : List.Forall₂ (MemberReads accepts depth) fields results) (nonempty : fields ≠ []) {room : Nat}
    (rest : Bytes) (sofar : List (String × Json)) (deep : depth ≤ room)
    (enough : 2 * (commaSeparated (fields.map encodeMember)).length + 1 ≤ fuel) :
    members accepts fuel room sofar (commaSeparated (fields.map encodeMember) ++ 0x7D :: rest) =
      some (results.foldl (fun fields member => insertField member.1 member.2 fields) sofar, rest) := by
  induction spelt generalizing fuel sofar with
  | nil => exact absurd rfl nonempty
  | @cons field result fields results first others ih =>
    obtain ⟨key, bytes⟩ := field
    obtain ⟨same, spelt⟩ := first
    dsimp only at same spelt
    obtain ⟨fuel, rfl⟩ := Nat.exists_eq_add_of_le' (show 1 ≤ fuel by omega)
    cases others with
    | nil =>
      simp only [List.map_cons, List.map_nil, commaSeparated] at enough ⊢
      rw [members_step spelt deep (by omega) (closes_brace rest), skipSpace_cons (by decide), List.foldl_cons, ← same]
      rfl
    | @cons second _ _ _ _ _ =>
      simp only [List.map_cons, commaSeparated, List.length_append, List.length_cons] at enough ih ⊢
      rw [List.append_assoc, List.cons_append, members_step spelt deep (by omega) (closes_comma _),
        skipSpace_cons (by decide), List.foldl_cons, ← same]
      exact ih (by simp) _ (by omega)

def stored (members : List (String × Json)) : List (String × Json) :=
  members.foldl (fun fields member => insertField member.1 member.2 fields) []

theorem reads_encodeObject {fields : List (String × Bytes)} {results : List (String × Json)}
    (spelt : List.Forall₂ (MemberReads accepts depth) fields results) :
    Reads accepts (depth + 1) (encodeObject fields) (.object (stored results)) := by
  rw [encodeObject_eq]
  refine reads_enclosed (by decide) fun rest deep enough => ?_
  cases spelt with
  | nil =>
    rw [List.map_nil, commaSeparated, List.nil_append, value, skipSpace_cons (by decide)]
    rfl
  | @cons field result fields results first others =>
    have whole := members_commaSeparated (.cons first others) (List.cons_ne_nil _ _) rest [] deep enough
    obtain ⟨tail, written⟩ : ∃ tail, commaSeparated ((field :: fields).map encodeMember) = 0x22 :: tail := by
      cases fields with
      | nil => exact ⟨_, rfl⟩
      | cons second others => exact ⟨_, rfl⟩
    rw [written, List.cons_append] at whole ⊢
    rw [value_object (by decide) (by decide), whole]
    rfl

end Values

theorem lookup_cons_if {α : Type} (sought : String) (field : String × α) (rest : List (String × α)) :
    (field :: rest).lookup sought = if sought = field.1 then some field.2 else rest.lookup sought := by
  rw [List.lookup_cons]
  by_cases same : sought = field.1
  · simp [same]
  · rw [beq_eq_false_iff_ne.mpr same, if_neg same]

theorem lookup_insertField (key sought : String) (item : Json) (fields : List (String × Json)) :
    (insertField key item fields).lookup sought = if sought = key then some item else fields.lookup sought := by
  induction fields with
  | nil => exact lookup_cons_if sought (key, item) []
  | cons field rest ih =>
    rw [insertField]
    split
    · exact lookup_cons_if sought (key, item) (field :: rest)
    split
    · rename_i _ same
      rw [lookup_cons_if, lookup_cons_if, same]
      split <;> rfl
    · rename_i _ different
      rw [lookup_cons_if, lookup_cons_if, ih]
      by_cases sameName : sought = field.1
      · have other : sought ≠ key := fun isKey => different (isKey.symm.trans sameName)
        rw [if_pos sameName, if_neg other, if_pos sameName]
      · rw [if_neg sameName, if_neg sameName]

theorem lookup_stored {members : List (String × Json)} (distinct : (members.map Prod.fst).Nodup) (key : String) :
    (stored members).lookup key = members.lookup key := by
  have general : ∀ sofar : List (String × Json),
      (members.foldl (fun fields member => insertField member.1 member.2 fields) sofar).lookup key =
        (members.lookup key).or (sofar.lookup key) := by
    induction members with
    | nil => exact fun _ => rfl
    | cons member rest ih =>
      intro sofar
      simp only [List.map_cons, List.nodup_cons] at distinct
      rw [List.foldl_cons, ih distinct.2, lookup_insertField, lookup_cons_if]
      split
      · rename_i same
        have absent : rest.lookup key = none := by
          rw [List.lookup_eq_none_iff]
          intro other inside
          have different : key ≠ other.1 := fun isOther =>
            distinct.1 (same ▸ isOther ▸ List.mem_map_of_mem inside)
          simpa using different
        rw [absent]
        rfl
      · rfl
  rw [stored, general [], List.lookup_nil, Option.or_none]

theorem mem_insertField {key : String} {item : Json} {field : String × Json}
    (member : field ∈ insertField key item fields) : field.1 = key ∨ field ∈ fields := by
  induction fields with
  | nil => exact Or.inl (congrArg Prod.fst (List.mem_singleton.mp member))
  | cons first rest ih =>
    rw [insertField] at member
    split at member
    · grind
    · split at member <;> grind

theorem keys_stored (members : List (String × Json)) : ∀ field ∈ stored members, field.1 ∈ members.map Prod.fst := by
  have general : ∀ sofar field,
      field ∈ members.foldl (fun fields member => insertField member.1 member.2 fields) sofar →
        field.1 ∈ members.map Prod.fst ∨ field ∈ sofar := by
    induction members with
    | nil => exact fun sofar field member => Or.inr member
    | cons member rest ih =>
      intro sofar field inside
      rcases ih _ field inside with later | now
      · exact Or.inl (List.mem_cons_of_mem _ later)
      · refine (mem_insertField now).imp_left fun same => ?_
        rw [same]
        exact List.mem_cons_self
  intro field member
  exact (general [] field member).resolve_right List.not_mem_nil

theorem reads_texts {accepts : NumberParts → Bool} (fields : List (String × String)) :
    Reads accepts 1 (encodeObject (fields.map fun field => (field.1, quote field.2)))
      (.object (stored (fields.map fun field => (field.1, .string field.2)))) := by
  apply reads_encodeObject
  rw [List.forall₂_map_left_iff, List.forall₂_map_right_iff, List.forall₂_same]
  exact fun field _ => ⟨rfl, reads_quote field.2⟩

theorem lookup_map_string (fields : List (String × String)) (key : String) :
    (fields.map fun field => (field.1, Json.string field.2)).lookup key = (fields.lookup key).map Json.string := by
  induction fields with
  | nil => rfl
  | cons field rest ih =>
    rw [List.map_cons, lookup_cons_if, lookup_cons_if, ih]
    split <;> rfl

/-! Raw text inside a record is written without its white space and with the escapes of the
encoder. Characters of a string are kept; a backslash keeps the one after it. -/

def compactFrom (quoted escaped : Bool) : Bytes → Bytes
  | [] => []
  | byte :: rest =>
      let escaping := quoted && !escaped && byte == 0x5C
      let inside := if byte == 0x22 && !escaped then !quoted else quoted
      if byte == 0x3C || byte == 0x3E || byte == 0x26 then
        [0x5C, 0x75, 0x30, 0x30, hexByte (byte.toNat / 16), hexByte (byte.toNat % 16)] ++ compactFrom inside escaping rest
      else if !quoted && (byte == 0x20 || byte == 0x09 || byte == 0x0A || byte == 0x0D) then
        compactFrom inside escaping rest
      else byte :: compactFrom inside escaping rest

/-- The two line separators are escaped as well. -/
def escapeSeparators : Bytes → Bytes
  | 0xE2 :: 0x80 :: 0xA8 :: rest => [0x5C, 0x75, 0x32, 0x30, 0x32, 0x38] ++ escapeSeparators rest
  | 0xE2 :: 0x80 :: 0xA9 :: rest => [0x5C, 0x75, 0x32, 0x30, 0x32, 0x39] ++ escapeSeparators rest
  | byte :: rest => byte :: escapeSeparators rest
  | [] => []

def compact (raw : Bytes) : Bytes := escapeSeparators (compactFrom false false raw)

example : compact (Text.utf8 " \x7b\"a\" : [ 1, \"< \\\" \" ]\x7d\n") =
    Text.utf8 "\x7b\"a\":[1,\"\\u003c \\\" \"]\x7d" := by decide

/-! A record is read field by field. An absent field and a null keep the zero value, another
kind of value is refused. Names match exactly; the standard library also matches them in
another letter case. -/

def textField (fields : List (String × Json)) (key : String) : Option String :=
  match fields.lookup key with
  | none | some .null => some ""
  | some (.string text) => some text
  | some _ => none

def boolField (fields : List (String × Json)) (key : String) : Option Bool :=
  match fields.lookup key with
  | none | some .null => some false
  | some (.bool choice) => some choice
  | some _ => none

def intField (width : Nat) (fields : List (String × Json)) (key : String) : Option Int :=
  match fields.lookup key with
  | none | some .null => some 0
  | some (.number literal) =>
      (parseInt literal.toList).filter fun number => -2 ^ (width - 1) ≤ number && number < 2 ^ (width - 1)
  | some _ => none

def arrayField (fields : List (String × Json)) (key : String) : Option (List Json) :=
  match fields.lookup key with
  | none | some .null => some []
  | some (.array items) => some items
  | some _ => none

def objectField (fields : List (String × Json)) (key : String) : Option (List (String × Json)) :=
  match fields.lookup key with
  | none | some .null => some []
  | some (.object members) => some members
  | some _ => none

/-- The text of an array's item; a null item is the empty text. -/
def text? : Json → Option String
  | .null => some ""
  | .string text => some text
  | _ => none

def fields? : Json → Option (List (String × Json))
  | .null => some []
  | .object members => some members
  | _ => none

/-- The refusal of fields that the record does not have. -/
def onlyFields (names : List String) (fields : List (String × Json)) : Bool :=
  fields.all fun field => names.contains field.1

theorem onlyFields_stored {names : List String} {members : List (String × Json)}
    (known : ∀ name ∈ members.map Prod.fst, name ∈ names) : onlyFields names (stored members) = true := by
  rw [onlyFields, List.all_eq_true]
  intro field member
  rw [List.contains_iff_mem]
  exact known _ (keys_stored members field member)

theorem textField_eq {key text : String} (found : fields.lookup key = some (.string text)) :
    textField fields key = some text := by
  rw [textField, found]

theorem textField_texts {fields : List (String × String)} (distinct : (fields.map Prod.fst).Nodup) (key : String) :
    textField (stored (fields.map fun field => (field.1, .string field.2))) key = some ((fields.lookup key).getD "") := by
  have keys : (fields.map fun field => (field.1, Json.string field.2)).map Prod.fst = fields.map Prod.fst := by simp
  rw [textField, lookup_stored (by rwa [keys]), lookup_map_string]
  cases fields.lookup key <;> rfl

theorem intField_eq {width : Nat} {key : String} {number : Int} (found : fields.lookup key = some (integer number))
    (low : -2 ^ (width - 1) ≤ number) (high : number < 2 ^ (width - 1)) : intField width fields key = some number := by
  rw [intField, found]
  simp [integer, low, high]

theorem arrayField_eq {key : String} {items : List Json} (found : fields.lookup key = some (.array items)) :
    arrayField fields key = some items := by
  rw [arrayField, found]

theorem objectField_eq {members : List (String × Json)} {key : String}
    (found : fields.lookup key = some (.object members)) : objectField fields key = some members := by
  rw [objectField, found]

end Augr.Foundation.Json
