import Augr.Foundation.Uuid
import Mathlib.Data.Nat.Bitwise

/-! Unicode text as the standard library of the program normalises it.

Trimming removes white space at both ends. Case mapping acts on one character at
a time; outside ASCII it follows the ranges `(first, last, stride, offset)` of the
Unicode simple case mappings, most of which hold in both directions.
-/

set_option autoImplicit false

namespace Augr.Foundation.Text

abbrev CaseRange := Nat × Nat × Nat × Int

/-- Capital letters whose small letters are at the offset, and the other way round. -/
def pairedRanges : List CaseRange := [
  (192, 214, 1, 32), (216, 222, 1, 32), (256, 302, 2, 1), (306, 310, 2, 1), (313, 327, 2, 1), (330, 374, 2, 1),
  (377, 381, 2, 1), (386, 388, 2, 1), (393, 394, 1, 205), (416, 420, 2, 1), (433, 434, 1, 217), (435, 437, 2, 1),
  (478, 494, 2, 1), (504, 542, 2, 1), (546, 562, 2, 1), (582, 590, 2, 1), (880, 882, 2, 1), (904, 906, 1, 37),
  (910, 911, 1, 63), (913, 929, 1, 32), (931, 939, 1, 32), (984, 1006, 2, 1), (1021, 1023, 1, -130),
  (1024, 1039, 1, 80), (1040, 1071, 1, 32), (1120, 1152, 2, 1), (1162, 1214, 2, 1), (1217, 1229, 2, 1),
  (1232, 1326, 2, 1), (1329, 1366, 1, 48), (4256, 4293, 1, 7264), (5024, 5103, 1, 38864), (5104, 5109, 1, 8),
  (7312, 7354, 1, -3008), (7357, 7359, 1, -3008), (7680, 7828, 2, 1), (7840, 7934, 2, 1), (7944, 7951, 1, -8),
  (7960, 7965, 1, -8), (7976, 7983, 1, -8), (7992, 7999, 1, -8), (8008, 8013, 1, -8), (8025, 8031, 2, -8),
  (8040, 8047, 1, -8), (8072, 8079, 1, -8), (8088, 8095, 1, -8), (8104, 8111, 1, -8), (8120, 8121, 1, -8),
  (8122, 8123, 1, -74), (8136, 8139, 1, -86), (8152, 8153, 1, -8), (8154, 8155, 1, -100), (8168, 8169, 1, -8),
  (8170, 8171, 1, -112), (8184, 8185, 1, -128), (8186, 8187, 1, -126), (8544, 8559, 1, 16), (9398, 9423, 1, 26),
  (11264, 11311, 1, 48), (11367, 11371, 2, 1), (11390, 11391, 1, -10815), (11392, 11490, 2, 1), (11499, 11501, 2, 1),
  (42560, 42604, 2, 1), (42624, 42650, 2, 1), (42786, 42798, 2, 1), (42802, 42862, 2, 1), (42873, 42875, 2, 1),
  (42878, 42886, 2, 1), (42896, 42898, 2, 1), (42902, 42920, 2, 1), (42932, 42946, 2, 1), (42951, 42953, 2, 1),
  (42966, 42968, 2, 1), (65313, 65338, 1, 32), (66560, 66599, 1, 40), (66736, 66771, 1, 40), (66928, 66938, 1, 39),
  (66940, 66954, 1, 39), (66956, 66962, 1, 39), (66964, 66965, 1, 39), (68736, 68786, 1, 64), (71840, 71871, 1, 32),
  (93760, 93791, 1, 32), (125184, 125217, 1, 34)]

/-- Those that stand alone. -/
def pairedLetters : List (Nat × Int) := [
  (376, -121), (385, 210), (390, 206), (391, 1), (395, 1), (398, 79), (399, 202), (400, 203), (401, 1), (403, 205),
  (404, 207), (406, 211), (407, 209), (408, 1), (412, 211), (413, 213), (415, 214), (422, 218), (423, 1), (425, 218),
  (428, 1), (430, 218), (431, 1), (439, 219), (440, 1), (444, 1), (452, 2), (455, 2), (458, 2), (497, 2), (502, -97),
  (503, -56), (544, -130), (570, 10795), (571, 1), (573, -163), (574, 10792), (577, 1), (579, -195), (580, 69),
  (581, 71), (886, 1), (895, 116), (902, 38), (908, 64), (975, 8), (1015, 1), (1017, -7), (1018, 1), (1216, 15),
  (4295, 7264), (4301, 7264), (8124, -9), (8140, -9), (8172, -7), (8188, -9), (8498, 28), (8579, 1), (11360, 1),
  (11362, -10743), (11363, -3814), (11364, -10727), (11373, -10780), (11374, -10749), (11375, -10783),
  (11376, -10782), (11378, 1), (11381, 1), (11506, 1), (42877, -35332), (42891, 1), (42893, -42280), (42922, -42308),
  (42923, -42319), (42924, -42315), (42925, -42305), (42926, -42308), (42928, -42258), (42929, -42282),
  (42930, -42261), (42931, 928), (42948, -48), (42949, -42307), (42950, -35384), (42960, 1), (42997, 1)]

def CaseRange.inverse (range : CaseRange) : CaseRange :=
  (((range.1 : Int) + range.2.2.2).toNat, ((range.2.1 : Int) + range.2.2.2).toNat, range.2.2.1, -range.2.2.2)

def paired : List CaseRange := pairedRanges ++ pairedLetters.map fun (code, offset) => (code, code, 1, offset)

def lowerRanges : List CaseRange := paired ++ [
  (304, 304, 1, -199), (453, 453, 1, 1), (456, 456, 1, 1), (459, 475, 2, 1), (498, 500, 2, 1), (1012, 1012, 1, -60),
  (7838, 7838, 1, -7615), (8486, 8486, 1, -7517), (8490, 8490, 1, -8383), (8491, 8491, 1, -8262)]

def upperRanges : List CaseRange := paired.map CaseRange.inverse ++ [
  (181, 181, 1, 743), (305, 305, 1, -232), (383, 383, 1, -300), (453, 453, 1, -1), (456, 456, 1, -1),
  (459, 459, 1, -1), (462, 476, 2, -1), (498, 498, 1, -1), (501, 501, 1, -1), (837, 837, 1, 84), (962, 962, 1, -31),
  (976, 976, 1, -62), (977, 977, 1, -57), (981, 981, 1, -47), (982, 982, 1, -54), (1008, 1008, 1, -86),
  (1009, 1009, 1, -80), (1013, 1013, 1, -96), (7296, 7296, 1, -6254), (7297, 7297, 1, -6253), (7298, 7298, 1, -6244),
  (7299, 7300, 1, -6242), (7301, 7301, 1, -6243), (7302, 7302, 1, -6236), (7303, 7303, 1, -6181),
  (7304, 7304, 1, 35266), (7835, 7835, 1, -59), (8126, 8126, 1, -7205)]

def CaseRange.covers (range : CaseRange) (code : Nat) : Bool :=
  range.1 ≤ code && code ≤ range.2.1 && (code - range.1) % range.2.2.1 == 0

def mapCase (ranges : List CaseRange) (c : Char) : Char :=
  match ranges.find? (CaseRange.covers · c.toNat) with
  | some range => Char.ofNat ((c.toNat : Int) + range.2.2.2).toNat
  | none => c

def lowerChar (c : Char) : Char :=
  if c.toNat < 128 then
    if 'A' ≤ c ∧ c ≤ 'Z' then Char.ofNat (c.toNat + 32) else c
  else mapCase lowerRanges c

def upperChar (c : Char) : Char :=
  if c.toNat < 128 then
    if 'a' ≤ c ∧ c ≤ 'z' then Char.ofNat (c.toNat - 32) else c
  else mapCase upperRanges c

def isSpace (c : Char) : Bool :=
  let code := c.toNat
  9 ≤ code && code ≤ 13 || code == 32 || code == 0x85 || code == 0xA0 || code == 0x1680 ||
    0x2000 ≤ code && code ≤ 0x200A || code == 0x2028 || code == 0x2029 || code == 0x202F ||
    code == 0x205F || code == 0x3000

def trim (characters : List Char) : List Char :=
  ((characters.dropWhile isSpace).reverse.dropWhile isSpace).reverse

def utf8 (value : String) : Bytes := value.toUTF8.data.toList

/-- The characters of a string; plain ASCII is read byte by byte. -/
def characters (value : String) : List Char :=
  let bytes := utf8 value
  if bytes.all fun byte => Nat.blt byte.toNat 128 then bytes.map fun byte => Char.ofNat byte.toNat
  else value.toList

/-- Text with nothing to trim is returned as it is. -/
def trimSpace (value : String) : String :=
  let given := characters value
  let trimmed := trim given
  if trimmed.length == given.length then value else String.ofList trimmed

/-- Text that the mapping does not change is returned as it is. -/
def mapCharacters (change : Char → Char) (value : String) : String :=
  let given := characters value
  if given.all fun c => change c == c then value else String.ofList (given.map change)

def toLower (value : String) : String := mapCharacters lowerChar value

def toUpper (value : String) : String := mapCharacters upperChar value

def hasPrefix (value start : String) : Bool := (utf8 start).isPrefixOf (utf8 value)

def trimPrefix (value start : String) : String :=
  if hasPrefix value start then String.ofList (value.toList.drop start.toList.length) else value

-- What the program calls a string's length is its number of bytes.
def byteLength (value : String) : Nat := value.utf8ByteSize

def itoa (value : Nat) : String := String.ofList (Nat.toDigits 10 value)

theorem utf8_injective : Function.Injective utf8 := by
  intro left right same
  have bytes : left.toUTF8 = right.toUTF8 := ByteArray.ext (Array.toList_inj.mp same)
  exact String.toByteArray_inj.mp bytes

theorem utf8_ofList (text : List Char) : utf8 (String.ofList text) = text.flatMap String.utf8EncodeChar := by
  simp only [utf8, List.utf8Encode, String.toUTF8_eq_toByteArray, String.toByteArray_ofList, List.data_toByteArray]

theorem encoded_ascii {c : Char} (ascii : ∀ byte ∈ String.utf8EncodeChar c, byte.toNat < 128) :
    (String.utf8EncodeChar c).map (fun byte => Char.ofNat byte.toNat) = [c] := by
  simp only [String.utf8EncodeChar] at ascii ⊢
  split at ascii
  · rename_i small
    have value : c.val.toNat % 256 = c.val.toNat := Nat.mod_eq_of_lt (by omega)
    rw [if_pos small]
    simp only [List.map_cons, List.map_nil, UInt8.toNat_ofNat', Nat.reducePow, value]
    exact congrArg (fun c => [c]) (Char.ofNat_toNat c)
  · -- every longer encoding ends in a continuation byte
    have trailing : (UInt8.ofNat (c.val.toNat % 64 + 128)).toNat < 128 := by
      apply ascii
      repeat' split
      all_goals simp
    simp only [UInt8.toNat_ofNat'] at trailing
    omega

theorem decoded_ascii {text : List Char} (ascii : ∀ byte ∈ text.flatMap String.utf8EncodeChar, byte.toNat < 128) :
    (text.flatMap String.utf8EncodeChar).map (fun byte => Char.ofNat byte.toNat) = text := by
  induction text with
  | nil => rfl
  | cons c rest ih =>
    simp only [List.flatMap_cons, List.forall_mem_append] at ascii
    rw [List.flatMap_cons, List.map_append, encoded_ascii ascii.1, ih ascii.2, List.singleton_append]

theorem characters_eq (value : String) : characters value = value.toList := by
  have bytes : utf8 value = value.toList.flatMap String.utf8EncodeChar := by
    rw [← utf8_ofList, String.ofList_toList]
  simp only [characters, bytes]
  split
  · rename_i ascii
    refine decoded_ascii fun byte member => ?_
    have small := List.all_eq_true.mp ascii byte member
    simpa using small
  · rfl

theorem itoa_injective : Function.Injective itoa := by
  intro left right same
  have digits := String.ofList_injective same
  rw [← @Nat.ofDigitChars_ten_toDigits left, digits, Nat.ofDigitChars_ten_toDigits]

theorem colon_notMem_itoa (value : Nat) : (0x3A : UInt8) ∉ utf8 (itoa value) := by
  intro member
  rw [itoa, utf8_ofList, List.mem_flatMap] at member
  obtain ⟨c, digit, inside⟩ := member
  have bounds := Nat.isDigit_of_mem_toDigits (by decide) (by decide) digit
  simp only [Char.isDigit, Bool.and_eq_true, decide_eq_true_eq, ge_iff_le, UInt32.le_iff_toNat_le] at bounds
  obtain ⟨low, high⟩ := bounds
  have ascii : c.val.toNat ≤ 0x7f := le_trans high (by decide)
  simp only [String.utf8EncodeChar, ascii, if_true, List.mem_singleton] at inside
  have same := congrArg UInt8.toNat inside
  simp at same high
  omega

theorem trim_eq_self {characters : List Char} (solid : ∀ c ∈ characters, isSpace c = false) :
    trim characters = characters := by
  have keep : ∀ items : List Char, (∀ c ∈ items, isSpace c = false) → items.dropWhile isSpace = items := by
    intro items solid
    cases items with
    | nil => rfl
    | cons first rest => simp [solid first (by simp)]
  rw [trim, keep characters solid, keep characters.reverse (by simpa using solid), List.reverse_reverse]

theorem trim_between {first last : Char} (start : isSpace first = false) (finish : isSpace last = false)
    (middle : List Char) : trim (first :: middle ++ [last]) = first :: middle ++ [last] := by
  rw [trim, List.cons_append, List.dropWhile_cons_of_neg (by simp [start]), ← List.cons_append, List.reverse_append,
    List.reverse_singleton, List.singleton_append, List.dropWhile_cons_of_neg (by simp [finish]), List.reverse_cons,
    List.reverse_reverse]

theorem length_dropWhile_le {α : Type} (test : α → Bool) (items : List α) :
    (items.dropWhile test).length ≤ items.length :=
  (List.dropWhile_suffix test).length_le

theorem trim_eq_of_length {characters : List Char} (full : characters.length ≤ (trim characters).length) :
    trim characters = characters := by
  have inner := length_dropWhile_le isSpace characters
  have outer := length_dropWhile_le isSpace (characters.dropWhile isSpace).reverse
  simp only [trim, List.length_reverse] at full outer
  have left : characters.dropWhile isSpace = characters :=
    (List.dropWhile_suffix isSpace).eq_of_length (by omega)
  have right : characters.reverse.dropWhile isSpace = characters.reverse := by
    rw [left] at outer full
    exact (List.dropWhile_suffix isSpace).eq_of_length (by simp at outer full ⊢; omega)
  rw [trim, left, right, List.reverse_reverse]

theorem trimSpace_eq (value : String) : trimSpace value = String.ofList (trim value.toList) := by
  simp only [trimSpace, characters_eq, beq_iff_eq]
  split
  · rename_i full
    rw [trim_eq_of_length (ge_of_eq full), String.ofList_toList]
  · rfl

theorem mapCharacters_eq (change : Char → Char) (value : String) :
    mapCharacters change value = String.ofList (value.toList.map change) := by
  simp only [mapCharacters, characters_eq, List.all_eq_true, beq_iff_eq]
  split
  · rename_i fixed
    rw [List.map_congr_left fixed, List.map_id', String.ofList_toList]
  · rfl

theorem solid_toText (id : Uuid) : ∀ c ∈ id.toText.toList, isSpace c = false := by
  intro c member
  rw [Uuid.toText, String.toList_ofList] at member
  rcases Uuid.mem_characters member with rfl | digit
  · decide
  · have known := List.all_eq_true.mp (rfl : hexDigits.all (!isSpace ·) = true) c digit
    simpa using known

@[simp] theorem trimSpace_toText (id : Uuid) : trimSpace id.toText = id.toText := by
  rw [trimSpace_eq, trim_eq_self (solid_toText id), String.ofList_toList]

theorem toText_ne_empty (id : Uuid) : id.toText ≠ "" := by
  intro same
  have none := congrArg String.toList same
  simp [Uuid.toText] at none
  exact Uuid.characters_ne_nil id none

end Augr.Foundation.Text
