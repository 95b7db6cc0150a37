import Augr.Foundation.Sha256

/-! Sixteen-byte identifiers and their canonical hexadecimal text. -/

set_option autoImplicit false

namespace Augr.Foundation

def hexDigits : List Char :=
  ['0', '1', '2', '3', '4', '5', '6', '7', '8', '9', 'a', 'b', 'c', 'd', 'e', 'f']

def hexByte (byte : UInt8) : List Char :=
  [hexDigits.getD (byte.toNat / 16) '0', hexDigits.getD (byte.toNat % 16) '0']

def hex (bytes : Bytes) : List Char := bytes.flatMap hexByte

theorem hexByte_injective : Function.Injective hexByte := by
  intro left right same
  have nibble : ∀ x < 16, ∀ y < 16, hexDigits.getD x '0' = hexDigits.getD y '0' → x = y := by decide
  have leftBound := left.toNat_lt
  have rightBound := right.toNat_lt
  simp only [hexByte, List.cons.injEq, and_true] at same
  have high := nibble _ (by omega) _ (by omega) same.1
  have low := nibble _ (by omega) _ (by omega) same.2
  exact UInt8.toNat_inj.mp (by omega)

theorem hex_injective : Function.Injective hex := by
  intro left
  induction left with
  | nil =>
    intro right same
    cases right with
    | nil => rfl
    | cons first rest => simp [hex, hexByte] at same
  | cons first rest ih =>
    intro right same
    cases right with
    | nil => simp [hex, hexByte] at same
    | cons first' rest' =>
      simp only [hex, List.flatMap_cons] at same
      obtain ⟨head, tail⟩ := List.append_inj same (by simp [hexByte])
      rw [hexByte_injective head, ih tail]

@[simp] theorem length_hex (bytes : Bytes) : (hex bytes).length = 2 * bytes.length := by
  induction bytes with
  | nil => rfl
  | cons first rest ih =>
    simp only [hex, List.flatMap_cons, List.length_append, List.length_cons] at ih ⊢
    rw [ih]
    simp only [hexByte, List.length_cons, List.length_nil]
    omega

theorem mem_hexDigits_of_mem_hex {bytes : Bytes} {c : Char} (member : c ∈ hex bytes) : c ∈ hexDigits := by
  have digit : ∀ n < 16, hexDigits.getD n '0' ∈ hexDigits := by decide
  obtain ⟨byte, _, found⟩ := List.mem_flatMap.mp member
  have bound := byte.toNat_lt
  simp only [hexByte, List.mem_cons, List.not_mem_nil, or_false] at found
  rcases found with rfl | rfl
  · exact digit _ (by omega)
  · exact digit _ (by omega)

structure Uuid where
  bytes : Bytes
  width : bytes.length = 16
  deriving DecidableEq

namespace Uuid

def nil : Uuid := ⟨List.replicate 16 0, by decide⟩

instance : Inhabited Uuid := ⟨nil⟩

instance : Repr Uuid := ⟨fun id _ => Std.Format.text (String.ofList (hex id.bytes))⟩

def characters (id : Uuid) : List Char :=
  hex (id.bytes.take 4) ++ '-' :: hex ((id.bytes.drop 4).take 2) ++ '-' :: hex ((id.bytes.drop 6).take 2) ++
    '-' :: hex ((id.bytes.drop 8).take 2) ++ '-' :: hex (id.bytes.drop 10)

/-- The canonical `8-4-4-4-12` text. -/
def toText (id : Uuid) : String := String.ofList id.characters

def ofDigest (digest : Bytes) (long : digest.length = 32) : Uuid := ⟨digest.take 16, by simp [long]⟩

/-- A small identifier for concrete histories: fifteen zero bytes and a last one. -/
def ofByte (byte : UInt8) : Uuid := ⟨List.replicate 15 0 ++ [byte], by simp⟩

@[ext] theorem ext {left right : Uuid} (same : left.bytes = right.bytes) : left = right := by
  cases left
  cases right
  subst same
  rfl

theorem length_characters (id : Uuid) : id.characters.length = 36 := by
  simp [characters, id.width]

theorem characters_injective : Function.Injective characters := by
  intro left right same
  have leftWidth := left.width
  have rightWidth := right.width
  simp only [characters, List.append_assoc, List.cons_append] at same
  obtain ⟨part1, same⟩ := List.append_inj same (by simp [leftWidth, rightWidth])
  obtain ⟨part2, same⟩ := List.append_inj (List.cons.inj same).2 (by simp [leftWidth, rightWidth])
  obtain ⟨part3, same⟩ := List.append_inj (List.cons.inj same).2 (by simp [leftWidth, rightWidth])
  obtain ⟨part4, same⟩ := List.append_inj (List.cons.inj same).2 (by simp [leftWidth, rightWidth])
  have tail := hex_injective (List.cons.inj same).2
  have split : ∀ bytes : Bytes, bytes = bytes.take 4 ++ ((bytes.drop 4).take 2 ++ ((bytes.drop 6).take 2 ++
      ((bytes.drop 8).take 2 ++ bytes.drop 10))) := by
    intro bytes
    have step : ∀ count, bytes.drop count = (bytes.drop count).take 2 ++ bytes.drop (count + 2) := by
      intro count
      rw [← List.drop_drop, List.take_append_drop]
    rw [← step 8, ← step 6, ← step 4, List.take_append_drop]
  apply Uuid.ext
  rw [split left.bytes, split right.bytes, hex_injective part1, hex_injective part2, hex_injective part3,
    hex_injective part4, tail]

theorem toText_injective : Function.Injective toText := by
  intro left right same
  exact characters_injective (String.ofList_injective same)

@[simp] theorem toText_inj {left right : Uuid} : left.toText = right.toText ↔ left = right :=
  toText_injective.eq_iff

theorem mem_characters {id : Uuid} {c : Char} (member : c ∈ id.characters) : c = '-' ∨ c ∈ hexDigits := by
  simp only [characters, List.mem_append, List.mem_cons] at member
  rcases member with (((found | rfl | found) | rfl | found) | rfl | found) | rfl | found
  all_goals first
    | exact Or.inl rfl
    | exact Or.inr (mem_hexDigits_of_mem_hex found)

theorem characters_ne_nil (id : Uuid) : id.characters ≠ [] := by
  simp [characters]

end Uuid

end Augr.Foundation
