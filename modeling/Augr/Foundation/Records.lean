import Augr.Foundation.Codec
import Augr.Foundation.Parse

/-! Lists, optional texts and identifiers inside JSON records. -/

set_option autoImplicit false

namespace Augr.Foundation

def hexText (bytes : Bytes) : Bytes := (hex bytes).flatMap String.utf8EncodeChar

theorem hexText_cons (byte : UInt8) (rest : Bytes) : hexText (byte :: rest) = hexText [byte] ++ hexText rest := by
  simp [hexText, hex]

theorem hexText_append (left right : Bytes) : hexText (left ++ right) = hexText left ++ hexText right := by
  simp [hexText, hex]

theorem hexText_byte (byte : UInt8) : ∃ high low, hexText [byte] = [high, low] ∧
    ∃ left right, hexDigitValue high = some left ∧ hexDigitValue low = some right ∧ left * 16 + right = byte := by
  have digit : ∀ n < 16, ∃ mark, String.utf8EncodeChar (hexDigits.getD n '0') = [mark] ∧
      hexDigitValue mark = some (UInt8.ofNat n) := by
    intro n small
    have cases : ∀ n < 16, (String.utf8EncodeChar (hexDigits.getD n '0')).length = 1 ∧
        hexDigitValue ((String.utf8EncodeChar (hexDigits.getD n '0')).headD 0) = some (UInt8.ofNat n) := by decide
    obtain ⟨single, value⟩ := cases n small
    obtain ⟨mark, isMark⟩ := List.length_eq_one_iff.mp single
    rw [isMark] at value ⊢
    exact ⟨mark, rfl, value⟩
  have bound := byte.toNat_lt
  obtain ⟨high, isHigh, left⟩ := digit (byte.toNat / 16) (by omega)
  obtain ⟨low, isLow, right⟩ := digit (byte.toNat % 16) (by omega)
  refine ⟨high, low, ?_, _, _, left, right, ?_⟩
  · simp only [hexText, hex, List.flatMap_cons, List.flatMap_nil, List.append_nil, hexByte, isHigh, isLow]
    rfl
  · apply UInt8.toNat_inj.mp
    have sixteen : UInt8.toNat 16 = 16 := rfl
    simp only [UInt8.toNat_add, UInt8.toNat_mul, UInt8.toNat_ofNat', sixteen]
    omega

theorem hexBytes_hexText (bytes : Bytes) : hexBytes (hexText bytes) = some bytes := by
  induction bytes with
  | nil => rfl
  | cons byte rest ih =>
    obtain ⟨high, low, digits, left, right, isHigh, isLow, value⟩ := hexText_byte byte
    rw [hexText_cons, digits, List.cons_append, List.cons_append, List.nil_append, hexBytes, isHigh, isLow, ih, ← value]
    rfl

@[simp] theorem length_hexText (bytes : Bytes) : (hexText bytes).length = 2 * bytes.length := by
  induction bytes with
  | nil => rfl
  | cons byte rest ih =>
    obtain ⟨high, low, digits, _⟩ := hexText_byte byte
    rw [hexText_cons, digits, List.length_append, ih, List.length_cons, List.length_cons, List.length_cons, List.length_nil]
    omega

theorem dashed_pieces {p q r s : Bytes} (t : Bytes) (first : p.length = 8) (second : q.length = 4) (third : r.length = 4)
    (fourth : s.length = 4) :
    let all := p ++ 0x2D :: (q ++ 0x2D :: (r ++ 0x2D :: (s ++ 0x2D :: t)))
    all[8]? = some 0x2D ∧ all[13]? = some 0x2D ∧ all[18]? = some 0x2D ∧ all[23]? = some 0x2D ∧
      all.take 8 ++ (all.drop 9).take 4 ++ (all.drop 14).take 4 ++ (all.drop 19).take 4 ++ all.drop 24 =
        p ++ (q ++ (r ++ (s ++ t))) := by
  refine ⟨?_, ?_, ?_, ?_, ?_⟩
  · simp [first]
  · simp [List.getElem?_append, first, second]
  · simp [List.getElem?_append, first, second, third]
  · simp [List.getElem?_append, first, second, third, fourth]
  · simp [List.drop_append, first, second, third, fourth, List.drop_of_length_le]

theorem Uuid.parse_toText (id : Uuid) : Uuid.parse id.toText = .ok id := by
  obtain ⟨bytes, width⟩ := id
  obtain ⟨a, b, c, d, e, split, la, lb, lc, ld, le⟩ : ∃ a b c d e : Bytes, bytes = a ++ (b ++ (c ++ (d ++ e))) ∧
      a.length = 4 ∧ b.length = 2 ∧ c.length = 2 ∧ d.length = 2 ∧ e.length = 6 := by
    refine ⟨bytes.take 4, (bytes.drop 4).take 2, (bytes.drop 6).take 2, (bytes.drop 8).take 2, bytes.drop 10, ?_, ?_⟩
    · have step : ∀ count, bytes.drop count = (bytes.drop count).take 2 ++ bytes.drop (count + 2) := by
        intro count
        rw [← List.drop_drop, List.take_append_drop]
      rw [← step 8, ← step 6, ← step 4, List.take_append_drop]
    · simp [width]
  have text : Text.utf8 (Uuid.toText ⟨bytes, width⟩) =
      hexText a ++ 0x2D :: (hexText b ++ 0x2D :: (hexText c ++ 0x2D :: (hexText d ++ 0x2D :: hexText e))) := by
    have dash : String.utf8EncodeChar '-' = [0x2D] := rfl
    rw [Uuid.toText, Text.utf8_ofList]
    simp only [Uuid.characters, split, List.take_append, List.drop_append, la, lb, lc, ld, List.take_of_length_le,
      List.drop_of_length_le, List.flatMap_append, List.flatMap_cons, dash, Nat.sub_self, Nat.reduceSub, Nat.reduceLeDiff,
      le_refl, List.take_zero, List.drop_zero, List.append_nil, List.nil_append]
    simp [hexText]
  rw [Uuid.parse, text]
  have long : (hexText a ++ 0x2D :: (hexText b ++ 0x2D :: (hexText c ++ 0x2D :: (hexText d ++ 0x2D :: hexText e)))).length =
      36 := by
    simp [la, lb, lc, ld, le]
  obtain ⟨first, second, third, fourth, digits⟩ := dashed_pieces (hexText e) (by simp [la] : (hexText a).length = 8)
    (by simp [lb] : (hexText b).length = 4) (by simp [lc] : (hexText c).length = 4) (by simp [ld] : (hexText d).length = 4)
  have value : (hexBytes (hexText a ++ (hexText b ++ (hexText c ++ (hexText d ++ hexText e))))).bind Uuid.ofBytes =
      some ⟨bytes, width⟩ := by
    rw [← hexText_append, ← hexText_append, ← hexText_append, ← hexText_append, ← split, hexBytes_hexText]
    exact dif_pos width
  simp only [long, ok_bind, first, second, third, fourth, digits, value]
  rfl

theorem mapM_read {α β : Type} {value : α → β} {read : β → Option α} (items : List α)
    (each : ∀ item ∈ items, read (value item) = some item) : (items.map value).mapM read = some items := by
  induction items with
  | nil => rfl
  | cons item rest ih =>
    rw [List.forall_mem_cons] at each
    rw [List.map_cons, List.mapM_cons, each.1, ih each.2]
    rfl

namespace Json

variable {accepts : NumberParts → Bool} {depth : Nat}

theorem reads_list {α : Type} {encode : α → Bytes} {value : α → Json} (items : List α)
    (each : ∀ item ∈ items, Reads accepts depth (encode item) (value item)) :
    Reads accepts (depth + 1) (encodeArray (items.map encode)) (.array (items.map value)) := by
  apply reads_encodeArray
  rw [List.forall₂_map_left_iff, List.forall₂_map_right_iff, List.forall₂_same]
  exact each

theorem object_bind {α : Type} (members : List (String × Json)) (next : List (String × Json) → Option α) :
    ((Json.object members).fields? >>= next) = next members := rfl

theorem reads_null : Reads accepts depth (Text.utf8 "null") .null := by
  refine ⟨⟨0x6E, _, rfl, by decide, by decide, by decide⟩, ?_⟩
  intro room fuel rest _ enough _
  obtain ⟨fuel, rfl⟩ := Nat.exists_eq_add_of_le' (show 1 ≤ fuel from Nat.le_trans (by decide) enough)
  change value accepts (fuel + 1) room (0x6E :: 0x75 :: 0x6C :: 0x6C :: rest) = _
  rw [value, skipSpace_cons (by decide)]
  rfl

def optional : Option String → Json
  | none => .null
  | some text => .string text

def optionalField (fields : List (String × Json)) (key : String) : Option (Option String) :=
  match fields.lookup key with
  | none | some .null => some none
  | some (.string text) => some (some text)
  | some _ => none

theorem optionalField_eq {fields : List (String × Json)} {key : String} {text : Option String}
    (found : fields.lookup key = some (optional text)) : optionalField fields key = some text := by
  cases text with
  | none => rw [optionalField, found]; rfl
  | some text => rw [optionalField, found]; rfl

def uuidField (fields : List (String × Json)) (key : String) : Option Uuid :=
  match fields.lookup key with
  | none | some .null => some Uuid.nil
  | some (.string text) => (Uuid.parse text).toOption
  | some _ => none

theorem uuidField_eq {fields : List (String × Json)} {key : String} {id : Uuid}
    (found : fields.lookup key = some (.string id.toText)) : uuidField fields key = some id := by
  rw [uuidField, found]
  simp only [Uuid.parse_toText]
  rfl

end Json

end Augr.Foundation
