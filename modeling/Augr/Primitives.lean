import Augr.Foundation.Decimal
import Augr.Foundation.Instant
import Augr.Foundation.Json
import Augr.Foundation.Outcome

/-! Identity and the shape checks that every package of the program repeats.

The packages keep private copies of the same helpers (`isCurrency`, `isCurrencyCode`
and `isCurrencyUnit`, the two `normalizeJSONObject` beside the ledger's); they are one
definition here.
-/

set_option autoImplicit false

namespace Augr

open Foundation Text

abbrev RawMessage := Bytes

def componentSeparator : UInt8 := 0x1f

/-- One component as it is hashed, which need not spell text: separator, byte length, colon, bytes. -/
def framed (component : Bytes) : Bytes :=
  componentSeparator :: utf8 (itoa component.length) ++ 0x3A :: component

/-- What the hasher is fed with for a domain and components of any bytes. -/
def hasherInput (domain : Bytes) (components : List Bytes) : Bytes := domain ++ components.flatMap framed

def digestUUID (message : Bytes) : Uuid := Uuid.ofDigest (Sha256.sum message) (Sha256.length_sum message)

/-- The bytes that `deterministicUUID` hashes. -/
def identityBytes (domain : String) (components : List String) : Bytes := hasherInput (utf8 domain) (components.map utf8)

def deterministicUUID (domain : String) (components : List String) : Uuid := digestUUID (identityBytes domain components)

theorem append_mark_inj {α : Type} {mark : α} {left right rest others : List α} (inLeft : mark ∉ left)
    (inRight : mark ∉ right) (same : left ++ mark :: rest = right ++ mark :: others) :
    left = right ∧ rest = others := by
  rcases List.append_eq_append_iff.mp same with ⟨middle, rfl, tail⟩ | ⟨middle, rfl, tail⟩
  all_goals
    cases middle with
    | nil =>
      injection tail with _ tails
      simp [tails]
    | cons first middle =>
      injection tail with isMark _
      subst isMark
      simp at inLeft inRight

theorem framed_append_inj {left right rest others : Bytes} (same : framed left ++ rest = framed right ++ others) :
    left = right ∧ rest = others := by
  simp only [framed, List.cons_append, List.append_assoc, List.cons.injEq, true_and] at same
  obtain ⟨digits, tail⟩ := append_mark_inj (colon_notMem_itoa _) (colon_notMem_itoa _) same
  exact List.append_inj tail (itoa_injective (utf8_injective digits))

theorem flatMap_framed_injective : Function.Injective (List.flatMap framed) := by
  intro components others same
  induction components generalizing others with
  | nil =>
    cases others with
    | nil => rfl
    | cons other rest => simp [framed] at same
  | cons component rest ih =>
    cases others with
    | nil => simp [framed] at same
    | cons other tail =>
      obtain ⟨rfl, tails⟩ := framed_append_inj same
      rw [ih tails]

theorem identityBytes_inj {domain : String} {components others : List String}
    (same : identityBytes domain components = identityBytes domain others) : components = others := by
  have texts := flatMap_framed_injective (List.append_cancel_left same)
  exact List.map_injective_iff.mpr utf8_injective texts

theorem hasherInput_inj {domain other : Bytes} {components others : List Bytes}
    (clean : componentSeparator ∉ domain) (cleanOther : componentSeparator ∉ other)
    (same : hasherInput domain components = hasherInput other others) : domain = other ∧ components = others := by
  suffices domains : domain = other by
    subst domains
    exact ⟨rfl, flatMap_framed_injective (List.append_cancel_left same)⟩
  cases components with
  | nil =>
    cases others with
    | nil => simpa [hasherInput] using same
    | cons =>
      have member : componentSeparator ∈ hasherInput domain [] := same ▸ by simp [hasherInput, framed]
      simp [hasherInput, clean] at member
  | cons =>
    cases others with
    | nil =>
      have member : componentSeparator ∈ hasherInput other [] := same ▸ by simp [hasherInput, framed]
      simp [hasherInput, cleanOther] at member
    | cons =>
      simp only [hasherInput, framed, List.flatMap_cons, List.cons_append] at same
      exact (append_mark_inj clean cleanOther same).1

/-- Two inputs that the truncated hash does not tell apart. -/
def Collision (left right : Bytes) : Prop :=
  left ≠ right ∧
    Uuid.ofDigest (Sha256.sum left) (Sha256.length_sum left) =
      Uuid.ofDigest (Sha256.sum right) (Sha256.length_sum right)

/-- The hasher is fed with the same bytes only for the same domain and components, so two identities
that are different get one identifier only where the hash itself collides. -/
theorem identity_unambiguous {domain other : Bytes} (clean : componentSeparator ∉ domain)
    (cleanOther : componentSeparator ∉ other) (components others : List Bytes) :
    (hasherInput domain components = hasherInput other others → domain = other ∧ components = others) ∧
      (digestUUID (hasherInput domain components) = digestUUID (hasherInput other others) →
        (domain = other ∧ components = others) ∨ Collision (hasherInput domain components) (hasherInput other others)) := by
  have unique := @hasherInput_inj domain other components others clean cleanOther
  refine ⟨unique, fun sameID => ?_⟩
  by_cases same : hasherInput domain components = hasherInput other others
  · exact .inl (unique same)
  · exact .inr ⟨same, sameID⟩

/-- A component that spells the frame of another one. -/
theorem identity_unambiguous_nested :
    hasherInput [0x64] [[0x61], [0x62]] ≠ hasherInput [0x64] [[0x61, 0x1f, 0x31, 0x3A, 0x62]] := by
  intro same
  have components := ((identity_unambiguous (by decide) (by decide) _ _).1 same).2
  cases components

theorem deterministicUUID_inj {domain : String} {components others : List String}
    (free : ¬ Collision (identityBytes domain components) (identityBytes domain others))
    (same : deterministicUUID domain components = deterministicUUID domain others) : components = others := by
  by_contra different
  exact free ⟨fun bytes => different (identityBytes_inj bytes), same⟩

def sha256Hex (value : Bytes) : String := String.ofList (hex (Sha256.sum value))

theorem byteLength_sha256Hex (value : Bytes) : byteLength (sha256Hex value) = 64 := by
  have ascii : ∀ c ∈ hex (Sha256.sum value), String.utf8EncodeChar c = [UInt8.ofNat c.toNat] := by
    have table : ∀ c ∈ hexDigits, String.utf8EncodeChar c = [UInt8.ofNat c.toNat] := by
      intro c member
      have known := List.all_eq_true.mp
        (rfl : (hexDigits.all fun c => String.utf8EncodeChar c == [UInt8.ofNat c.toNat]) = true) c member
      simpa using known
    exact fun c member => table c (mem_hexDigits_of_mem_hex member)
  have bytes : (utf8 (sha256Hex value)).length = (hex (Sha256.sum value)).length := by
    rw [sha256Hex, utf8_ofList, List.length_flatMap]
    rw [List.map_congr_left fun c member => by rw [ascii c member, List.length_singleton]]
    simp
  rw [length_hex, Sha256.length_sum] at bytes
  exact bytes

def isNormalizedRequired (value : String) : Bool := value != "" && value == trimSpace value

/-- Non-empty and equal to its trimmed lowercase form. -/
def isNormalizedLower (value : String) : Bool :=
  value != "" && value == toLower (trimSpace value)

def isCurrencyUnit (value : String) : Bool :=
  byteLength value == 3 && (characters value).all fun character => 'A' ≤ character && character ≤ 'Z'

def hasPostgresTimestampPrecision (value : Instant) : Bool := value.equal value.truncate

def isNormalizedReferenceTime (value : Instant) : Bool := value.utc && value.equal value.truncate

def hasDecimalScaleAtMost (value : Decimal) (places : Int) : Bool := value.equal (value.round places)

/-- `NUMERIC(38,12)`: at most twelve fractional and twenty-six integer digits. -/
def validProjectionDecimal (value : Decimal) : Bool :=
  hasDecimalScaleAtMost value 12 && value.numDigits + value.exponent ≤ 26

def validateDecimalShape (label : String) (value : Decimal) : Outcome Unit := do
  failIf (!hasDecimalScaleAtMost value 12) (.errorf "%s supports at most 12 decimal places" [label])
  failIf (26 < value.numDigits + value.exponent) (.errorf "%s exceeds NUMERIC(38,12) magnitude" [label])

def validatePositiveDecimal (label : String) (value : Decimal) : Outcome Unit := do
  failIf (!value.isPositive) (.errorf "%s must be positive" [label])
  validateDecimalShape label value

def validateNonnegativeDecimal (label : String) (value : Decimal) : Outcome Unit := do
  failIf value.isNegative (.errorf "%s must be nonnegative" [label])
  validateDecimalShape label value

def isExactMultiple (value increment : Decimal) : Bool := increment.isPositive && (value.mod increment).isZero

def emptyObject : RawMessage := [0x7B, 0x7D]

/-- The decoded object, when the text is one whose numbers all fit a float. -/
def decodeObject (value : RawMessage) : Option (List (String × Json)) :=
  match Json.decode Json.NumberParts.fitsFloat value with
  | some (.object fields) => some fields
  | _ => none

def normalizeJSONObject (value : RawMessage) (label : String) : Outcome RawMessage := do
  let normalized := if value.isEmpty then emptyObject else value
  failIf (decodeObject normalized).isNone (.errorf "%s must be a JSON object" [label])
  pure normalized

def jsonSemanticEqual (left right : RawMessage) : Bool :=
  match Json.decodeFirst Json.anyNumber left, Json.decodeFirst Json.anyNumber right with
  | some (left, _), some (right, _) => left.same right
  | _, _ => false

theorem isNormalizedRequired_iff (value : String) :
    isNormalizedRequired value = true ↔ value ≠ "" ∧ trimSpace value = value := by
  simp only [isNormalizedRequired, Bool.and_eq_true, bne_iff_ne, beq_iff_eq]
  exact and_congr_right fun _ => eq_comm

private theorem upper_solid {c : Char} (bounds : 'A' ≤ c ∧ c ≤ 'Z') :
    Text.isSpace c = false ∧ Text.upperChar c = c := by
  have table : ∀ n < 91, 65 ≤ n →
      Text.isSpace (Char.ofNat n) = false ∧ Text.upperChar (Char.ofNat n) = Char.ofNat n := by decide
  have low : 65 ≤ c.toNat := bounds.1
  have high : c.toNat ≤ 90 := bounds.2
  have entry := table c.toNat (by omega) low
  rwa [Char.ofNat_toNat] at entry

theorem currency_normal {value : String} (currency : isCurrencyUnit value = true) :
    value ≠ "" ∧ trimSpace value = value ∧ toUpper value = value := by
  simp only [isCurrencyUnit, characters_eq, Bool.and_eq_true, beq_iff_eq, List.all_eq_true,
    decide_eq_true_eq] at currency
  obtain ⟨size, letters⟩ := currency
  refine ⟨?_, ?_, ?_⟩
  · rintro rfl
    simp [byteLength] at size
  · rw [trimSpace_eq, trim_eq_self fun c member => (upper_solid (letters c member)).1,
      String.ofList_toList]
  · rw [toUpper, mapCharacters_eq, List.map_congr_left fun c member => (upper_solid (letters c member)).2]
    simp

@[simp] theorem validateDecimalShape_ok_iff (label : String) (value : Decimal) :
    validateDecimalShape label value = .ok () ↔ validProjectionDecimal value = true := by
  simp [validateDecimalShape, validProjectionDecimal]

@[simp] theorem validatePositiveDecimal_ok_iff (label : String) (value : Decimal) :
    validatePositiveDecimal label value = .ok () ↔ 0 < value.toRat ∧ validProjectionDecimal value = true := by
  simp [validatePositiveDecimal]

@[simp] theorem validateNonnegativeDecimal_ok_iff (label : String) (value : Decimal) :
    validateNonnegativeDecimal label value = .ok () ↔ 0 ≤ value.toRat ∧ validProjectionDecimal value = true := by
  simp [validateNonnegativeDecimal]

theorem normalizeJSONObject_ok_iff (value normalized : RawMessage) (label : String) :
    normalizeJSONObject value label = .ok normalized ↔
      normalized = (if value.isEmpty then emptyObject else value) ∧ (decodeObject normalized).isSome = true := by
  simp only [normalizeJSONObject, failIf_bind_ok_iff, Option.isNone_eq_false_iff]
  constructor
  · rintro ⟨object, same⟩
    cases same
    exact ⟨rfl, object⟩
  · rintro ⟨rfl, object⟩
    exact ⟨object, rfl⟩

end Augr
