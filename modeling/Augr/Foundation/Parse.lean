import Augr.Foundation.Digits
import Augr.Foundation.Instant
import Augr.Foundation.Outcome
import Mathlib.Tactic.Linarith

/-! Identifiers and times read from text. -/

set_option autoImplicit false

namespace Augr.Foundation

def hexDigitValue (byte : UInt8) : Option UInt8 :=
  if 0x30 ≤ byte && byte ≤ 0x39 then some (byte - 0x30)
  else if 0x61 ≤ byte && byte ≤ 0x66 then some (byte - 0x57)
  else if 0x41 ≤ byte && byte ≤ 0x46 then some (byte - 0x37)
  else none

def hexBytes : Bytes → Option Bytes
  | [] => some []
  | high :: low :: rest => do
      let high ← hexDigitValue high
      let low ← hexDigitValue low
      let bytes ← hexBytes rest
      pure ((high * 16 + low) :: bytes)
  | _ => none

def Uuid.ofBytes (bytes : Bytes) : Option Uuid := if long : bytes.length = 16 then some ⟨bytes, long⟩ else none

/-- The dashed form, also behind a URN name or between braces, or plain hexadecimal digits.
What stands in the place of the braces is not looked at. -/
def Uuid.parse (text : String) : Outcome Uuid := do
  let bytes := Text.utf8 text
  let invalid := Fault.errorf "invalid UUID format" []
  let dashed ← match bytes.length with
    | 36 => .ok bytes
    | 45 => do
        let lower := (bytes.take 9).map fun byte => if 0x41 ≤ byte && byte ≤ 0x5A then byte + 0x20 else byte
        failIf (lower != Text.utf8 "urn:uuid:") (.errorf "invalid urn prefix: %q" [String.ofList (text.toList.take 9)])
        pure (bytes.drop 9)
    | 38 => .ok ((bytes.drop 1).take 36)
    | 32 => .ok (bytes.take 8 ++ 0x2D :: (bytes.drop 8).take 4 ++ 0x2D :: (bytes.drop 12).take 4 ++
        0x2D :: (bytes.drop 16).take 4 ++ 0x2D :: bytes.drop 20)
    | length => .error (.errorf "invalid UUID length: %d" [Text.itoa length])
  let dash (index : Nat) : Bool := dashed[index]? == some 0x2D
  failIf (!(dash 8 && dash 13 && dash 18 && dash 23)) invalid
  let digits := dashed.take 8 ++ (dashed.drop 9).take 4 ++ (dashed.drop 14).take 4 ++ (dashed.drop 19).take 4 ++
    dashed.drop 24
  match (hexBytes digits).bind Uuid.ofBytes with
  | some id => .ok id
  | none => .error invalid

example : (Uuid.parse "00000000-0000-0000-0000-0000000000Ff").toOption = some (Uuid.ofByte 255) ∧
    (Uuid.parse "0000000000000000000000000000000g").toOption = none := by decide

namespace Instant

/-- The day number of a date; the inverse of `civil`. -/
def daysFromCivil (year month day : Int) : Int :=
  let shifted := if month ≤ 2 then year - 1 else year
  let era := shifted / 400
  let yearOfEra := shifted % 400
  let dayOfYear := (153 * ((month + 9) % 12) + 2) / 5 + day - 1
  era * 146097 + (yearOfEra * 365 + yearOfEra / 4 - yearOfEra / 100 + dayOfYear) - 306

def takeDigits (count : Nat) (text : List Char) : Option (Nat × List Char) :=
  if (text.take count).length = count then (parseNat (text.take count)).map fun value => (value, text.drop count)
  else none

def takeLiteral (mark : Char) : List Char → Option (List Char)
  | c :: rest => if c = mark then some rest else none
  | [] => none

/-- An hour may be written with one digit. -/
def takeHour (text : List Char) : Option (Nat × List Char) :=
  match text with
  | _ :: second :: _ => if second.isDigit then takeDigits 2 text else takeDigits 1 text
  | _ => takeDigits 1 text

/-- Six digits of a second; the parser takes a comma for the point and a sign for a digit. -/
def takeMicros (text : List Char) : Option (Int × List Char) :=
  match text with
  | mark :: rest => do
      let micros ← if (mark = '.' ∨ mark = ',') ∧ (rest.take 6).length = 6 then parseInt (rest.take 6) else none
      if micros < 0 then none else pure (micros, rest.drop 6)
  | [] => none

/-- The layout `2006-01-02T15:04:05.000000Z`. A date exists when it is the date of its day. -/
def parse (text : String) : Option Instant := do
  let (year, rest) ← takeDigits 4 (Text.characters text)
  let (month, rest) ← takeLiteral '-' rest >>= takeDigits 2
  let (day, rest) ← takeLiteral '-' rest >>= takeDigits 2
  let (hour, rest) ← takeLiteral 'T' rest >>= takeHour
  let (minute, rest) ← takeLiteral ':' rest >>= takeDigits 2
  let (second, rest) ← takeLiteral ':' rest >>= takeDigits 2
  let (micros, rest) ← takeMicros rest
  let rest ← takeLiteral 'Z' rest
  let days := daysFromCivil year month day
  if rest.isEmpty ∧ hour < 24 ∧ minute < 60 ∧ second < 60 ∧ civil days = (↑year, ↑month, ↑day) then
    some ⟨((days * secondsPerDay + hour * 3600 + minute * 60 + second) * 1000000 + micros) * 1000, true⟩
  else none

example : (parse "2024-02-29T23:59:59.000001Z").map format = some "2024-02-29T23:59:59.000001Z" ∧
    parse "2023-02-29T00:00:00.000000Z" = none := by decide

/-! ### The calendar -/

/-- Within a century the leap days are every fourth year. -/
theorem year_in_century {century x : Int} (low : 0 ≤ century) (high : century ≤ 3) (some : 0 ≤ x) (short : x < 36524) :
    ∃ y, y = (x - (x + 24 * century) / 1460) / 365 ∧ 0 ≤ y ∧ y < 100 ∧ 0 ≤ x - (365 * y + y / 4) ∧
      x - (365 * y + y / 4) ≤ 365 := by
  refine ⟨_, rfl, ?_⟩
  have cycle : x = 1461 * (x / 1461) + x % 1461 := (Int.mul_ediv_add_emod x 1461).symm
  generalize x / 1461 = k at cycle
  generalize isRest : x % 1461 = r at cycle
  have rest : 0 ≤ r ∧ r < 1461 := by omega
  have cycles : 0 ≤ k ∧ k ≤ 24 := by omega
  clear isRest
  subst cycle
  rcases lt_or_ge (k + r + 24 * century) 1460 with early | late
  · have leap : (1461 * k + r + 24 * century) / 1460 = k := by omega
    rw [leap]
    have year : (1461 * k + r - k) / 365 = 4 * k + r / 365 := by omega
    rw [year]
    omega
  · have leap : (1461 * k + r + 24 * century) / 1460 = k + 1 := by omega
    rw [leap]
    have year : (1461 * k + r - (k + 1)) / 365 = 4 * k + 3 := by omega
    rw [year]
    omega

theorem yearOfEra_spec {doe : Int} (low : 0 ≤ doe) (high : doe < 146097) :
    ∃ yoe, yoe = (doe - doe / 1460 + doe / 36524 - doe / 146096) / 365 ∧ 0 ≤ yoe ∧ yoe < 400 ∧
      0 ≤ doe - (365 * yoe + yoe / 4 - yoe / 100) ∧ doe - (365 * yoe + yoe / 4 - yoe / 100) ≤ 365 := by
  refine ⟨_, rfl, ?_⟩
  rcases eq_or_lt_of_le (show doe ≤ 146096 by omega) with rfl | inside
  · decide
  · have century : doe = 36524 * (doe / 36524) + doe % 36524 := (Int.mul_ediv_add_emod doe 36524).symm
    have last : doe / 146096 = 0 := by omega
    have same : doe / 36524 = doe / 36524 := rfl
    generalize doe / 36524 = c at *
    generalize isRest : doe % 36524 = x at *
    have rest : 0 ≤ x ∧ x < 36524 := by omega
    obtain ⟨y, isYear, low, high, first, final⟩ := year_in_century (show 0 ≤ c by omega) (by omega) rest.1 rest.2
    clear isRest
    subst century
    have leaps : (36524 * c + x) / 1460 = 25 * c + (x + 24 * c) / 1460 := by omega
    rw [last, leaps]
    have year : (36524 * c + x - (25 * c + (x + 24 * c) / 1460) + c - 0) / 365 = 100 * c + y := by
      rw [isYear]
      omega
    have fourths : (100 * c + y) / 4 = 25 * c + y / 4 := by omega
    have hundredths : (100 * c + y) / 100 = c := by omega
    rw [year, fourths, hundredths]
    omega

/-- The months from March on have a fixed pattern of lengths. -/
theorem month_spec {dayOfYear : Int} (low : 0 ≤ dayOfYear) (high : dayOfYear ≤ 365) :
    ∃ month, month = (5 * dayOfYear + 2) / 153 ∧ 0 ≤ month ∧ month ≤ 11 ∧
      0 ≤ dayOfYear - (153 * month + 2) / 5 ∧ dayOfYear - (153 * month + 2) / 5 ≤ 30 := by
  refine ⟨_, rfl, ?_⟩
  omega

theorem daysFromCivil_civil (day : Int) :
    daysFromCivil (civil day).1 (civil day).2.1 (civil day).2.2 = day ∧
      1 ≤ (civil day).2.1 ∧ (civil day).2.1 ≤ 12 ∧ 1 ≤ (civil day).2.2 ∧ (civil day).2.2 ≤ 31 := by
  obtain ⟨yoe, isYear, yearLow, yearHigh, dayLow, dayHigh⟩ :=
    yearOfEra_spec (Int.emod_nonneg (day + 306) (show (146097 : Int) ≠ 0 by decide)) (Int.emod_lt_of_pos _ (by decide))
  obtain ⟨month, isMonth, monthLow, monthHigh, dayLow', dayHigh'⟩ := month_spec dayLow dayHigh
  simp only [civil, ← isYear]
  simp only [← isMonth]
  have whole := Int.mul_ediv_add_emod (day + 306) 146097
  generalize (day + 306) / 146097 = era at *
  generalize (day + 306) % 146097 = doe at *
  generalize isYearDay : doe - (365 * yoe + yoe / 4 - yoe / 100) = doy at *
  have back : (yoe + era * 400) / 400 = era ∧ (yoe + era * 400) % 400 = yoe := by omega
  rcases lt_or_ge month 10 with spring | winter
  · have later : ¬ month + 3 ≤ 2 := by omega
    have pattern : (month + 3 + 9) % 12 = month := by omega
    simp only [daysFromCivil, spring, later, if_true, if_false, add_zero, back.1, back.2, pattern]
    omega
  · have spring : ¬ month < 10 := by omega
    have early : month - 9 ≤ 2 := by omega
    have pattern : (month - 9 + 9) % 12 = month := by omega
    simp only [daysFromCivil, spring, early, if_true, if_false, add_sub_cancel_right, back.1, back.2, pattern]
    omega

/-! ### Reading what was written -/

def year (t : Instant) : Int := (civil (t.nanos / 1000000000 / secondsPerDay)).1

theorem padded_eq {width : Nat} {value : Int} (above : 0 ≤ value) (below : value < 10 ^ width) (some : 0 < width) :
    padded width value = List.replicate (width - (Nat.toDigits 10 value.natAbs).length) '0' ++ Nat.toDigits 10 value.natAbs ∧
      (padded width value).length = width := by
  have size : (Nat.toDigits 10 value.natAbs).length ≤ width := by
    rw [Nat.length_toDigits_le_iff (by decide) some]
    zify
    rwa [abs_of_nonneg above]
  have plain : padded width value =
      List.replicate (width - (Nat.toDigits 10 value.natAbs).length) '0' ++ Nat.toDigits 10 value.natAbs := by
    simp only [padded, if_neg (not_lt.mpr above), List.nil_append]
  refine ⟨plain, ?_⟩
  rw [plain, List.length_append, List.length_replicate]
  omega

theorem parseNat_padded {width : Nat} {value : Int} (above : 0 ≤ value) (below : value < 10 ^ width) (some : 0 < width) :
    parseNat (padded width value) = .some value.toNat := by
  rw [(padded_eq above below some).1, parseNat_zeros]
  congr 1
  omega

theorem takeDigits_padded {width : Nat} {value : Int} (above : 0 ≤ value) (below : value < 10 ^ width) (some : 0 < width)
    (rest : List Char) : takeDigits width (padded width value ++ rest) = .some (value.toNat, rest) := by
  have size := (padded_eq above below some).2
  have front : (padded width value ++ rest).take width = padded width value := List.take_left' size
  have back : (padded width value ++ rest).drop width = rest := List.drop_left' size
  rw [takeDigits, front, back, if_pos size, parseNat_padded above below some]
  rfl

theorem takeHour_padded {value : Int} (above : 0 ≤ value) (below : value < 100) (rest : List Char) :
    takeHour (padded 2 value ++ rest) = some (value.toNat, rest) := by
  have small : value < 10 ^ 2 := below
  have taken := takeDigits_padded above small (by decide) rest
  obtain ⟨plain, size⟩ := padded_eq above small (by decide)
  obtain ⟨first, second, two⟩ := List.length_eq_two.mp size
  have digit : second.isDigit = true := by
    have member : second ∈ padded 2 value := by simp [two]
    rw [plain] at member
    exact isDigit_of_mem_zeros member
  rw [two] at taken ⊢
  simp only [List.cons_append, List.nil_append, takeHour, digit, if_true] at taken ⊢
  exact taken

theorem takeMicros_padded {value : Int} (above : 0 ≤ value) (below : value < 1000000) (rest : List Char) :
    takeMicros ('.' :: padded 6 value ++ rest) = some (value, rest) := by
  have small : value < 10 ^ 6 := below
  have size := (padded_eq above small (by decide)).2
  have front : (padded 6 value ++ rest).take 6 = padded 6 value := List.take_left' size
  have back : (padded 6 value ++ rest).drop 6 = rest := List.drop_left' size
  have read : parseInt (padded 6 value) = some value := by
    have unsigned := parseInt_signed value (parseNat_padded above small (by decide)) (by omega)
    rwa [if_neg (not_lt.mpr above), List.nil_append] at unsigned
  simp only [List.cons_append, takeMicros, front, back, size, read, true_or, true_and, if_true, bind, Option.bind,
    if_neg (not_lt.mpr above)]
  rfl

theorem parse_format {t : Instant} (utc : t.utc = true) (whole : t.truncate = t) (low : 0 ≤ t.year) (high : t.year ≤ 9999) :
    parse t.format = some t := by
  obtain ⟨nanos, zone⟩ := t
  cases utc
  have micros : nanos % 1000 = 0 := by
    simp only [truncate, mk.injEq, and_true] at whole
    omega
  obtain ⟨inverse, monthLow, monthHigh, dayLow, dayHigh⟩ := daysFromCivil_civil (nanos / 1000000000 / secondsPerDay)
  simp only [year] at low high
  have clock : 0 ≤ nanos / 1000000000 % secondsPerDay ∧ nanos / 1000000000 % secondsPerDay < 86400 := by
    simp only [secondsPerDay]
    omega
  have day : nanos / 1000000000 / secondsPerDay * 86400 + nanos / 1000000000 % secondsPerDay = nanos / 1000000000 := by
    simp only [secondsPerDay]
    omega
  rw [parse, format, Text.characters_eq]
  dsimp only
  rw [String.toList_ofList]
  generalize isDay : nanos / 1000000000 / secondsPerDay = days at *
  generalize nanos / 1000000000 % secondsPerDay = second at *
  have date : civil days = ((civil days).1, (civil days).2.1, (civil days).2.2) := rfl
  generalize (civil days).1 = years at *
  generalize (civil days).2.1 = month at *
  generalize (civil days).2.2 = dayOfMonth at *
  have two : ∀ {value : Int}, 0 ≤ value → value < 100 → ∀ rest,
      takeDigits 2 (padded 2 value ++ rest) = some (value.toNat, rest) :=
    fun above below rest => takeDigits_padded above below (by decide) rest
  simp only [List.append_assoc, List.cons_append, bind, Option.bind, takeLiteral, if_true,
    takeDigits_padded low (show years < 10 ^ 4 by omega) (by decide),
    two (show 0 ≤ month by omega) (by omega), two (show 0 ≤ dayOfMonth by omega) (by omega),
    takeHour_padded (show 0 ≤ second / 3600 by omega) (by omega),
    two (show 0 ≤ second / 60 % 60 by omega) (by omega), two (show 0 ≤ second % 60 by omega) (by omega)]
  have fraction := takeMicros_padded (show 0 ≤ nanos % 1000000000 / 1000 by omega) (by omega) ['Z']
  rw [List.cons_append] at fraction
  have natural : ∀ {value : Int}, 0 ≤ value → ((value.toNat : Nat) : Int) = value := Int.toNat_of_nonneg
  simp only [fraction, if_true, natural low, natural (show 0 ≤ month by omega), natural (show 0 ≤ dayOfMonth by omega),
    natural (show 0 ≤ second / 3600 by omega), natural (show 0 ≤ second / 60 % 60 by omega),
    natural (show 0 ≤ second % 60 by omega), inverse]
  rw [if_pos ⟨rfl, by omega, by omega, by omega, date⟩]
  simp only [secondsPerDay, Option.some.injEq, mk.injEq, and_true]
  omega

/-! ### What can be read -/

theorem takeDigits_lt {count : Nat} {text rest : List Char} {value : Nat}
    (taken : takeDigits count text = some (value, rest)) : value < 10 ^ count := by
  simp only [takeDigits] at taken
  split at taken
  · rename_i size
    obtain ⟨number, isNumber, same⟩ := Option.map_eq_some_iff.mp taken
    cases same
    exact size ▸ parseNat_lt isNumber
  · cases taken

theorem takeMicros_bounds {text rest : List Char} {micros : Int} (taken : takeMicros text = some (micros, rest)) :
    0 ≤ micros ∧ micros < 1000000 := by
  cases text with
  | nil => cases taken
  | cons mark digits =>
    simp only [takeMicros, Option.bind_eq_bind] at taken
    split at taken
    · rename_i marked
      obtain ⟨number, read, rest⟩ := Option.bind_eq_some_iff.mp taken
      split at rest
      · cases rest
      · cases rest
        have small := parseInt_lt read
        rw [marked.2] at small
        omega
    · cases taken

theorem parse_ok {text : String} {t : Instant} (parsed : parse text = some t) :
    t.utc = true ∧ t.truncate = t ∧ 0 ≤ t.year ∧ t.year ≤ 9999 := by
  simp only [parse, Option.bind_eq_bind, Option.bind_eq_some_iff, Prod.exists] at parsed
  obtain ⟨year, _, isYear, month, _, _, day, _, _, hour, _, _, minute, _, _, second, _, _, micros, _,
    isMicros, _, _, built⟩ := parsed
  split at built
  · rename_i holds
    cases built
    have few := takeDigits_lt isYear
    obtain ⟨some, small⟩ := takeMicros_bounds isMicros
    obtain ⟨_, hours, minutes, seconds, date⟩ := holds
    have whole : ((daysFromCivil year month day * secondsPerDay + hour * 3600 + minute * 60 + second) * 1000000 +
        micros) * 1000 / 1000000000 / secondsPerDay = daysFromCivil year month day := by
      simp only [secondsPerDay]
      omega
    refine ⟨rfl, ?_, ?_, ?_⟩
    · simp only [truncate, mk.injEq, and_true]
      omega
    · simp only [Instant.year, whole, date]
      omega
    · simp only [Instant.year, whole, date]
      omega
  · cases built

theorem parse_format_parse {text : String} {t : Instant} (parsed : parse text = some t) : parse t.format = some t := by
  obtain ⟨utc, whole, low, high⟩ := parse_ok parsed
  exact parse_format utc whole low high

end Instant

end Augr.Foundation
