import Augr.Foundation.Text

/-! JSON as the program's standard library reads and writes it.

Decoding works on bytes: malformed UTF-8 and lone surrogates become U+FFFD, numbers keep
their literal, an object keeps the last value of a repeated key, and nesting is bounded.
Encoding writes no white space and escapes the characters that are special in HTML.
-/

set_option autoImplicit false

namespace Augr.Foundation

inductive Json where
  | null
  | bool (value : Bool)
  | number (literal : String)
  | string (value : String)
  | array (items : List Json)
  | object (fields : List (String × Json))

namespace Json

mutual

def same : Json → Json → Bool
  | .null, .null => true
  | .bool left, .bool right => left == right
  | .number left, .number right => left == right
  | .string left, .string right => left == right
  | .array left, .array right => sameItems left right
  | .object left, .object right => sameFields left right
  | _, _ => false

def sameItems : List Json → List Json → Bool
  | [], [] => true
  | left :: lefts, right :: rights => same left right && sameItems lefts rights
  | _, _ => false

def sameFields : List (String × Json) → List (String × Json) → Bool
  | [], [] => true
  | (key, left) :: lefts, (key', right) :: rights => key == key' && same left right && sameFields lefts rights
  | _, _ => false

end

def skipSpace (input : Bytes) : Bytes :=
  input.dropWhile fun byte => byte == 0x20 || byte == 0x09 || byte == 0x0A || byte == 0x0D

def isDigit (byte : UInt8) : Bool := 0x30 ≤ byte && byte ≤ 0x39

def asciiText (bytes : Bytes) : String := String.ofList (bytes.map fun byte => Char.ofNat byte.toNat)

def digits (input : Bytes) : Option (Bytes × Bytes) :=
  let taken := input.takeWhile isDigit
  if taken.isEmpty then none else some (taken, input.dropWhile isDigit)

def integerPart (input : Bytes) : Option (Bytes × Bytes) :=
  match input with
  | 0x30 :: rest => some ([0x30], rest)
  | _ => digits input

def fractionPart (input : Bytes) : Option (Bytes × Bytes) :=
  match input with
  | 0x2E :: rest => digits rest
  | _ => some ([], input)

/-- The exponent's sign, its digits and the rest; no digits when there is no exponent. -/
def exponentPart (input : Bytes) : Option (Bool × Bytes × Bytes) :=
  match input with
  | 0x65 :: 0x2D :: rest | 0x45 :: 0x2D :: rest => (digits rest).map fun (taken, rest) => (true, taken, rest)
  | 0x65 :: 0x2B :: rest | 0x45 :: 0x2B :: rest => (digits rest).map fun (taken, rest) => (false, taken, rest)
  | 0x65 :: rest | 0x45 :: rest => (digits rest).map fun (taken, rest) => (false, taken, rest)
  | _ => some (false, [], input)

/-- A number literal in parts, as the grammar splits it. -/
structure NumberParts where
  (integer fraction : Bytes)
  exponentNegative : Bool
  exponent : Bytes

def numberParts (input : Bytes) : Option (NumberParts × Bytes) := do
  let unsigned := match input with
    | 0x2D :: rest => rest
    | _ => input
  let (integer, rest) ← integerPart unsigned
  let (fraction, rest) ← fractionPart rest
  let (negative, exponent, rest) ← exponentPart rest
  pure (⟨integer, fraction, negative, exponent⟩, rest)

def digitsValue (taken : Bytes) : Nat := taken.foldl (fun value byte => value * 10 + (byte.toNat - 48)) 0

/-- The float parser stops reading an exponent once it reaches ten thousand. -/
def exponentValue (taken : Bytes) : Nat :=
  taken.foldl (fun value byte => if value < 10000 then value * 10 + (byte.toNat - 48) else value) 0

/-- Whether a literal rounds to a finite 64-bit float. -/
def NumberParts.fitsFloat (parts : NumberParts) : Bool :=
  let mantissa := digitsValue (parts.integer ++ parts.fraction)
  let bound := 2 ^ 1024 - 2 ^ 970
  let exponent : Int := exponentValue parts.exponent
  let shift := (if parts.exponentNegative then -exponent else exponent) - parts.fraction.length
  if 0 ≤ shift then mantissa * 10 ^ shift.toNat < bound else mantissa < bound * 10 ^ (-shift).toNat

def continuation (byte : UInt8) : Bool := 0x80 ≤ byte && byte ≤ 0xBF

/-- The bytes a second byte may take after the given first one. -/
def secondRange (first : UInt8) : UInt8 × UInt8 :=
  if first == 0xE0 then (0xA0, 0xBF) else if first == 0xED then (0x80, 0x9F)
  else if first == 0xF0 then (0x90, 0xBF) else if first == 0xF4 then (0x80, 0x8F) else (0x80, 0xBF)

def replacement : Char := Char.ofNat 0xFFFD

/-- One character and the rest; a malformed byte is replaced on its own. -/
def decodeRune (first : UInt8) (rest : Bytes) : Char × Bytes :=
  let (low, high) := secondRange first
  if first < 0x80 then (Char.ofNat first.toNat, rest)
  else if 0xC2 ≤ first && first ≤ 0xDF then
    match rest with
    | second :: tail =>
        if continuation second then
          (Char.ofNat ((first.toNat % 32) * 64 + second.toNat % 64), tail)
        else (replacement, rest)
    | _ => (replacement, rest)
  else if 0xE0 ≤ first && first ≤ 0xEF then
    match rest with
    | second :: third :: tail =>
        if low ≤ second && second ≤ high && continuation third then
          (Char.ofNat ((first.toNat % 16) * 4096 + (second.toNat % 64) * 64 + third.toNat % 64), tail)
        else (replacement, rest)
    | _ => (replacement, rest)
  else if 0xF0 ≤ first && first ≤ 0xF4 then
    match rest with
    | second :: third :: fourth :: tail =>
        if low ≤ second && second ≤ high && continuation third && continuation fourth then
          (Char.ofNat ((first.toNat % 8) * 262144 + (second.toNat % 64) * 4096 + (third.toNat % 64) * 64 +
            fourth.toNat % 64), tail)
        else (replacement, rest)
    | _ => (replacement, rest)
  else (replacement, rest)

def hexValue (byte : UInt8) : Option Nat :=
  if isDigit byte then some (byte.toNat - 48)
  else if 0x61 ≤ byte && byte ≤ 0x66 then some (byte.toNat - 87)
  else if 0x41 ≤ byte && byte ≤ 0x46 then some (byte.toNat - 55)
  else none

def unicodeEscape (input : Bytes) : Option (Nat × Bytes) :=
  match input with
  | a :: b :: c :: d :: rest => do
      let (a, b) := (← hexValue a, ← hexValue b)
      let (c, d) := (← hexValue c, ← hexValue d)
      pure (((a * 16 + b) * 16 + c) * 16 + d, rest)
  | _ => none

def lowSurrogate (input : Bytes) : Option (Nat × Bytes) :=
  match input with
  | 0x5C :: 0x75 :: rest => do
      let (code, rest) ← unicodeEscape rest
      if 0xDC00 ≤ code ∧ code < 0xE000 then some (code, rest) else none
  | _ => none

def escape (input : Bytes) : Option (Char × Bytes) :=
  match input with
  | 0x22 :: rest => some ('"', rest)
  | 0x5C :: rest => some ('\\', rest)
  | 0x2F :: rest => some ('/', rest)
  | 0x62 :: rest => some (Char.ofNat 8, rest)
  | 0x66 :: rest => some (Char.ofNat 12, rest)
  | 0x6E :: rest => some ('\n', rest)
  | 0x72 :: rest => some ('\r', rest)
  | 0x74 :: rest => some ('\t', rest)
  | 0x75 :: rest => do
      let (code, rest) ← unicodeEscape rest
      if 0xD800 ≤ code ∧ code < 0xDC00 then
        match lowSurrogate rest with
        | some (low, rest) => pure (Char.ofNat ((code - 0xD800) * 1024 + (low - 0xDC00) + 0x10000), rest)
        | none => pure (replacement, rest)
      else if 0xDC00 ≤ code ∧ code < 0xE000 then pure (replacement, rest)
      else pure (Char.ofNat code, rest)
  | _ => none

def stringBody : Nat → Bytes → Option (List Char × Bytes)
  | 0, _ => none
  | fuel + 1, input =>
      match input with
      | [] => none
      | 0x22 :: rest => some ([], rest)
      | 0x5C :: rest => do
          let (c, rest) ← escape rest
          let (tail, rest) ← stringBody fuel rest
          pure (c :: tail, rest)
      | first :: rest =>
          if first < 0x20 then none
          else do
            let (c, rest) := decodeRune first rest
            let (tail, rest) ← stringBody fuel rest
            pure (c :: tail, rest)

/-- Store a field in key order, replacing an earlier value of the same key. -/
def insertField (key : String) (value : Json) : List (String × Json) → List (String × Json)
  | [] => [(key, value)]
  | field :: rest =>
      if key < field.1 then (key, value) :: field :: rest
      else if key = field.1 then (key, value) :: rest
      else field :: insertField key value rest

mutual

/-- One value, with bounds on the recursion and on the nesting still allowed. -/
def value (accepts : NumberParts → Bool) : Nat → Nat → Bytes → Option (Json × Bytes)
  | 0, _, _ => none
  | fuel + 1, depth, input =>
      match skipSpace input with
      | 0x7B :: rest =>
          match depth, skipSpace rest with
          | 0, _ => none
          | _ + 1, 0x7D :: rest => some (.object [], rest)
          | depth + 1, rest => (members accepts fuel depth [] rest).map fun (fields, rest) => (.object fields, rest)
      | 0x5B :: rest =>
          match depth, skipSpace rest with
          | 0, _ => none
          | _ + 1, 0x5D :: rest => some (.array [], rest)
          | depth + 1, rest => (elements accepts fuel depth rest).map fun (items, rest) => (.array items, rest)
      | 0x22 :: rest => (stringBody fuel rest).map fun (text, rest) => (.string (String.ofList text), rest)
      | 0x74 :: 0x72 :: 0x75 :: 0x65 :: rest => some (.bool true, rest)
      | 0x66 :: 0x61 :: 0x6C :: 0x73 :: 0x65 :: rest => some (.bool false, rest)
      | 0x6E :: 0x75 :: 0x6C :: 0x6C :: rest => some (.null, rest)
      | start => do
          let (parts, rest) ← numberParts start
          if accepts parts then
            some (.number (asciiText (start.take (start.length - rest.length))), rest)
          else none

def elements (accepts : NumberParts → Bool) : Nat → Nat → Bytes → Option (List Json × Bytes)
  | 0, _, _ => none
  | fuel + 1, depth, input => do
      let (first, rest) ← value accepts fuel depth input
      match skipSpace rest with
      | 0x2C :: rest => do
          let (items, rest) ← elements accepts fuel depth rest
          pure (first :: items, rest)
      | 0x5D :: rest => pure ([first], rest)
      | _ => none

/-- Members are stored as they are read, so a later duplicate replaces an earlier one. -/
def members (accepts : NumberParts → Bool) : Nat → Nat → List (String × Json) → Bytes →
    Option (List (String × Json) × Bytes)
  | 0, _, _, _ => none
  | fuel + 1, depth, fields, input =>
      match skipSpace input with
      | 0x22 :: rest => do
          let (key, rest) ← stringBody fuel rest
          match skipSpace rest with
          | 0x3A :: rest => do
              let (item, rest) ← value accepts fuel depth rest
              let fields := insertField (String.ofList key) item fields
              match skipSpace rest with
              | 0x2C :: rest => members accepts fuel depth fields rest
              | 0x7D :: rest => pure (fields, rest)
              | _ => none
          | _ => none
      | _ => none

end

def maxNestingDepth : Nat := 10000

/-- Read the first value of a stream and ignore what follows it. -/
def decodeFirst (accepts : NumberParts → Bool) (input : Bytes) : Option (Json × Bytes) :=
  value accepts (2 * input.length + 2) maxNestingDepth input

/-- Read a value that fills the input up to white space. -/
def decode (accepts : NumberParts → Bool) (input : Bytes) : Option Json :=
  match decodeFirst accepts input with
  | some (result, rest) => if (skipSpace rest).isEmpty then some result else none
  | none => none

/-- Numbers are kept as literals of any size. -/
def anyNumber (_ : NumberParts) : Bool := true

def isValid (input : Bytes) : Bool := (decode anyNumber input).isSome

def isObject : Json → Bool
  | .object _ => true
  | _ => false

def hexByte (value : Nat) : UInt8 := UInt8.ofNat (if value < 10 then value + 48 else value + 87)

def encodeCharacter (c : Char) : Bytes :=
  let code := c.toNat
  if code == 34 then [0x5C, 0x22]
  else if code == 92 then [0x5C, 0x5C]
  else if code == 8 then [0x5C, 0x62]
  else if code == 12 then [0x5C, 0x66]
  else if code == 10 then [0x5C, 0x6E]
  else if code == 13 then [0x5C, 0x72]
  else if code == 9 then [0x5C, 0x74]
  else if code < 32 || code == 60 || code == 62 || code == 38 then
    [0x5C, 0x75, 0x30, 0x30, hexByte (code / 16), hexByte (code % 16)]
  else if code == 0x2028 then [0x5C, 0x75, 0x32, 0x30, 0x32, 0x38]
  else if code == 0x2029 then [0x5C, 0x75, 0x32, 0x30, 0x32, 0x39]
  else String.utf8EncodeChar c

/-- Letters, digits and some of the punctuation stand for themselves. -/
def plain (byte : UInt8) : Bool :=
  let code := byte.toNat
  Nat.ble 93 code && Nat.ble code 126 || Nat.ble 39 code && Nat.ble code 59 || Nat.ble 63 code && Nat.ble code 91

/-- Plain text is copied byte by byte. -/
def quote (text : String) : Bytes :=
  let bytes := Text.utf8 text
  0x22 :: (if bytes.all plain then bytes else (Text.characters text).flatMap encodeCharacter) ++ [0x22]

/-- Items with commas between them, and what closes them. -/
def separated (closing : Bytes) : List Bytes → Bytes
  | [] => closing
  | [item] => item ++ closing
  | item :: rest => item ++ 0x2C :: separated closing rest

/-- Fields are already encoded and are written in the given order. -/
def encodeObject (fields : List (String × Bytes)) : Bytes :=
  0x7B :: separated [0x7D] (fields.map fun field => quote field.1 ++ 0x3A :: field.2)

def encodeArray (items : List Bytes) : Bytes := 0x5B :: separated [0x5D] items

def encodeBool (value : Bool) : Bytes := Text.utf8 (if value then "true" else "false")

def encodeInt (value : Int) : Bytes := (if value < 0 then [0x2D] else []) ++ Text.utf8 (Text.itoa value.natAbs)

mutual

def encode : Json → Bytes
  | .null => Text.utf8 "null"
  | .bool value => encodeBool value
  | .number literal => Text.utf8 literal
  | .string text => quote text
  | .array items => encodeArray (encodeItems items)
  | .object fields => encodeObject (encodeFields fields)

def encodeItems : List Json → List Bytes
  | [] => []
  | first :: rest => encode first :: encodeItems rest

def encodeFields : List (String × Json) → List (String × Bytes)
  | [] => []
  | (key, first) :: rest => (key, encode first) :: encodeFields rest

end

example : (decode anyNumber (Text.utf8 " \x7b\"b\":[1,2.50e3,null],\"a\":\"<\\u0041\",\"b\":true\x7d ")).map encode =
    some (Text.utf8 "\x7b\"a\":\"\\u003cA\",\"b\":true\x7d") := by decide

example : (decode NumberParts.fitsFloat (Text.utf8 "1e309")).isNone = true := by decide +kernel

end Json

end Augr.Foundation
