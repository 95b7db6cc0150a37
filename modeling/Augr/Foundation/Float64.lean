import Mathlib.Data.Rat.Floor

/-! The operations of the program's floating-point numbers.

No law is assumed of them, so that what is proved over them holds of rounded arithmetic as well. Exact numbers
with the infinities and an undefined value are one such arithmetic, in which a calculation can be run. -/

set_option autoImplicit false

namespace Augr.Foundation

class Float64 (F : Type) where
  const : ℚ → F
  inf : F
  add : F → F → F
  sub : F → F → F
  mul : F → F → F
  div : F → F → F
  less : F → F → Bool
  equal : F → F → Bool
  isNaN : F → Bool
  min : F → F → F
  max : F → F → F
  abs : F → F
  round : F → F
  floor : F → F
  /-- The number with so many places behind the point. -/
  fixed : Nat → F → String

namespace Float64

variable {F : Type} [Float64 F]

scoped instance : Add F := ⟨Float64.add⟩
scoped instance : Sub F := ⟨Float64.sub⟩
scoped instance : Mul F := ⟨Float64.mul⟩
scoped instance : Div F := ⟨Float64.div⟩

def zero : F := const 0

/-- Not above: false if one of the numbers is undefined. -/
def atMost (x y : F) : Bool := less x y || equal x y

end Float64

/-- A number without rounding. -/
inductive Exact where
  | finite (value : ℚ)
  | infinite (negative : Bool)
  | undefined
  deriving DecidableEq

namespace Exact

def isNegative : Exact → Bool
  | finite value => value < 0
  | infinite negative => negative
  | undefined => false

def neg : Exact → Exact
  | finite value => finite (-value)
  | infinite negative => infinite !negative
  | undefined => undefined

def add : Exact → Exact → Exact
  | finite x, finite y => finite (x + y)
  | infinite negative, finite _ => infinite negative
  | finite _, infinite negative => infinite negative
  | infinite first, infinite second => if first = second then infinite first else undefined
  | _, _ => undefined

def mul : Exact → Exact → Exact
  | finite x, finite y => finite (x * y)
  | undefined, _ => undefined
  | _, undefined => undefined
  | x, y => if x = finite 0 ∨ y = finite 0 then undefined else infinite (x.isNegative != y.isNegative)

def div : Exact → Exact → Exact
  | undefined, _ => undefined
  | _, undefined => undefined
  | infinite _, infinite _ => undefined
  | finite _, infinite _ => finite 0
  | infinite negative, finite y => infinite (negative != decide (y < 0))
  | finite x, finite y =>
      if y = 0 then (if x = 0 then undefined else infinite (decide (x < 0))) else finite (x / y)

def less : Exact → Exact → Bool
  | finite x, finite y => x < y
  | infinite negative, finite _ => negative
  | finite _, infinite negative => !negative
  | infinite first, infinite second => first && !second
  | _, _ => false

def equal : Exact → Exact → Bool
  | undefined, _ => false
  | _, undefined => false
  | x, y => x = y

def min (x y : Exact) : Exact := if x = undefined ∨ y = undefined then undefined else if less x y then x else y

def max (x y : Exact) : Exact := if x = undefined ∨ y = undefined then undefined else if less x y then y else x

def map (change : ℚ → ℚ) : Exact → Exact
  | finite value => finite (change value)
  | other => other

def roundHalf (value : ℚ) : ℚ := if value < 0 then -(⌊-value + 1 / 2⌋ : ℚ) else (⌊value + 1 / 2⌋ : ℚ)

def digits (places : Nat) (value : ℚ) : String :=
  let scaled := (roundHalf (value * 10 ^ places)).num
  let text := Nat.toDigits 10 scaled.natAbs
  let padded := List.replicate (places + 1 - text.length) '0' ++ text
  let whole := padded.take (padded.length - places)
  let fraction := padded.drop (padded.length - places)
  String.ofList ((if scaled < 0 then ['-'] else []) ++ whole ++ (if places = 0 then [] else '.' :: fraction))

instance : Float64 Exact where
  const := finite
  inf := infinite false
  add := add
  sub x y := add x (neg y)
  mul := mul
  div := div
  less := less
  equal := equal
  isNaN x := x = undefined
  min := min
  max := max
  abs x := if x.isNegative then neg x else x
  round := map roundHalf
  floor := map fun value => ⌊value⌋
  fixed places
    | finite value => digits places value
    | infinite false => "+Inf"
    | infinite true => "-Inf"
    | undefined => "NaN"

end Exact

end Augr.Foundation
