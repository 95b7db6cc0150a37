import Augr.Foundation.DecimalText
import Augr.Foundation.Float64

/-! Functions of floating-point numbers, and the passage between them and decimals.

As with the operations, no law is assumed. Exact numbers have the powers and roots that are rational. -/

set_option autoImplicit false

namespace Augr.Foundation

class Elementary (F : Type) [Float64 F] where
  pow : F → F → F
  sqrt : F → F
  ceil : F → F
  /-- The conversion to an integer, which drops the fraction. -/
  toInt : F → Int
  ofDecimal : Decimal → F
  /-- The decimal of the shortest text; an undefined or infinite number has none, and the conversion panics. -/
  toDecimal : F → Option Decimal

namespace Elementary

variable {F : Type} [Float64 F]

def finite (x : F) : Bool := !Float64.isNaN x && !Float64.equal (Float64.abs x) Float64.inf

def ofNat (value : Nat) : F := Float64.const value

open Float64 in
def total (values : List F) : F := values.foldl (· + ·) zero

open Float64 in
def mean (values : List F) : F := total values / ofNat values.length

variable [Elementary F]

def newFromFloat (x : F) : Outcome Decimal :=
  match toDecimal x with
  | some value => .ok value
  | none => .error (.errorf "Cannot create a Decimal from %v" [])

def number (x : F) (scale : Int) : Outcome String := do
  let value ← newFromFloat x
  pure (value.round scale).toText

end Elementary

namespace Exact

/-- A power with a whole exponent. A root has no value here, so a report that annualizes by one is told apart from
the one in floating point, also by its identity. -/
def pow : Exact → Exact → Exact
  | finite base, finite exponent =>
      if base = 1 then finite 1
      else if exponent.den = 1 ∧ base ≠ 0 then finite (base ^ exponent.num)
      else undefined
  | _, _ => undefined

def sqrt : Exact → Exact
  | finite value =>
      let numerator := Nat.sqrt value.num.natAbs
      let denominator := Nat.sqrt value.den
      if 0 ≤ value ∧ numerator * numerator = value.num.natAbs ∧ denominator * denominator = value.den then
        finite (numerator / denominator)
      else undefined
  | infinite false => infinite false
  | _ => undefined

instance : Elementary Exact where
  pow := pow
  sqrt := sqrt
  ceil := map fun value => ⌈value⌉
  toInt
    | finite value => value.num.tdiv value.den
    | _ => -2 ^ 63
  ofDecimal value := finite value.toRat
  toDecimal
    | finite value => some ⟨(roundHalf (value * 10 ^ 17)).num, -17⟩
    | _ => none

end Exact

end Augr.Foundation
