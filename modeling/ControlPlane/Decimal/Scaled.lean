import ControlPlane.Text.Reading

/-!
# Decimals read by scaling

A decimal is read in few operations, each of which rounds: of its digits as many
count as fit a word of sixty-four bits, the word becomes a float, and the float is
multiplied or divided by a power of ten. This gives the nearest float whenever the
digits and the power are floats themselves, as they are up to fifteen digits and
the power of twenty-two, and otherwise one close to it.
-/

set_option autoImplicit false

namespace ControlPlane.Decimal

open Text (digitValue)

def fillWord (n : Nat) : List Char → Nat × List Char
  | [] => (n, [])
  | d :: ds =>
    let next := 10 * n + digitValue d
    if next < 18446744073709551616 then fillWord next ds else (n, d :: ds)

structure Scaled where
  digits : Nat
  power : Int
  deriving DecidableEq

/-- The digits before and after a point, times a power of ten. A digit that does not fit
counts as a zero before the point, and not at all after it. -/
def Scaled.ofDigits (whole fraction : List Char) (exponent : Int) : Scaled :=
  let (n, skipped) := fillWord 0 whole
  let (m, ignored) := fillWord n fraction
  let taken : Int := fraction.length - ignored.length
  ⟨m, exponent + skipped.length - taken⟩

def powerOfTen (n : Nat) : Float := Float.ofScientific 1 false n

def dividedBy (x : Float) (n : Nat) : Float :=
  if n ≤ 308 then x / powerOfTen n
  else if x == 0 then x
  else dividedBy (x / powerOfTen 308) (n - 308)
termination_by n
decreasing_by omega

def Scaled.toFloat? (s : Scaled) : Option Float :=
  let x := (UInt64.ofNat s.digits).toFloat
  if s.power < 0 then some (dividedBy x s.power.natAbs)
  else if s.power ≤ 308 then
    let y := x * powerOfTen s.power.natAbs
    if y.isInf then none else some y
  else if s.digits = 0 then some x
  else none

end ControlPlane.Decimal
