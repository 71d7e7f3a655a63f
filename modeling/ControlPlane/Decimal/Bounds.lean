/-!
# Bounds of whole numbers

Counters have thirty-two bits and no sign; the other whole numbers have sixty-four
bits, one of which is the sign.
-/

set_option autoImplicit false

namespace ControlPlane.Decimal

def fitsSigned (n : Int) : Bool :=
  -9223372036854775808 ≤ n && n ≤ 9223372036854775807

def counter? (n : Int) : Option UInt32 :=
  if 0 ≤ n ∧ n ≤ 4294967295 then some (UInt32.ofNat n.toNat) else none

end ControlPlane.Decimal
