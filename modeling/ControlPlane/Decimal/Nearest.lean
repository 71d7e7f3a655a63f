import ControlPlane.Text.Reading

/-!
# The float nearest to a decimal

A decimal is read as the float that lies nearest to it. Decimals far outside the
range of floats are decided by their size alone, before any power of ten is taken.
-/

set_option autoImplicit false

namespace ControlPlane.Decimal

open Text (natOf)

def nearestFloat? (ds : List Char) (e : Int) : Option Float :=
  let m := natOf ds
  let top := (ds.dropWhile (· = '0')).length + e
  if m = 0 then some 0.0
  else if 310 < top then none
  else if top < -330 then some 0.0
  else
    let x := Float.ofScientific m (e < 0) e.natAbs
    if x.isInf then none else some x

end ControlPlane.Decimal
