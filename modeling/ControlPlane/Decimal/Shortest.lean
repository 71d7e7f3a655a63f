/-!
# Shortest decimals

The decimal that is written for a float is the one with the fewest digits among
those that round to it, and of these the nearest. A finite float is `m * 2^q`;
the reals that round to it form an interval, whose ends belong to it when `m` is
even. Grids of powers of ten are tried from coarse to fine, and on each of them
only the two neighbours of the float can be the answer.
-/

set_option autoImplicit false

namespace ControlPlane.Decimal

structure Interval where
  low : Nat
  mid : Nat
  high : Nat
  den : Nat
  closed : Bool

def leastFull : Nat := 4503599627370496

def parts (x : Float) : Nat × Int :=
  let bits := x.toBits.toNat
  let fraction : Nat := bits % leastFull
  let power : Nat := bits / leastFull % 2048
  if power = 0 then (fraction, -1074) else (fraction + leastFull, (power : Int) - 1075)

/-- The next float below a power of two is only half as far away as the next one above. -/
def interval (m : Nat) (q : Int) : Interval :=
  let below := if m = leastFull ∧ q ≠ -1074 then 1 else 2
  let scale := Nat.pow 2 (q - 2).toNat
  { low := (4 * m - below) * scale
    mid := 4 * m * scale
    high := (4 * m + 2) * scale
    den := Nat.pow 2 (2 - q).toNat
    closed := m % 2 = 0 }

def Interval.holds (i : Interval) (c : Nat) (k : Int) : Bool :=
  let v := c * Nat.pow 10 k.toNat * i.den
  let s := Nat.pow 10 (-k).toNat
  if i.closed then i.low * s ≤ v && v ≤ i.high * s else i.low * s < v && v < i.high * s

def Interval.floor (i : Interval) (k : Int) : Nat :=
  i.mid * Nat.pow 10 (-k).toNat / (i.den * Nat.pow 10 k.toNat)

def Interval.nearer (i : Interval) (k : Int) (c : Nat) : Nat :=
  match compare (2 * i.mid * Nat.pow 10 (-k).toNat) ((2 * c + 1) * Nat.pow 10 k.toNat * i.den) with
  | .lt => c
  | .gt => c + 1
  | .eq => if c % 2 = 0 then c else c + 1

def Interval.pick (i : Interval) (k : Int) : Option Nat :=
  let c := i.floor k
  match i.holds c k, i.holds (c + 1) k with
  | true, true => some (i.nearer k c)
  | true, false => some c
  | false, true => some (c + 1)
  | false, false => none

def Interval.search (i : Interval) : Nat → Int → Nat × Int
  | 0, k => (i.floor k, k)
  | n + 1, k =>
    match i.pick k with
    | some c => (c, k)
    | none => i.search n (k - 1)

def ceiling (m : Nat) (q : Int) : Int :=
  ((m.log2 + 1 : Nat) + q) * 30103 / 100000 + 2

def shortest (x : Float) : Nat × Int :=
  let (m, q) := parts x
  (interval m q).search 40 (ceiling m q)

def digits (n : Nat) : List Char :=
  if n < 10 then [Nat.digitChar n] else digits (n / 10) ++ [Nat.digitChar (n % 10)]
termination_by n
decreasing_by omega

def wholeText (n : Int) : List Char :=
  if n < 0 then '-' :: digits n.natAbs else digits n.natAbs

/-- Lay out the digits of `c * 10^k`: positional from a hundred-thousandth up to ten to the
sixteenth, with at least one decimal, and with a signed exponent outside of that. -/
def layout (c : Nat) (k : Int) : List Char :=
  let ds := digits c
  let point := (ds.length : Int) + k
  if -4 ≤ point ∧ point ≤ 16 then
    if 0 ≤ k then ds ++ List.replicate k.toNat '0' ++ ['.', '0']
    else if 0 < point then ds.take point.toNat ++ '.' :: ds.drop point.toNat
    else '0' :: '.' :: List.replicate (-point).toNat '0' ++ ds
  else
    let mantissa :=
      match ds with
      | [] => []
      | [d] => [d]
      | d :: rest => d :: '.' :: rest
    let power := point - 1
    mantissa ++ 'e' :: (if power < 0 then '-' else '+') :: digits power.natAbs

def isNegative (x : Float) : Bool :=
  9223372036854775808 ≤ x.toBits.toNat

def floatText (x : Float) : Option (List Char) :=
  if x.isFinite then
    let body :=
      if (parts x).1 = 0 then ['0', '.', '0']
      else
        let (c, k) := shortest x
        layout c k
    some (if isNegative x then '-' :: body else body)
  else none

end ControlPlane.Decimal
