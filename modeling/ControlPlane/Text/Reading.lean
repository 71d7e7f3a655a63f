import ControlPlane.Decimal.Bounds

/-!
# Small readers

A reader takes the front of a text and says what is left of it, or fails. The
readers here are for digits and single marks; only the digits from 0 to 9 count.
-/

set_option autoImplicit false

namespace ControlPlane.Text

abbrev Reader (α : Type) := List Char → Option (α × List Char)

def mark (c : Char) : Reader Unit
  | d :: cs => if d = c then some ((), cs) else none
  | [] => none

def digitValue (c : Char) : Nat := c.toNat - '0'.toNat

def natOf (ds : List Char) : Nat :=
  ds.foldl (fun n c => 10 * n + digitValue c) 0

def digitsOf (cs : List Char) : List Char := cs.takeWhile Char.isDigit

def afterDigits (cs : List Char) : List Char := cs.dropWhile Char.isDigit

def allDigits : Reader (List Char) := fun cs =>
  let ds := digitsOf cs
  if ds.isEmpty then none else some (ds, afterDigits cs)

def upTo (limit : Nat) : Reader Nat := fun cs =>
  let ds := digitsOf (cs.take limit)
  if ds.isEmpty then none else some (natOf ds, cs.drop ds.length)

def exactly (count : Nat) : Reader Nat := fun cs =>
  let ds := cs.take count
  if ds.length = count && ds.all Char.isDigit then some (natOf ds, cs.drop count) else none

def hexValue? (c : Char) : Option Nat :=
  if '0' ≤ c ∧ c ≤ '9' then some (c.toNat - '0'.toNat)
  else if 'a' ≤ c ∧ c ≤ 'f' then some (c.toNat - 'a'.toNat + 10)
  else if 'A' ≤ c ∧ c ≤ 'F' then some (c.toNat - 'A'.toNat + 10)
  else none

def hexNumber? (ds : List Char) : Option Nat :=
  ds.foldlM (fun n c => (hexValue? c).map (16 * n + ·)) 0

def wholeNumber? (cs : List Char) : Option Int :=
  let (negative, ds) :=
    match cs with
    | '-' :: rest => (true, rest)
    | '+' :: rest => (false, rest)
    | _ => (false, cs)
  if ds.isEmpty || !ds.all Char.isDigit then none
  else
    let n : Int := if negative then -(natOf ds : Int) else natOf ds
    if Decimal.fitsSigned n then some n else none

end ControlPlane.Text
