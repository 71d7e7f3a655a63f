import ControlPlane.Decimal.Scaled
import ControlPlane.Json.Draft

/-!
# Reading JSON

The reader turns a text into a draft. It never refuses: where the grammar is left
the draft ends. Besides the draft it returns what follows the value, or nothing
when it had to stop.
-/

set_option autoImplicit false

namespace ControlPlane.Json

open Text (hexNumber? digitsOf afterDigits natOf)

def isSpace (c : Char) : Bool :=
  c = ' ' || c = '\t' || c = '\n' || c = '\r'

def skipSpace (cs : List Char) : List Char := cs.dropWhile isSpace

inductive Piece where
  | char (c : Char)
  | unit (n : Nat)

def unescape? (c : Char) : Option Char :=
  if c = '"' || c = '\\' || c = '/' then some c
  else if c = 'b' then some '\x08'
  else if c = 'f' then some '\x0c'
  else if c = 'n' then some '\n'
  else if c = 'r' then some '\r'
  else if c = 't' then some '\t'
  else none

def pieces : List Char → Option (List Piece × List Char)
  | [] => none
  | '"' :: cs => some ([], cs)
  | '\\' :: 'u' :: a :: b :: c :: d :: cs => do
    let n ← hexNumber? [a, b, c, d]
    let (ps, rest) ← pieces cs
    some (.unit n :: ps, rest)
  | '\\' :: c :: cs => do
    let c ← unescape? c
    let (ps, rest) ← pieces cs
    some (.char c :: ps, rest)
  | c :: cs =>
    if c.toNat < 0x20 || c = '\\' then none
    else do
      let (ps, rest) ← pieces cs
      some (.char c :: ps, rest)

def isHighHalf (n : Nat) : Bool := 0xd800 ≤ n && n < 0xdc00

def isLowHalf (n : Nat) : Bool := 0xdc00 ≤ n && n < 0xe000

def join? : List Piece → Option (List Char)
  | [] => some []
  | .char c :: ps => (join? ps).map (c :: ·)
  | .unit n :: .unit m :: ps =>
    if isHighHalf n then
      if isLowHalf m then
        (join? ps).map (Char.ofNat (0x10000 + (n - 0xd800) * 0x400 + (m - 0xdc00)) :: ·)
      else none
    else if isLowHalf n then none
    else (join? (.unit m :: ps)).map (Char.ofNat n :: ·)
  | .unit n :: ps =>
    if isHighHalf n || isLowHalf n then none else (join? ps).map (Char.ofNat n :: ·)

def quoted (cs : List Char) : Option (Option String × List Char) :=
  (pieces cs).map fun (ps, rest) => ((join? ps).map String.ofList, rest)

structure Numeral where
  negative : Bool
  whole : List Char
  fraction : Option (List Char)
  exponent : Option Int

def fractionPart : List Char → Option (Option (List Char) × List Char)
  | '.' :: cs =>
    let ds := digitsOf cs
    if ds.isEmpty then none else some (some ds, afterDigits cs)
  | cs => some (none, cs)

def exponentPart (cs : List Char) : Option (Option Int × List Char) :=
  match cs with
  | [] => some (none, [])
  | c :: rest =>
    if c = 'e' || c = 'E' then
      let (sign, rest) : Int × List Char :=
        match rest with
        | '+' :: more => (1, more)
        | '-' :: more => (-1, more)
        | _ => (1, rest)
      let ds := digitsOf rest
      if ds.isEmpty then none else some (some (sign * natOf ds), afterDigits rest)
    else some (none, cs)

def numeral (cs : List Char) : Option (Numeral × List Char) := do
  let (negative, cs) :=
    match cs with
    | '-' :: rest => (true, rest)
    | _ => (false, cs)
  let whole := digitsOf cs
  if whole.isEmpty || (whole.head? = some '0' && whole.length ≠ 1) then none
  else
    let (fraction, cs) ← fractionPart (afterDigits cs)
    let (exponent, cs) ← exponentPart cs
    some ({ negative, whole, fraction, exponent }, cs)

def Numeral.float? (n : Numeral) : Option Number :=
  let size := Decimal.Scaled.ofDigits n.whole (n.fraction.getD []) (n.exponent.getD 0)
  size.toFloat?.map fun x => .float (if n.negative then -x else x)

/-- A numeral without fraction and exponent is a whole number if it fits 64 bits, signed or
not, and a float otherwise. Negative zero is a float. -/
def Numeral.value (n : Numeral) : Option Number :=
  match n.fraction, n.exponent with
  | none, none =>
    let m := natOf n.whole
    if n.negative then
      if m = 0 ∨ 9223372036854775808 < m then n.float? else some (.int (-m))
    else if m ≤ 18446744073709551615 then some (.int m)
    else n.float?
  | _, _ => n.float?

abbrev Seen := Draft × Option (List Char)

def stopped : Seen := (.broken, none)

def seeNumber (cs : List Char) : Seen :=
  match numeral cs with
  | some (n, rest) => (.number n.value, some rest)
  | none => stopped

mutual

def seeValue : Nat → List Char → Seen
  | 0, _ => stopped
  | fuel + 1, cs =>
    match skipSpace cs with
    | 'n' :: 'u' :: 'l' :: 'l' :: rest => (.null, some rest)
    | 't' :: 'r' :: 'u' :: 'e' :: rest => (.bool true, some rest)
    | 'f' :: 'a' :: 'l' :: 's' :: 'e' :: rest => (.bool false, some rest)
    | '"' :: rest =>
      match quoted rest with
      | some (s, rest) => (.string s, some rest)
      | none => stopped
    | '[' :: rest =>
      match skipSpace rest with
      | ']' :: more => (.array [] true, some more)
      | more =>
        let ((items, closed), rest) := seeItems fuel more
        (.array items closed, rest)
    | '{' :: rest =>
      match skipSpace rest with
      | '}' :: more => (.object [] true, some more)
      | '"' :: more =>
        let ((members, closed), rest) := seeMembers fuel more
        (.object members closed, rest)
      | _ => (.misnamed, none)
    | more => seeNumber more

def seeItems : Nat → List Char → (List Draft × Bool) × Option (List Char)
  | 0, _ => (([], false), none)
  | fuel + 1, cs =>
    match seeValue fuel cs with
    | (item, none) => (([item], false), none)
    | (item, some rest) =>
      match skipSpace rest with
      | ']' :: more => (([item], true), some more)
      | ',' :: more =>
        match skipSpace more with
        | ']' :: _ => (([item], false), none)
        | more =>
          let ((items, closed), rest) := seeItems fuel more
          ((item :: items, closed), rest)
      | _ => (([item], false), none)

def seeMembers : Nat → List Char →
    (List (Option String × Draft) × Bool) × Option (List Char)
  | 0, _ => (([], false), none)
  | fuel + 1, cs =>
    match quoted cs with
    | none => (([], false), none)
    | some (key, rest) =>
      match skipSpace rest with
      | ':' :: rest =>
        match seeValue fuel rest with
        | (value, none) => (([(key, value)], false), none)
        | (value, some rest) =>
          match skipSpace rest with
          | '}' :: more => (([(key, value)], true), some more)
          | ',' :: more =>
            match skipSpace more with
            | '"' :: more =>
              let ((members, closed), rest) := seeMembers fuel more
              (((key, value) :: members, closed), rest)
            | _ => (([(key, value)], false), none)
          | _ => (([(key, value)], false), none)
      | _ => (([(key, .broken)], false), none)

end

structure Document where
  root : Draft
  endsThere : Bool

def read (text : String) : Document :=
  let cs := text.toList
  let (root, rest) := seeValue (2 * cs.length + 2) cs
  { root
    endsThere :=
      match rest with
      | some rest => (skipSpace rest).isEmpty
      | none => false }

def parse? (text : String) : Option Json :=
  let doc := read text
  if doc.endsThere then doc.root.toJson? 127 else none

end ControlPlane.Json
