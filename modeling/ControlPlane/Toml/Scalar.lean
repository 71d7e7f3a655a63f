import ControlPlane.Decimal.Nearest
import ControlPlane.Resume.Instant
import ControlPlane.Toml.Table

/-!
# Values of one piece

Texts, numbers, truth values, dates and times in a settings text. Texts come in
four kinds: with escapes or without, on one line or in a block between triple
quotes. Whole numbers have to fit 64 bits.
-/

set_option autoImplicit false

namespace ControlPlane.Toml

open Text (Reader hexValue? hexNumber? natOf mark)

def isSpace (c : Char) : Bool := c = ' ' || c = '\t'

def isPlain (c : Char) : Bool := c = '\t' || (0x20 ≤ c.toNat && c.toNat ≠ 0x7f)

def codePoint? (ds : List Char) : Option Char := do
  let n ← hexNumber? ds
  if n.isValidChar then some (Char.ofNat n) else none

def unescape? (c : Char) : Option Char :=
  if c = '"' || c = '\\' then some c
  else if c = 'b' then some '\x08'
  else if c = 'f' then some '\x0c'
  else if c = 'n' then some '\n'
  else if c = 'r' then some '\r'
  else if c = 't' then some '\t'
  else none

def before (c : Char) (rest : Option (List Char × List Char)) : Option (List Char × List Char) :=
  rest.map fun (cs, more) => (c :: cs, more)

def lineText : Reader (List Char)
  | [] => none
  | '"' :: cs => some ([], cs)
  | '\\' :: 'u' :: a :: b :: c :: d :: cs => do
    let x ← codePoint? [a, b, c, d]
    before x (lineText cs)
  | '\\' :: 'U' :: a :: b :: c :: d :: e :: f :: g :: h :: cs => do
    let x ← codePoint? [a, b, c, d, e, f, g, h]
    before x (lineText cs)
  | '\\' :: c :: cs => do
    let x ← unescape? c
    before x (lineText cs)
  | c :: cs => if isPlain c && c ≠ '\\' then before c (lineText cs) else none

def rawLineText : Reader (List Char)
  | [] => none
  | c :: cs =>
    if c = '\x27' then some ([], cs)
    else if isPlain c then before c (rawLineText cs)
    else none

def newline? : List Char → Option (List Char)
  | '\n' :: cs => some cs
  | '\r' :: '\n' :: cs => some cs
  | _ => none

def skipNewline (cs : List Char) : List Char := (newline? cs).getD cs

def skipLines : Nat → List Char → List Char
  | 0, cs => cs
  | fuel + 1, cs =>
    let cs := cs.dropWhile isSpace
    match newline? cs with
    | some rest => skipLines fuel rest
    | none => cs

/-- The quotes at the end of a block: the closing three, after one or two that belong to the
text. -/
def blockEnd? (quote : Char) (cs : List Char) : Option (List Char × List Char) :=
  let count := ((cs.take 5).takeWhile (· = quote)).length
  if count < 3 then none else some (List.replicate (count - 3) quote, cs.drop count)

/-- The escape behind a backslash. A backslash at the end of a line drops the line's end and
all blanks after it, and stands for no character. -/
def escape : Reader (Option Char)
  | 'u' :: cs => do
    let x ← codePoint? (cs.take 4)
    if (cs.take 4).length = 4 then some (some x, cs.drop 4) else none
  | 'U' :: cs => do
    let x ← codePoint? (cs.take 8)
    if (cs.take 8).length = 8 then some (some x, cs.drop 8) else none
  | cs =>
    match newline? (cs.dropWhile isSpace) with
    | some rest => some (none, skipLines rest.length rest)
    | none =>
      match cs with
      | c :: rest => (unescape? c).map fun x => (some x, rest)
      | [] => none

def blockText (quote : Char) (escapes : Bool) : Nat → Reader (List Char)
  | 0, _ => none
  | fuel + 1, cs =>
    match blockEnd? quote cs with
    | some found => some found
    | none =>
      match newline? cs with
      | some rest => before '\n' (blockText quote escapes fuel rest)
      | none =>
        match cs with
        | [] => none
        | c :: rest =>
          if escapes && c = '\\' then
            match escape rest with
            | some (some x, rest) => before x (blockText quote escapes fuel rest)
            | some (none, rest) => blockText quote escapes fuel rest
            | none => none
          else if isPlain c then before c (blockText quote escapes fuel rest)
          else none

def string : Reader String := fun cs =>
  let read : Option (List Char × List Char) :=
    match cs with
    | '"' :: '"' :: '"' :: rest =>
      let rest := skipNewline rest
      blockText '"' true (rest.length + 1) rest
    | '\x27' :: '\x27' :: '\x27' :: rest =>
      let rest := skipNewline rest
      blockText '\x27' false (rest.length + 1) rest
    | '"' :: rest => lineText rest
    | '\x27' :: rest => rawLineText rest
    | _ => none
  read.map fun (s, rest) => (String.ofList s, rest)

def moreDigits (isDigit : Char → Bool) : List Char → List Char × List Char
  | [] => ([], [])
  | '_' :: d :: cs =>
    if isDigit d then
      let (ds, rest) := moreDigits isDigit cs
      (d :: ds, rest)
    else ([], '_' :: d :: cs)
  | c :: cs =>
    if isDigit c then
      let (ds, rest) := moreDigits isDigit cs
      (c :: ds, rest)
    else ([], c :: cs)

def digits (isDigit : Char → Bool) : Reader (List Char)
  | [] => none
  | c :: cs =>
    if isDigit c then
      let (ds, rest) := moreDigits isDigit cs
      some (c :: ds, rest)
    else none

def sign : List Char → Bool × List Char
  | '-' :: cs => (true, cs)
  | '+' :: cs => (false, cs)
  | cs => (false, cs)

def decimalDigits : Reader (List Char)
  | '0' :: cs => some (['0'], cs)
  | cs => digits Char.isDigit cs

def checked (n : Int) : Option Int := if Decimal.fitsSigned n then some n else none

def inBase (base : Nat) (isDigit : Char → Bool) : Reader Int := fun cs => do
  let (ds, rest) ← digits isDigit cs
  let n ← checked (ds.foldl (fun n c => base * n + ((hexValue? c).getD 0 : Nat)) 0)
  some (n, rest)

def integer : Reader Int
  | '0' :: 'x' :: cs => inBase 16 (fun c => (hexValue? c).isSome) cs
  | '0' :: 'o' :: cs => inBase 8 (fun c => '0' ≤ c && c ≤ '7') cs
  | '0' :: 'b' :: cs => inBase 2 (fun c => c = '0' || c = '1') cs
  | cs => do
    let (negative, cs) := sign cs
    let (ds, rest) ← decimalDigits cs
    let n ← checked (if negative then -(natOf ds : Int) else natOf ds)
    some (n, rest)

def exponent : Reader Int
  | c :: cs =>
    if c = 'e' || c = 'E' then do
      let (negative, cs) := sign cs
      let (ds, rest) ← digits Char.isDigit cs
      some (if negative then -(natOf ds : Int) else natOf ds, rest)
    else none
  | [] => none

/-- A number with a fraction, an exponent or both. One that is too large for a float is
refused, but below zero it may be. -/
def float : Reader Unit := fun cs => do
  let (negative, cs) := sign cs
  match cs with
  | 'i' :: 'n' :: 'f' :: rest => some ((), rest)
  | 'n' :: 'a' :: 'n' :: rest => some ((), rest)
  | _ =>
    let (whole, cs) ← decimalDigits cs
    let (fraction, power, rest) ←
      match cs with
      | '.' :: cs => do
        let (ds, cs) ← digits Char.isDigit cs
        let (power, cs) := (exponent cs).getD (0, cs)
        some (ds, power, cs)
      | _ => (exponent cs).map fun (power, cs) => ([], power, cs)
    let size := Decimal.nearestFloat? (whole ++ fraction) (power - fraction.length)
    if negative || size.isSome then some ((), rest) else none

def skipOffset (cs : List Char) : List Char :=
  if cs.head? = some '\u2212' then cs
  else
    match Instant.offset cs with
    | some (_, rest) => rest
    | none => cs

def time : Reader Unit := fun cs => do
  let (t, rest) ← Instant.strictTime cs
  if t.isValid then some ((), rest) else none

def dateTime : Reader Unit := fun cs =>
  match Instant.strictDate cs with
  | none => time cs
  | some (d, rest) =>
    if d.isValid then
      match rest with
      | c :: more =>
        if c = 'T' || c = 't' || c = ' ' then
          match Instant.strictTime more with
          | some (t, more) => if t.isValid then some ((), skipOffset more) else none
          | none => some ((), rest)
        else some ((), rest)
      | [] => some ((), [])
    else none

def scalar : Reader Value
  | 't' :: 'r' :: 'u' :: 'e' :: rest => some (.bool true, rest)
  | 'f' :: 'a' :: 'l' :: 's' :: 'e' :: rest => some (.bool false, rest)
  | cs =>
    ((string cs).map fun (s, rest) => (.text s, rest))
    <|> ((dateTime cs).map fun (_, rest) => (.other, rest))
    <|> ((float cs).map fun (_, rest) => (.other, rest))
    <|> ((integer cs).map fun (n, rest) => (.int n, rest))

end ControlPlane.Toml
