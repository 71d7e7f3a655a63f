import ControlPlane.Text.Blank
import ControlPlane.Text.Reading

/-!
# Instants in text

The time of an update is read as milliseconds since the start of 1970. Four forms
are tried in turn: a date and time with an offset, a date and time without one, a
date alone (both in universal time), and a whole number of milliseconds. Dates are
those of the Gregorian calendar, carried back before its introduction.
-/

set_option autoImplicit false

namespace ControlPlane.Instant

open Text (Reader natOf allDigits upTo exactly mark wholeNumber?)

def isLeap (year : Int) : Bool :=
  year % 4 = 0 && (year % 100 ≠ 0 || year % 400 = 0)

def monthLength (year : Int) (month : Nat) : Nat :=
  match month with
  | 2 => if isLeap year then 29 else 28
  | 4 | 6 | 9 | 11 => 30
  | _ => 31

def daysBeforeMonth (month : Nat) : Nat :=
  match month with
  | 0 | 1 => 0
  | 2 => 31
  | 3 => 59
  | 4 => 90
  | 5 => 120
  | 6 => 151
  | 7 => 181
  | 8 => 212
  | 9 => 243
  | 10 => 273
  | 11 => 304
  | _ => 334

def daysBeforeYear (year : Int) : Int :=
  let y := year - 1
  365 * y + y / 4 - y / 100 + y / 400

structure Date where
  year : Int
  month : Nat
  day : Nat

namespace Date

def isValid (d : Date) : Bool :=
  1 ≤ d.month && d.month ≤ 12 && 1 ≤ d.day && d.day ≤ monthLength d.year d.month

/-- The days from the start of 1970; there are 719162 days from year 1 to 1970. -/
def dayNumber (d : Date) : Int :=
  daysBeforeYear d.year - 719162 + daysBeforeMonth d.month
    + (if 2 < d.month && isLeap d.year then 1 else 0) + (d.day - 1)

end Date

/-- A time of day. The sixtieth second is a leap second, allowed in any minute. -/
structure Time where
  hour : Nat
  minute : Nat
  second : Nat
  /-- Whole milliseconds; finer digits are cut off. -/
  milli : Nat

namespace Time

def isValid (t : Time) : Bool :=
  t.hour ≤ 23 && t.minute ≤ 59 && t.second ≤ 60

def millis (t : Time) : Int :=
  ((t.hour * 60 + t.minute) * 60 + t.second) * 1000 + t.milli

end Time

def millisOf (d : Date) (t : Time) : Int :=
  d.dayNumber * 86400000 + t.millis

def fraction : Reader Nat
  | '.' :: cs => do
    let (ds, rest) ← allDigits cs
    some (natOf ((ds ++ ['0', '0', '0']).take 3), rest)
  | cs => some (0, cs)

def strictDate : Reader Date := fun cs => do
  let (year, cs) ← exactly 4 cs
  let (_, cs) ← mark '-' cs
  let (month, cs) ← exactly 2 cs
  let (_, cs) ← mark '-' cs
  let (day, cs) ← exactly 2 cs
  some ({ year, month, day }, cs)

def strictTime : Reader Time := fun cs => do
  let (hour, cs) ← exactly 2 cs
  let (_, cs) ← mark ':' cs
  let (minute, cs) ← exactly 2 cs
  let (_, cs) ← mark ':' cs
  let (second, cs) ← exactly 2 cs
  let (milli, cs) ← fraction cs
  some ({ hour, minute, second, milli }, cs)

def offset : Reader Int
  | [] => none
  | c :: cs =>
    if c = 'Z' || c = 'z' then some (0, cs)
    else do
      let sign ← if c = '+' then some 1 else if c = '-' || c = '\u2212' then some (-1) else none
      let (hours, cs) ← exactly 2 cs
      let (_, cs) ← mark ':' cs
      let (minutes, cs) ← exactly 2 cs
      if hours ≤ 23 && minutes ≤ 59 then some (sign * (hours * 60 + minutes : Nat), cs) else none

def withOffset? (cs : List Char) : Option Int := do
  let (date, cs) ← strictDate cs
  let (c, cs) ← cs.head?.map (·, cs.tail)
  if c = 'T' || c = 't' || c = ' ' then
    let (time, cs) ← strictTime cs
    let (minutes, cs) ← offset cs
    if cs.isEmpty && date.isValid && time.isValid then
      some (millisOf date time - minutes * 60000)
    else none
  else none

def looseYear : Reader Int := fun cs =>
  match Text.trimStart cs with
  | '-' :: rest => (allDigits rest).map fun (ds, cs) => (-(natOf ds : Int), cs)
  | '+' :: rest => (allDigits rest).map fun (ds, cs) => ((natOf ds : Int), cs)
  | rest => (upTo 4 rest).map fun (n, cs) => ((n : Int), cs)

def loose : Reader Nat := fun cs => upTo 2 (Text.trimStart cs)

def yearInRange (year : Int) : Bool := -262143 ≤ year && year ≤ 262142

def looseDate : Reader Date := fun cs => do
  let (year, cs) ← looseYear cs
  let (_, cs) ← mark '-' cs
  let (month, cs) ← loose cs
  let (_, cs) ← mark '-' cs
  let (day, cs) ← loose cs
  some ({ year, month, day }, cs)

def looseTime : Reader Time := fun cs => do
  let (hour, cs) ← loose cs
  let (_, cs) ← mark ':' cs
  let (minute, cs) ← loose cs
  let (_, cs) ← mark ':' cs
  let (second, cs) ← loose cs
  let (milli, cs) ← fraction cs
  some ({ hour, minute, second, milli }, cs)

def withoutOffset? (cs : List Char) : Option Int := do
  let (date, cs) ← looseDate cs
  let cs :=
    match cs with
    | 'T' :: rest => rest
    | _ => cs
  let (time, cs) ← looseTime cs
  if cs.isEmpty && date.isValid && yearInRange date.year && time.isValid then
    some (millisOf date time)
  else none

def dateOnly? (cs : List Char) : Option Int := do
  let (date, cs) ← looseDate cs
  if cs.isEmpty && date.isValid && yearInRange date.year then
    some (date.dayNumber * 86400000)
  else none

def millis (raw : String) : Int :=
  let cs := Text.trim raw.toList
  (withOffset? cs <|> withoutOffset? cs <|> dateOnly? cs <|> wholeNumber? cs).getD 0

end ControlPlane.Instant
