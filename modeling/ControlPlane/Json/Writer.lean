import ControlPlane.Json.Value
import ControlPlane.Decimal.Shortest

/-!
# Writing JSON

Compact text has no blanks at all. Pretty text puts each item and each member on
a line of its own, two blanks further in than what holds it. Only the quote, the
backslash and the control characters are escaped.
-/

set_option autoImplicit false

namespace ControlPlane.Json

def hexDigit (n : Nat) : Char := Nat.digitChar n

def escape (c : Char) : List Char :=
  if c = '"' then ['\\', '"']
  else if c = '\\' then ['\\', '\\']
  else if c = '\x08' then ['\\', 'b']
  else if c = '\x0c' then ['\\', 'f']
  else if c = '\n' then ['\\', 'n']
  else if c = '\r' then ['\\', 'r']
  else if c = '\t' then ['\\', 't']
  else if c.toNat < 0x20 then
    ['\\', 'u', '0', '0', hexDigit (c.toNat / 16), hexDigit (c.toNat % 16)]
  else [c]

def quote (s : String) : List Char :=
  '"' :: s.toList.flatMap escape ++ ['"']

def numberText : Number → List Char
  | .int n => Decimal.wholeText n
  | .float x => (Decimal.floatText x).getD "null".toList

def boolText (b : Bool) : List Char :=
  if b then "true".toList else "false".toList

mutual

def write : Json → List Char
  | .null => "null".toList
  | .bool b => boolText b
  | .number n => numberText n
  | .string s => quote s
  | .array [] => ['[', ']']
  | .array (j :: js) => '[' :: write j ++ writeItems js
  | .object [] => ['{', '}']
  | .object ((k, v) :: ms) => '{' :: quote k ++ ':' :: write v ++ writeMembers ms

def writeItems : List Json → List Char
  | [] => [']']
  | j :: js => ',' :: write j ++ writeItems js

def writeMembers : List (String × Json) → List Char
  | [] => ['}']
  | (k, v) :: ms => ',' :: quote k ++ ':' :: write v ++ writeMembers ms

end

def newline (level : Nat) : List Char :=
  '\n' :: List.replicate (2 * level) ' '

mutual

def writePretty (level : Nat) : Json → List Char
  | .null => "null".toList
  | .bool b => boolText b
  | .number n => numberText n
  | .string s => quote s
  | .array [] => ['[', ']']
  | .array (j :: js) =>
    '[' :: newline (level + 1) ++ writePretty (level + 1) j ++ prettyItems level js
  | .object [] => ['{', '}']
  | .object ((k, v) :: ms) =>
    '{' :: newline (level + 1) ++ quote k ++ ':' :: ' ' :: writePretty (level + 1) v
      ++ prettyMembers level ms

def prettyItems (level : Nat) : List Json → List Char
  | [] => newline level ++ [']']
  | j :: js => ',' :: newline (level + 1) ++ writePretty (level + 1) j ++ prettyItems level js

def prettyMembers (level : Nat) : List (String × Json) → List Char
  | [] => newline level ++ ['}']
  | (k, v) :: ms =>
    ',' :: newline (level + 1) ++ quote k ++ ':' :: ' ' :: writePretty (level + 1) v
      ++ prettyMembers level ms

end

def compact (j : Json) : String := String.ofList (write j)

def pretty (j : Json) : String := String.ofList (writePretty 0 j)

end ControlPlane.Json
