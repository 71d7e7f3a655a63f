import ControlPlane.Json.Value

/-!
# JSON as it was met

A draft is what a reader saw of a value, up to the place where it could go no
further. It keeps what a value cannot: an array or object that was never closed,
a number too large for a float, a string with half of a surrogate pair, a member
met twice. What is wrong with a draft depends on what is asked of it, so the
judgement is left to the decoders.
-/

set_option autoImplicit false

namespace ControlPlane

inductive Draft where
  | null
  | bool (b : Bool)
  /-- Nothing stands for a number that is too large. -/
  | number (n : Option Number)
  /-- Nothing stands for a text with half of a surrogate pair. -/
  | string (s : Option String)
  | array (items : List Draft) (closed : Bool)
  | object (members : List (Option String × Draft)) (closed : Bool)
  /-- An object whose first key is not a string. -/
  | misnamed
  /-- No value of the grammar. -/
  | broken

namespace Draft

mutual

def ofJson : Json → Draft
  | .null => .null
  | .bool b => .bool b
  | .number n => .number (some n)
  | .string s => .string (some s)
  | .array items => .array (ofItems items) true
  | .object members => .object (ofMembers members) true

def ofItems : List Json → List Draft
  | [] => []
  | j :: js => ofJson j :: ofItems js

def ofMembers : List (String × Json) → List (Option String × Draft)
  | [] => []
  | (k, v) :: ms => (some k, ofJson v) :: ofMembers ms

end

mutual

/-- Whether the text follows the grammar to its end, which is all that is asked of a value
that nobody reads. -/
def isComplete : Draft → Bool
  | .null | .bool _ | .number _ | .string _ => true
  | .array items closed => closed && allComplete items
  | .object members closed => closed && membersComplete members
  | .misnamed | .broken => false

def allComplete : List Draft → Bool
  | [] => true
  | d :: ds => isComplete d && allComplete ds

def membersComplete : List (Option String × Draft) → Bool
  | [] => true
  | (_, v) :: ms => isComplete v && membersComplete ms

end

mutual

def toJson? (depth : Nat) : Draft → Option Json
  | .null => some .null
  | .bool b => some (.bool b)
  | .number n => n.map .number
  | .string s => s.map .string
  | .array items true =>
    match depth with
    | 0 => none
    | d + 1 => (items? d items).map .array
  | .object members true =>
    match depth with
    | 0 => none
    | d + 1 => (members? d [] members).map .object
  | _ => none

def items? (depth : Nat) : List Draft → Option (List Json)
  | [] => some []
  | d :: ds => do
    let j ← toJson? depth d
    let js ← items? depth ds
    some (j :: js)

def members? (depth : Nat) (done : List (String × Json)) :
    List (Option String × Draft) → Option (List (String × Json))
  | [] => some done
  | (none, _) :: _ => none
  | (some k, v) :: ms => do
    let j ← toJson? depth v
    members? depth (Json.put k j done) ms

end

def isSound (depth : Nat) (d : Draft) : Bool := (toJson? depth d).isSome

end Draft

end ControlPlane
