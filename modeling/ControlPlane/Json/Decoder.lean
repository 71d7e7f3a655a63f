import ControlPlane.Json.Problem
import ControlPlane.Json.Reader

/-!
# Decoders

A decoder makes a value of a draft or says what is wrong with it; of several
faults the first in the text is the one that is told. A decoder works either
straight on the text, where a fault of the grammar may still lie ahead and nesting
is limited, or on a value that has already been read as a whole.

A record is an object with named fields, or an array of its fields in their
declared order. It is refused for its first faulty member and after that for its
first missing field; then its fields are looked up by name, so that their order in
the text does not matter.
-/

set_option autoImplicit false

namespace ControlPlane.Decode

open Json (Problem)

inductive Source where
  | text (depth : Nat)
  | value

abbrev Decoded (α : Type) := Except Problem α

abbrev Decoder (α : Type) := Source → Draft → Decoded α

def Source.enter : Source → Decoded Source
  | .text 0 => .error .malformed
  | .text (d + 1) => .ok (.text d)
  | .value => .ok .value

/-- A value of another type than the expected one. A fault inside of it is told only of
numbers, texts and literals, for arrays and objects are known by their first character. -/
def mismatch (expected : String) : Draft → Problem
  | .null => .wrongType .null expected
  | .bool b => .wrongType (.bool b) expected
  | .number (some n) => .wrongType (.number n) expected
  | .string (some s) => .wrongType (.string s) expected
  | .array .. => .wrongType .array expected
  | .object .. | .misnamed => .wrongType .object expected
  | .number none | .string none | .broken => .malformed

def bool : Decoder Bool
  | _, .bool b => .ok b
  | _, d => .error (mismatch "a boolean" d)

def string : Decoder String
  | _, .string (some s) => .ok s
  | _, d => .error (mismatch "a string" d)

def float : Decoder Float
  | _, .number (some (.float x)) => .ok x
  | _, .number (some (.int n)) => .ok (Float.ofInt n)
  | _, d => .error (mismatch "f64" d)

def u32 : Decoder UInt32
  | _, .number (some (.int n)) =>
    match Decimal.counter? n with
    | some c => .ok c
    | none => .error (.outOfRange n "u32")
  | _, d => .error (mismatch "u32" d)

def i64 : Decoder Int64
  | _, .number (some (.int n)) =>
    if Decimal.fitsSigned n then .ok (Int64.ofInt n) else .error (.outOfRange n "i64")
  | _, d => .error (mismatch "i64" d)

def orNull {α : Type} (decode : Decoder α) : Decoder (Option α)
  | _, .null => .ok none
  | src, d => (decode src d).map some

def each {α : Type} (decode : Decoder α) (src : Source) : List Draft → Decoded (List α)
  | [] => .ok []
  | d :: ds => do
    let a ← decode src d
    let as ← each decode src ds
    .ok (a :: as)

def list {α : Type} (decode : Decoder α) : Decoder (List α)
  | src, .array items closed => do
    let inner ← src.enter
    let as ← each decode inner items
    if closed then .ok as else .error .malformed
  | _, d => .error (mismatch "a sequence" d)

def Source.depth : Source → Nat
  | .text d => d
  | .value => 127

def whole (src : Source) (d : Draft) : Decoded Draft :=
  if d.isSound src.depth then .ok d else .error .malformed

def members : Decoder (List (String × Json))
  | src, .object ms closed =>
    match Draft.toJson? src.depth (.object ms closed) with
    | some (.object ms) => .ok ms
    | _ => .error .malformed
  | _, .misnamed => .error .malformed
  | _, d => .error (mismatch "a map" d)

structure Names (α : Type) where
  all : List α
  name : α → String

namespace Names

variable {α : Type}

def find (ns : Names α) (n : String) : Decoded α :=
  match ns.all.find? fun a => ns.name a == n with
  | some a => .ok a
  | none => .error (.unknownName n (ns.all.map ns.name))

def bare (ns : Names α) (expected : String) : Draft → Decoded α
  | .string (some s) => ns.find s
  | d => .error (mismatch expected d)

def decode (ns : Names α) : Decoder α
  | .text _, .string (some s) => ns.find s
  | .text depth, .object ((some k, v) :: rest) closed => do
    let _ ← (Source.text depth).enter
    let a ← ns.find k
    match v with
    | .null => if rest.isEmpty && closed then .ok a else .error .malformed
    | v => .error (mismatch "unit" v)
  | .text _, _ => .error .malformed
  | .value, .string (some s) => ns.find s
  | .value, .object [(some k, v)] _ => do
    let a ← ns.find k
    match v with
    | .null | .object [] _ => .ok a
    | v => .error (mismatch "unit" v)
  | .value, .object .. => .error .notOneMember
  | .value, d => .error (mismatch "string or map" d)

end Names

structure Field where
  name : String
  required : Bool
  check : Source → Draft → Decoded Unit

namespace Field

variable {α : Type}

def accepts (decode : Decoder α) (src : Source) (d : Draft) : Decoded Unit :=
  (decode src d).map fun _ => ()

def needed (name : String) (decode : Decoder α) : Field := ⟨name, true, accepts decode⟩

def optional (name : String) (decode : Decoder α) : Field := ⟨name, false, accepts decode⟩

end Field

def elements (n : Nat) : String :=
  toString n ++ (if n = 1 then " element" else " elements")

structure Record where
  source : Source
  members : List (String × Draft)

/-- The first fault among the members of an object. A member that no field asks for has to
follow the grammar, and no more. -/
def checkMembers (fields : List Field) (src : Source) (seen : List String) :
    List (Option String × Draft) → Decoded Unit
  | [] => .ok ()
  | (none, _) :: _ => .error .malformed
  | (some k, v) :: ms =>
    match fields.find? fun f => f.name == k with
    | none => if v.isComplete then checkMembers fields src seen ms else .error .malformed
    | some f =>
      if seen.contains k then .error (.duplicateField k)
      else do
        f.check src v
        checkMembers fields src (k :: seen) ms

def checkItems (src : Source) : List Field → List Draft → Decoded Unit
  | f :: fs, d :: ds => do
    f.check src d
    checkItems src fs ds
  | _, _ => .ok ()

def named : List (Option String × Draft) → List (String × Draft)
  | [] => []
  | (some k, v) :: ms => (k, v) :: named ms
  | (none, _) :: ms => named ms

def firstMissing (fields : List Field) (members : List (String × Draft)) : Option Field :=
  fields.find? fun f => f.required && (members.lookup f.name).isNone

def record (title : String) (fields : List Field) : Source → Draft → Decoded Record
  | src, .object ms closed => do
    let inner ← src.enter
    checkMembers fields inner [] ms
    if closed then
      match firstMissing fields (named ms) with
      | some f => .error (.missingField f.name)
      | none => .ok ⟨inner, named ms⟩
    else .error .malformed
  | _, .misnamed => .error .malformed
  | src, .array items closed => do
    let inner ← src.enter
    checkItems inner fields items
    let count := items.length
    if count < fields.length then
      if !closed then .error .malformed
      else if (fields.drop count).any (·.required) then
        .error (.wrongLength count (title ++ " with " ++ elements fields.length))
      else .ok ⟨inner, (fields.map (·.name)).zip items⟩
    else if count = fields.length ∧ closed then .ok ⟨inner, (fields.map (·.name)).zip items⟩
    else
      match src with
      | .text _ => .error .malformed
      | .value => .error (.wrongLength count (elements fields.length ++ " in sequence"))
  | _, d => .error (mismatch title d)

namespace Record

variable {α : Type}

def get (r : Record) (name : String) (decode : Decoder α) : Decoded α :=
  match r.members.lookup name with
  | some d => decode r.source d
  | none => .error (.missingField name)

def getD (r : Record) (name : String) (decode : Decoder α) (default : α) : Decoded α :=
  match r.members.lookup name with
  | some d => decode r.source d
  | none => .ok default

end Record

def decodeText {α : Type} (decode : Decoder α) (text : String) : Decoded α := do
  let doc := Json.read text
  let a ← decode (.text 127) doc.root
  if doc.endsThere then .ok a else .error .malformed

def decodeValue {α : Type} (decode : Decoder α) (j : Json) : Decoded α :=
  decode (.text 127) (.ofJson j)

end ControlPlane.Decode
