/-!
# JSON values

A number is either a whole number or a float, and the two never stand for each
other. The members of an object are a list of pairs; `put` keeps such a list
sorted by key with one entry a key.
-/

set_option autoImplicit false

namespace ControlPlane

inductive Number where
  | int (n : Int)
  | float (x : Float)

inductive Json where
  | null
  | bool (b : Bool)
  | number (n : Number)
  | string (s : String)
  | array (items : List Json)
  | object (members : List (String × Json))

namespace Json

def int (n : Int) : Json := .number (.int n)

def float (x : Float) : Json := .number (.float x)

/-- A float as a payload takes it: what is not finite becomes null. -/
def ofFloat (x : Float) : Json := if x.isFinite then .float x else .null

def nullable {α : Type} (write : α → Json) : Option α → Json
  | none => .null
  | some a => write a

def optional {α : Type} (key : String) (write : α → Json) : Option α → List (String × Json)
  | none => []
  | some a => [(key, write a)]

def put (key : String) (value : Json) : List (String × Json) → List (String × Json)
  | [] => [(key, value)]
  | (k, v) :: rest =>
    match compare key k with
    | .lt => (key, value) :: (k, v) :: rest
    | .eq => (key, value) :: rest
    | .gt => (k, v) :: put key value rest

def member? (key : String) (members : List (String × Json)) : Option Json :=
  members.lookup key

theorem member?_cons (key k : String) (v : Json) (members : List (String × Json)) :
    member? key ((k, v) :: members) = if key = k then some v else member? key members := by
  by_cases h : key = k
  · subst h
    simp [member?]
  · have apart : (key == k) = false := by simpa using h
    simp [member?, List.lookup_cons, h, apart]

theorem member?_put (key : String) (value : Json) (members : List (String × Json))
    (key' : String) :
    member? key' (put key value members) =
      if key' = key then some value else member? key' members := by
  induction members with
  | nil => rw [put, member?_cons]
  | cons m ms ih =>
    obtain ⟨k, v⟩ := m
    rw [put]
    cases order : compare key k with
    | lt => rw [member?_cons]
    | eq =>
      obtain rfl := Std.LawfulEqOrd.eq_of_compare order
      simp only [member?_cons]
      split <;> rfl
    | gt =>
      have apart : key ≠ k := by
        rintro rfl
        simp at order
      simp only [member?_cons, ih]
      by_cases h : key' = k
      · simp [h, apart.symm]
      · simp [h]

mutual

/-- The same value with the members of every object in order of their keys. Of two
members with one key the later one counts. -/
def sorted : Json → Json
  | .array items => .array (sortedItems items)
  | .object members => .object (sortedMembers [] members)
  | .null => .null
  | .bool b => .bool b
  | .number n => .number n
  | .string s => .string s

def sortedItems : List Json → List Json
  | [] => []
  | j :: js => sorted j :: sortedItems js

def sortedMembers (done : List (String × Json)) : List (String × Json) → List (String × Json)
  | [] => done
  | (k, v) :: rest => sortedMembers (put k (sorted v) done) rest

end

end Json

end ControlPlane
