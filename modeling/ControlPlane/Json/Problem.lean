import ControlPlane.Json.Draft
import ControlPlane.Json.Writer
import ControlPlane.Text.Quoted

/-!
# What can be wrong with a JSON text

A text either leaves the grammar, or it holds a value that does not fit. Only the
second kind has a message that says what was found and what was expected.
-/

set_option autoImplicit false

namespace ControlPlane.Json

inductive Found where
  | null
  | bool (b : Bool)
  | number (n : Number)
  | string (s : String)
  | array
  | object

namespace Found

def describe : Found → String
  | null => "null"
  | bool b => "boolean `" ++ toString b ++ "`"
  | number (.int n) => "integer `" ++ String.ofList (numberText (.int n)) ++ "`"
  | number (.float x) => "floating point `" ++ String.ofList (numberText (.float x)) ++ "`"
  | string s => "string " ++ Text.quoted s
  | array => "sequence"
  | object => "map"

end Found

inductive Problem where
  /-- The text leaves the grammar, or a limit of the reader is passed. -/
  | malformed
  | wrongType (found : Found) (expected : String)
  | outOfRange (n : Int) (expected : String)
  | notOneMember
  | unknownName (name : String) (known : List String)
  | missingField (name : String)
  | duplicateField (name : String)
  | wrongLength (length : Nat) (expected : String)
  /-- A time of update that is neither a text nor a whole number in range. -/
  | badTime

namespace Problem

def alternatives (names : List String) : String :=
  ", ".intercalate (names.map fun n => "`" ++ n ++ "`")

def message : Problem → Option String
  | malformed => none
  | wrongType found expected =>
    some ("invalid type: " ++ found.describe ++ ", expected " ++ expected)
  | outOfRange n expected =>
    some ("invalid value: integer `" ++ String.ofList (numberText (.int n)) ++ "`, expected "
      ++ expected)
  | notOneMember => some "invalid value: map, expected map with a single key"
  | unknownName name known =>
    some ("unknown variant `" ++ name ++ "`, expected one of " ++ alternatives known)
  | missingField name => some ("missing field `" ++ name ++ "`")
  | duplicateField name => some ("duplicate field `" ++ name ++ "`")
  | wrongLength length expected =>
    some ("invalid length " ++ toString length ++ ", expected " ++ expected)
  | badTime => some "data did not match any variant of untagged enum Raw"

end Problem

end ControlPlane.Json
