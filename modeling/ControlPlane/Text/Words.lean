/-!
# Titles and tags

A variant is titled by capitalised words written together. Its tag has the same words in
small letters, with an underscore in front of each but the first.
-/

set_option autoImplicit false

namespace ControlPlane.Text

def snakeChar (c : Char) : List Char :=
  if c.isUpper then ['_', c.toLower] else [c]

def snakeCase (title : String) : String :=
  match title.toList with
  | [] => ""
  | c :: cs => String.ofList (c.toLower :: cs.flatMap snakeChar)

end ControlPlane.Text
