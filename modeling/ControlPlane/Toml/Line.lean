import ControlPlane.Toml.Scalar

/-!
# Lines of a settings text

A line is empty, gives a value to a key, or opens a table. A comment may stand at
its end. Only an array may go on over several lines. Arrays and inline tables are
nested, and keys are dotted, less than eighty deep.
-/

set_option autoImplicit false

namespace ControlPlane.Toml

open Text (Reader mark)

def limit : Nat := 80

def skipSpace (cs : List Char) : List Char := cs.dropWhile isSpace

def skipComment : List Char → List Char
  | '#' :: cs => cs.dropWhile isPlain
  | cs => cs

def lineEnd? (cs : List Char) : Option (List Char) :=
  match skipComment (skipSpace cs) with
  | [] => some []
  | rest => newline? rest

def skipBlankLines : Nat → List Char → List Char
  | 0, cs => cs
  | fuel + 1, cs =>
    match newline? (skipComment (skipSpace cs)) with
    | some rest => skipBlankLines fuel rest
    | none => skipSpace cs

def skipAll (cs : List Char) : List Char := skipBlankLines cs.length cs

def isBare (c : Char) : Bool := c.isAlphanum || c = '_' || c = '-'

def keyPart : Reader String := fun cs =>
  let read : Option (List Char × List Char) :=
    match cs with
    | '"' :: rest => lineText rest
    | '\x27' :: rest => rawLineText rest
    | _ =>
      let name := cs.takeWhile isBare
      if name.isEmpty then none else some (name, cs.dropWhile isBare)
  read.map fun (name, rest) => (String.ofList name, rest)

def keyParts : Nat → Reader (List String)
  | 0, _ => none
  | fuel + 1, cs => do
    let (k, rest) ← keyPart (skipSpace cs)
    match skipSpace rest with
    | '.' :: more => do
      let (ks, rest) ← keyParts fuel more
      some (k :: ks, rest)
    | rest => some ([k], rest)

def key : Reader (List String × String) := fun cs => do
  let (ks, rest) ← keyParts (limit - 1) cs
  let last ← ks.getLast?
  some ((ks.dropLast, last), rest)

def arrayItems (item : Reader Value) : Nat → List Char → Option (List Char)
  | 0, _ => none
  | fuel + 1, cs =>
    match skipAll cs with
    | ']' :: rest => some rest
    | cs => do
      let (_, rest) ← item cs
      match skipAll rest with
      | ',' :: more => arrayItems item fuel more
      | ']' :: more => some more
      | _ => none

def entry (value : Reader Value) : Reader Entry := fun cs => do
  let ((path, key), rest) ← key cs
  let (_, rest) ← mark '=' rest
  let (v, rest) ← value (skipSpace rest)
  some (⟨path, key, v⟩, rest)

def inlineEntries (value : Reader Value) : Nat → Reader (List Entry)
  | 0, _ => none
  | fuel + 1, cs => do
    let (e, rest) ← entry value cs
    match skipSpace rest with
    | ',' :: more => do
      let (es, rest) ← inlineEntries value fuel more
      some (e :: es, rest)
    | '\x7d' :: more => some ([e], more)
    | _ => none

def value : Nat → Reader Value
  | 0, cs => scalar cs
  | depth + 1, cs =>
    match cs with
    | '[' :: rest => (arrayItems (value depth) (rest.length + 1) rest).map (.other, ·)
    | '\x7b' :: rest =>
      match skipSpace rest with
      | '\x7d' :: more => some (.other, more)
      | rest => do
        let (es, rest) ← inlineEntries (value depth) (rest.length + 1) rest
        if agree es then some (.other, rest) else none
    | _ => scalar cs

def header : Reader (List String × String) := fun cs => do
  let (k, rest) ← key cs
  let (_, rest) ← mark ']' rest
  some (k, rest)

def line : Reader Line := fun cs =>
  match skipSpace cs with
  | '[' :: '[' :: rest => do
    let ((path, key), rest) ← header rest
    let (_, rest) ← mark ']' rest
    let rest ← lineEnd? rest
    some (.row path key, rest)
  | '[' :: rest => do
    let ((path, key), rest) ← header rest
    let rest ← lineEnd? rest
    some (.table path key, rest)
  | cs =>
    match lineEnd? cs with
    | some rest => some (.blank, rest)
    | none => do
      let (e, rest) ← entry (value (limit - 1)) cs
      let rest ← lineEnd? rest
      some (.entry e, rest)

def lines : Nat → List Char → Option (List Line)
  | 0, _ => none
  | fuel + 1, cs =>
    if cs.isEmpty then some []
    else do
      let (l, rest) ← line cs
      let ls ← lines fuel rest
      some (l :: ls)

def skipMark : List Char → List Char
  | '\ufeff' :: cs => cs
  | cs => cs

def read (text : String) : Option Items := do
  let cs := skipMark text.toList
  let ls ← lines (cs.length + 1) cs
  build ls

end ControlPlane.Toml
