/-!
# Places in a file tree

A location is a path taken apart at its slashes. Empty parts and single dots say
nothing, except that a dot may start a path, and a path that ends in a slash can
only be a folder. A file is written under a scratch name beside it first, which
has the extension `json.tmp` in place of the file's own.

What says nothing still takes room in the path, and a path may be too long to be
used. So each step of a location keeps the bytes that it takes, and its name may
be too long as well.
-/

set_option autoImplicit false

namespace ControlPlane

inductive Part where
  | here
  | up
  | name (n : String)
  deriving DecidableEq

def Part.text : Part → String
  | .here => "."
  | .up => ".."
  | .name n => n

/-- A part of a path, and the bytes up to its end from the end of the part before it. -/
structure Step where
  part : Part
  width : Nat
  deriving DecidableEq

def Step.toPart (s : Step) (p : Part) : Step :=
  ⟨p, s.width - s.part.text.utf8ByteSize + p.text.utf8ByteSize⟩

def Step.total : List Step → Nat
  | [] => 0
  | s :: ss => s.width + Step.total ss

structure Location where
  absolute : Bool
  steps : List Step
  folderOnly : Bool
  /-- The bytes of the path. -/
  size : Nat
  deriving DecidableEq

namespace Location

def pieces : List Char → List (List Char)
  | [] => [[]]
  | c :: cs =>
    match pieces cs with
    | [] => [[c]]
    | p :: ps => if c = '/' then [] :: p :: ps else (c :: p) :: ps

def stepsOf (leading : Bool) (gap : Nat) : List (List Char) → List Step
  | [] => []
  | p :: ps =>
    let width := gap + (String.ofList p).utf8ByteSize
    if p = [] || (p = ['.'] && !leading) then stepsOf false (width + 1) ps
    else
      let part : Part :=
        if p = ['.'] then .here else if p = ['.', '.'] then .up else .name (String.ofList p)
      ⟨part, width⟩ :: stepsOf false 1 ps

def ofText (text : String) : Location :=
  let ps := pieces text.toList
  let absolute := ps.length ≠ 1 && ps.head? = some []
  { absolute
    steps := stepsOf (!absolute) 0 ps
    folderOnly := ps.length ≠ 1 && (ps.getLast? = some [] || ps.getLast? = some ['.'])
    size := text.utf8ByteSize }

def parts (l : Location) : List Part := l.steps.map (·.part)

def isEmpty (l : Location) : Bool := !l.absolute && l.steps.isEmpty

def withSteps (l : Location) (steps : List Step) : Location :=
  { l with steps, folderOnly := false, size := Step.total steps }

def parent? (l : Location) : Option Location :=
  if l.steps.isEmpty then none else some (l.withSteps l.steps.dropLast)

def stem (name : List Char) : List Char :=
  match name.reverse.dropWhile (· ≠ '.') with
  | [] => name
  | _ :: before => if before.isEmpty then name else before.reverse

/-- Where a file is written before it takes its place. Of a name that is two dots and an
extension nothing but the dots is left, and they name the folder above. -/
def scratch (l : Location) : Location :=
  match l.steps.getLast? with
  | some ⟨.name n, width⟩ =>
    let s := stem n.toList
    let part :=
      if s = ['.'] && n.toList ≠ s && !l.folderOnly then Part.up
      else .name (String.ofList (s ++ ".json.tmp".toList))
    l.withSteps (l.steps.dropLast ++ [Step.toPart ⟨.name n, width⟩ part])
  | _ => l

def isUsable (l : Location) : Bool :=
  l.size < 4096 && l.parts.all fun p => !p.text.toList.contains '\x00'

def canBeName (n : String) : Bool := n.utf8ByteSize < 256

def text (l : Location) : String :=
  (if l.absolute then "/" else "") ++ "/".intercalate (l.parts.map Part.text)
    ++ (if l.folderOnly then "/" else "")

end Location

end ControlPlane
