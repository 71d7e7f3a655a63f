import ControlPlane.Storage.FileSystem

/-!
# A file tree as a value

A disk maps names of places, counted from the root, to folders and files. It has
one folder in which relative paths start. The operations follow a path part by
part: each step needs a folder to start from, and a dot pair leads up.
-/

set_option autoImplicit false

namespace ControlPlane

inductive Entry where
  | folder
  /-- A file; nothing stands for bytes that are no text. -/
  | file (text : Option String)
  deriving DecidableEq

abbrev Key := List String

/-- A tree of folders and regular files. Links, permissions and special files such as pipes are
outside the model: a path leads where its parts say, and no entry refuses what is done to it. -/
structure Disk where
  entries : List (Key × Entry)
  home : Key
  deriving DecidableEq

namespace Disk

def homeKey : Key := ["home"]

def empty : Disk := ⟨[(homeKey, .folder)], homeKey⟩

def entry? (d : Disk) (key : Key) : Option Entry :=
  if key = [] then some .folder else d.entries.lookup key

def put (d : Disk) (key : Key) (e : Entry) : Disk :=
  { d with entries := (key, e) :: d.entries.filter (·.1 ≠ key) }

def remove (d : Disk) (key : Key) : Disk :=
  { d with entries := d.entries.filter (·.1 ≠ key) }

def isFolder (d : Disk) (key : Key) : Bool := d.entry? key = some .folder

inductive Walk where
  | arrived (key : Key)
  | missing
  | blocked
  deriving DecidableEq

def walk (d : Disk) (key : Key) : List Part → Walk
  | [] => .arrived key
  | p :: ps =>
    if d.isFolder key then
      match p with
      | .here => d.walk key ps
      | .up => d.walk key.dropLast ps
      | .name n =>
        let next := key ++ [n]
        if !Location.canBeName n then .blocked
        else if (d.entry? next).isSome then d.walk next ps
        else .missing
    else .blocked

def start (d : Disk) (l : Location) : Key := if l.absolute then [] else d.home

def find (d : Disk) (l : Location) : Walk :=
  if !l.isUsable then .blocked
  else if l.isEmpty then .missing
  else
    match d.walk (d.start l) l.parts with
    | .arrived key => if l.folderOnly && !d.isFolder key then .blocked else .arrived key
    | w => w

def holds (d : Disk) (l : Location) : Bool :=
  match d.find l with
  | .arrived _ => true
  | _ => false

def read (d : Disk) (l : Location) : Option String :=
  match d.find l with
  | .arrived key =>
    match d.entry? key with
    | some (.file text) => text
    | _ => none
  | _ => none

def slot (d : Disk) (l : Location) : Walk :=
  if !l.isUsable then .blocked
  else
    match l.parts.getLast? with
    | some (.name n) =>
      match d.walk (d.start l) l.parts.dropLast with
      | .arrived key =>
        if d.isFolder key && Location.canBeName n then .arrived (key ++ [n]) else .blocked
      | w => w
    | _ =>
      match d.walk (d.start l) l.parts.dropLast with
      | .missing => .missing
      | _ => .blocked

def makeAlong (d : Disk) (key : Key) : List Part → Bool × Disk
  | [] => (d.isFolder key, d)
  | p :: ps =>
    if d.isFolder key then
      match p with
      | .here => d.makeAlong key ps
      | .up => d.makeAlong key.dropLast ps
      | .name n =>
        let next := key ++ [n]
        if !Location.canBeName n then (false, d)
        else if (d.entry? next).isSome then d.makeAlong next ps
        else (d.put next .folder).makeAlong next ps
    else (false, d)

def makeFolders (d : Disk) (l : Location) : Bool × Disk :=
  if l.isUsable then d.makeAlong (d.start l) l.parts else (false, d)

def fileSlot? (d : Disk) (l : Location) : Option Key :=
  if l.folderOnly then none
  else
    match d.slot l with
    | .arrived key => if d.isFolder key then none else some key
    | _ => none

def write (d : Disk) (l : Location) (text : String) : Bool × Disk :=
  match d.fileSlot? l with
  | some key => (true, d.put key (.file (some text)))
  | none => (false, d)

def rename (d : Disk) (source target : Location) : Bool × Disk :=
  match d.find source, d.fileSlot? target with
  | .arrived old, some new =>
    match d.entry? old with
    | some (.file text) => (true, (d.remove old).put new (.file text))
    | _ => (false, d)
  | _, _ => (false, d)

def system : FileSystem (StateM Disk) where
  holds l := do return (← get).holds l
  read l := do return (← get).read l
  makeFolders l := modifyGet (·.makeFolders l)
  write l text := modifyGet (·.write l text)
  rename source target := modifyGet (·.rename source target)

def place (d : Disk) (path : String) (e : Entry) : Disk :=
  let names := (Location.ofText path).parts.map Part.text
  let above := (List.range names.length).map fun n => d.home ++ names.take n
  let d := above.foldl (fun d key => if (d.entry? key).isSome then d else d.put key .folder) d
  d.put (d.home ++ names) e

def listing (d : Disk) : List (String × Entry) :=
  d.entries.filterMap fun (key, e) =>
    let below := key.drop d.home.length
    if d.home.isPrefixOf key && !below.isEmpty then some ("/".intercalate below, e) else none

end Disk

end ControlPlane
