import ControlPlane.Failure
import ControlPlane.Storage.Location
import ControlPlane.Wire.Snapshot

/-!
# Keeping snapshots in files

A file system is a handful of operations, each of which may fail. A snapshot is
saved in three steps: the folders above it are made, the text is written under the
scratch name, and that file is renamed over the one that was there. So the place
of the snapshot holds the old text or the new one and never a part of it.
-/

set_option autoImplicit false

namespace ControlPlane

structure FileSystem (m : Type → Type) where
  holds : Location → m Bool
  read : Location → m (Option String)
  makeFolders : Location → m Bool
  write : Location → String → m Bool
  rename : Location → Location → m Bool

namespace FileSystem

variable {m : Type → Type} [Monad m]

def save (fs : FileSystem m) (path : String) (s : Snapshot) : m Bool := do
  let place := Location.ofText path
  let ready ←
    match place.parent? with
    | some folder => if folder.isEmpty then pure true else fs.makeFolders folder
    | none => pure true
  if ready then
    if ← fs.write place.scratch s.toJson.pretty then fs.rename place.scratch place
    else pure false
  else pure false

def hasSnapshot (fs : FileSystem m) (path : String) : m Bool :=
  fs.holds (.ofText path)

def readAs {α : Type} (fs : FileSystem m) (decode : Decode.Decoder α) (path : String) :
    m (Except Failure α) := do
  match ← fs.read (.ofText path) with
  | none => pure (.error .file)
  | some text =>
    match Decode.decodeText decode text with
    | .ok a => pure (.ok a)
    | .error problem => pure (.error (.json problem))

def load (fs : FileSystem m) (path : String) : m (Except Failure Snapshot) := do
  if ← fs.hasSnapshot path then fs.readAs Decode.snapshot path
  else pure (.error (.snapshotMissing path))

end FileSystem

end ControlPlane
