import ControlPlane.Settings.Basic
import ControlPlane.Toml.Line

/-!
# The settings file

A file need not be there, and need not name every setting. What it names beside
the settings is ignored, but a setting has to have a value of its own type.
-/

set_option autoImplicit false

namespace ControlPlane.Settings

open Toml (Items Value)

def setting {α : Type} (items : Items) (key : String) (default : α) (fit : Value → Option α) :
    Option α :=
  match items.get? key with
  | none => some default
  | some (.value v) => fit v
  | some _ => none

def asBool : Value → Option Bool
  | .bool b => some b
  | _ => none

def asCount : Value → Option UInt32
  | .int n => Decimal.counter? n
  | _ => none

def asText : Value → Option String
  | .text s => some s
  | _ => none

def ofItems? (items : Items) : Option Settings := do
  let d : Settings := {}
  let autoResume ← setting items "auto_resume" d.autoResume asBool
  let bound ← setting items "max_reviewer_feedback_count" d.maxReviewerFeedbackCount asCount
  let snapshotPath ← setting items "snapshot_path" d.snapshotPath fun v => (asText v).map some
  let logFilter ← setting items "log_filter" d.logFilter asText
  some ⟨autoResume, bound, snapshotPath, logFilter⟩

def ofText? (text : String) : Option Settings :=
  (Toml.read text).bind ofItems?

section

variable {m : Type → Type} [Monad m]

def readFile (fs : FileSystem m) (path : String) : m (Except Failure Settings) := do
  let place := Location.ofText path
  if ← fs.holds place then
    match ← fs.read place with
    | none => pure (.error .file)
    | some text =>
      match ofText? text with
      | some s => pure (.ok s)
      | none => pure (.error .settingsText)
  else pure (.ok {})

def load (fs : FileSystem m) (path : String) (word : Option String) :
    m (Except Failure Settings) := do
  match ← readFile fs path with
  | .error e => pure (.error e)
  | .ok s => pure (s.heeding word).validate

end

end ControlPlane.Settings
