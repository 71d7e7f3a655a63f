import ControlPlane.Json.Problem

/-!
# Failures

Why something could not be done. A failure that this program finds by itself has a
message; what the computer or the grammar of a text finds has none.
-/

set_option autoImplicit false

namespace ControlPlane

inductive Failure where
  | json (problem : Json.Problem)
  | file
  | settingsText
  | zeroFeedback
  | unknownState (name : String)
  | snapshotMissing (path : String)
  | sessionOver
  | killed

def Failure.message : Failure → Option String
  | json problem => problem.message
  | file | settingsText | killed => none
  | zeroFeedback => some "Config error: max_reviewer_feedback_count must be at least 1"
  | unknownState name => some ("unknown state: " ++ name)
  | snapshotMissing path => some ("Snapshot not found at " ++ path)
  | sessionOver =>
    some "Runtime stopped: the state machine task is no longer running"

def Failure.headline : Failure → String
  | .json _ => "JSON error"
  | .file => "IO error"
  | .settingsText => "TOML parse error"
  | .killed => "Runtime task failed"
  | f => f.message.getD ""

end ControlPlane
