import ControlPlane.Json.Value

/-!
# Epics that can be resumed

A probe at the start of a run finds epics left over from earlier runs. An epic
that waits for no other one can be taken up at once.
-/

set_option autoImplicit false

namespace ControlPlane

structure ResumeCandidate where
  epicId : String
  priority : Int64
  /-- A date, or milliseconds since 1970. A text that is neither counts as the year 1970. -/
  updatedAt : String
  blockedBy : Option (List String) := none
  deriving DecidableEq

namespace ResumeCandidate

def isExecutable (c : ResumeCandidate) : Bool :=
  match c.blockedBy with
  | none => true
  | some ids => ids.isEmpty

def toJson (c : ResumeCandidate) : Json :=
  .object <|
    [("epic_id", .string c.epicId),
     ("priority", .int c.priority.toInt),
     ("updated_at", .string c.updatedAt)]
    ++ Json.optional "blocked_by" (fun ids => .array (ids.map .string)) c.blockedBy

end ResumeCandidate

end ControlPlane
