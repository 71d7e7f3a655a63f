import ControlPlane.Resume.Candidate
import ControlPlane.Resume.Instant

/-!
# Order of resumption

What can be executed comes before what is blocked, then the more urgent before
the less urgent, then the later update before the earlier one, and last the
smaller name. Ranking sorts by this order and leaves equals as they were.
-/

set_option autoImplicit false

namespace ControlPlane

namespace ResumeCandidate

def millis (c : ResumeCandidate) : Int := Instant.millis c.updatedAt

/-- Less means resumed earlier. -/
def order (a b : ResumeCandidate) : Ordering :=
  (compare b.isExecutable a.isExecutable)
    |>.then (compare a.priority b.priority)
    |>.then (compare b.millis a.millis)
    |>.then (compare a.epicId b.epicId)

def precedes (a b : ResumeCandidate) : Bool := (order a b).isLE

end ResumeCandidate

def ranked (candidates : List ResumeCandidate) : List ResumeCandidate :=
  candidates.mergeSort ResumeCandidate.precedes

end ControlPlane
