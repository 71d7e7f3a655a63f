import ControlPlane.Resume.Candidate

/-!
# The context of a run

What a run remembers besides its state. Counters stop at the largest number that
they can hold.
-/

set_option autoImplicit false

namespace ControlPlane

def confidenceThreshold : Float := 0.6

structure ResearchArtifact where
  agentId : String
  summaryPath : String
  memoryPath : String
  operationLogPath : Option String := none
  deriving DecidableEq

def ResearchArtifact.toJson (a : ResearchArtifact) : Json :=
  .object <|
    [("agent_id", .string a.agentId),
     ("summary_path", .string a.summaryPath),
     ("memory_path", .string a.memoryPath)]
    ++ Json.optional "operation_log_path" .string a.operationLogPath

def countUp (n : UInt32) : UInt32 :=
  if n = 4294967295 then n else n + 1

theorem countUp_toNat (n : UInt32) : (countUp n).toNat = min (n.toNat + 1) 4294967295 := by
  have hn : n.toNat < 4294967296 := n.toNat_lt
  unfold countUp
  split
  · rename_i top
    subst top
    rfl
  · rename_i below
    have hb : n.toNat ≠ 4294967295 := fun h => below (UInt32.toNat_inj.mp h)
    rw [UInt32.toNat_add, Nat.mod_eq_of_lt (by simp; omega)]
    simp
    omega

structure Context where
  autoResume : Bool := false
  confidence : Float := 0.0
  currentEpicId : Option String := none
  pendingEpicId : Option String := none
  resumeCandidates : List ResumeCandidate := []
  resumeQueue : List ResumeCandidate := []
  reviewerFeedbackCount : UInt32 := 0
  maxReviewerFeedbackCount : UInt32 := 3
  researchExpected : UInt32 := 0
  researchReceived : UInt32 := 0
  researchArtifacts : List ResearchArtifact := []
  lastError : Option String := none
  deriving BEq

namespace Context

def outstanding (c : Context) : UInt32 :=
  if c.researchReceived < c.researchExpected then c.researchExpected - c.researchReceived else 0

def isLow (c : Context) : Bool := decide (c.confidence < confidenceThreshold)

def settleOn (c : Context) (epicId : Option String) : Context :=
  { c with currentEpicId := epicId <|> c.currentEpicId, pendingEpicId := none }

def toJson (c : Context) : Json :=
  .object
    [("auto_resume", .bool c.autoResume),
     ("confidence", .float c.confidence),
     ("current_epic_id", .nullable .string c.currentEpicId),
     ("pending_epic_id", .nullable .string c.pendingEpicId),
     ("resume_candidates", .array (c.resumeCandidates.map (·.toJson))),
     ("resume_queue", .array (c.resumeQueue.map (·.toJson))),
     ("reviewer_feedback_count", .int c.reviewerFeedbackCount.toNat),
     ("max_reviewer_feedback_count", .int c.maxReviewerFeedbackCount.toNat),
     ("research_expected", .int c.researchExpected.toNat),
     ("research_received", .int c.researchReceived.toNat),
     ("research_artifacts", .array (c.researchArtifacts.map (·.toJson))),
     ("last_error", .nullable .string c.lastError)]

end Context

end ControlPlane
