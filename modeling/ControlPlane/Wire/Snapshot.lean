import ControlPlane.Json.Decoder
import ControlPlane.Run.Transition

/-!
# Reading snapshots and results

The decoders of what a run stores and answers: candidates, artifacts, contexts,
snapshots, commands and results. A context has a default for every field, and so
any part of one is a context.
-/

set_option autoImplicit false

namespace ControlPlane.Decode

def states : Names State := ⟨State.all, State.tag⟩

def commandKinds : Names CommandKind := ⟨CommandKind.all, CommandKind.name⟩

def state : Decoder State := states.decode

def updatedAt : Decoder String := fun src d => do
  match ← whole src d with
  | .string (some s) => .ok s
  | .number (some (.int n)) =>
    if Decimal.fitsSigned n then .ok (String.ofList (Decimal.wholeText n))
    else .error .badTime
  | _ => .error .badTime

def candidateFields : List Field :=
  [.needed "epic_id" string, .needed "priority" i64, .needed "updated_at" updatedAt,
   .optional "blocked_by" (orNull (list string))]

def candidate : Decoder ResumeCandidate := fun src d => do
  let r ← record "struct ResumeCandidate" candidateFields src d
  .ok
    { epicId := ← r.get "epic_id" string
      priority := ← r.get "priority" i64
      updatedAt := ← r.get "updated_at" updatedAt
      blockedBy := ← r.getD "blocked_by" (orNull (list string)) none }

def candidates : Decoder (List ResumeCandidate) := list candidate

def artifactFields : List Field :=
  [.needed "agent_id" string, .needed "summary_path" string, .needed "memory_path" string,
   .optional "operation_log_path" (orNull string)]

def artifact : Decoder ResearchArtifact := fun src d => do
  let r ← record "struct ResearchArtifactRef" artifactFields src d
  .ok
    { agentId := ← r.get "agent_id" string
      summaryPath := ← r.get "summary_path" string
      memoryPath := ← r.get "memory_path" string
      operationLogPath := ← r.getD "operation_log_path" (orNull string) none }

def contextFields : List Field :=
  [.optional "auto_resume" bool, .optional "confidence" float,
   .optional "current_epic_id" (orNull string), .optional "pending_epic_id" (orNull string),
   .optional "resume_candidates" candidates, .optional "resume_queue" candidates,
   .optional "reviewer_feedback_count" u32, .optional "max_reviewer_feedback_count" u32,
   .optional "research_expected" u32, .optional "research_received" u32,
   .optional "research_artifacts" (list artifact), .optional "last_error" (orNull string)]

def context : Decoder Context := fun src d => do
  let r ← record "struct Context" contextFields src d
  let c : Context := {}
  .ok
    { autoResume := ← r.getD "auto_resume" bool c.autoResume
      confidence := ← r.getD "confidence" float c.confidence
      currentEpicId := ← r.getD "current_epic_id" (orNull string) c.currentEpicId
      pendingEpicId := ← r.getD "pending_epic_id" (orNull string) c.pendingEpicId
      resumeCandidates := ← r.getD "resume_candidates" candidates c.resumeCandidates
      resumeQueue := ← r.getD "resume_queue" candidates c.resumeQueue
      reviewerFeedbackCount := ← r.getD "reviewer_feedback_count" u32 c.reviewerFeedbackCount
      maxReviewerFeedbackCount :=
        ← r.getD "max_reviewer_feedback_count" u32 c.maxReviewerFeedbackCount
      researchExpected := ← r.getD "research_expected" u32 c.researchExpected
      researchReceived := ← r.getD "research_received" u32 c.researchReceived
      researchArtifacts := ← r.getD "research_artifacts" (list artifact) c.researchArtifacts
      lastError := ← r.getD "last_error" (orNull string) c.lastError }

def snapshotFields : List Field :=
  [.needed "state" state, .needed "context" context]

def snapshot : Decoder Snapshot := fun src d => do
  let r ← record "struct Snapshot" snapshotFields src d
  .ok { state := ← r.get "state" state, context := ← r.get "context" context }

def commandFields : List Field :=
  [.needed "type" commandKinds.decode, .optional "payload" (orNull members)]

def command : Decoder Command := fun src d => do
  let r ← record "struct Command" commandFields src d
  .ok
    { kind := ← r.get "type" commandKinds.decode
      payload := ← r.getD "payload" (orNull members) none }

def resultFields : List Field :=
  [.needed "state" state, .needed "context" context, .needed "changed" bool,
   .needed "commands" (list command), .optional "reason" (orNull string)]

def result : Decoder TransitionResult := fun src d => do
  let r ← record "struct TransitionResult" resultFields src d
  .ok
    { state := ← r.get "state" state
      context := ← r.get "context" context
      changed := ← r.get "changed" bool
      commands := ← r.get "commands" (list command)
      reason := ← r.getD "reason" (orNull string) none }

end ControlPlane.Decode
