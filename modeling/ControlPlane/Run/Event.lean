import ControlPlane.Run.Context
import ControlPlane.Run.Verdict
import ControlPlane.Text.Words

/-!
# Events

Everything that can happen to a run. A run changes by events only. Heartbeats and
ticks show that the run is alive and never change it.
-/

set_option autoImplicit false

namespace ControlPlane

inductive EventKind where
  | boot
  | bdProbeResult
  | resumeDecision
  | resumePlanLoaded
  | userInput
  | intakeCompleted
  | switchResolved
  | epicSynced
  | planBaselined
  | planReviewPass
  | planReviewFeedback
  | observeDefined
  | researchDispatched
  | researchResult
  | researchIngested
  | researchEvaluated
  | detailDesigned
  | coderHandoffReady
  | scheduleDecided
  | resourceAvailable
  | dispatchResult
  | coderResult
  | reviewResult
  | replanApplied
  | requirementChanged
  | cancel
  | fatalError
  | heartbeat
  | tick
  deriving DecidableEq

namespace EventKind

def all : List EventKind :=
  [boot, bdProbeResult, resumeDecision, resumePlanLoaded, userInput, intakeCompleted,
   switchResolved, epicSynced, planBaselined, planReviewPass, planReviewFeedback,
   observeDefined, researchDispatched, researchResult, researchIngested, researchEvaluated,
   detailDesigned, coderHandoffReady, scheduleDecided, resourceAvailable, dispatchResult,
   coderResult, reviewResult, replanApplied, requirementChanged, cancel, fatalError,
   heartbeat, tick]

def name : EventKind → String
  | boot => "boot"
  | bdProbeResult => "bd_probe_result"
  | resumeDecision => "resume_decision"
  | resumePlanLoaded => "resume_plan_loaded"
  | userInput => "user_input"
  | intakeCompleted => "intake_completed"
  | switchResolved => "switch_resolved"
  | epicSynced => "epic_synced"
  | planBaselined => "plan_baselined"
  | planReviewPass => "plan_review_pass"
  | planReviewFeedback => "plan_review_feedback"
  | observeDefined => "observe_defined"
  | researchDispatched => "research_dispatched"
  | researchResult => "research_result"
  | researchIngested => "research_ingested"
  | researchEvaluated => "research_evaluated"
  | detailDesigned => "detail_designed"
  | coderHandoffReady => "coder_handoff_ready"
  | scheduleDecided => "schedule_decided"
  | resourceAvailable => "resource_available"
  | dispatchResult => "dispatch_result"
  | coderResult => "coder_result"
  | reviewResult => "review_result"
  | replanApplied => "replan_applied"
  | requirementChanged => "requirement_changed"
  | cancel => "cancel"
  | fatalError => "fatal_error"
  | heartbeat => "heartbeat"
  | tick => "tick"

def title : EventKind → String
  | boot => "Boot"
  | bdProbeResult => "BdProbeResult"
  | resumeDecision => "ResumeDecision"
  | resumePlanLoaded => "ResumePlanLoaded"
  | userInput => "UserInput"
  | intakeCompleted => "IntakeCompleted"
  | switchResolved => "SwitchResolved"
  | epicSynced => "EpicSynced"
  | planBaselined => "PlanBaselined"
  | planReviewPass => "PlanReviewPass"
  | planReviewFeedback => "PlanReviewFeedback"
  | observeDefined => "ObserveDefined"
  | researchDispatched => "ResearchDispatched"
  | researchResult => "ResearchResult"
  | researchIngested => "ResearchIngested"
  | researchEvaluated => "ResearchEvaluated"
  | detailDesigned => "DetailDesigned"
  | coderHandoffReady => "CoderHandoffReady"
  | scheduleDecided => "ScheduleDecided"
  | resourceAvailable => "ResourceAvailable"
  | dispatchResult => "DispatchResult"
  | coderResult => "CoderResult"
  | reviewResult => "ReviewResult"
  | replanApplied => "ReplanApplied"
  | requirementChanged => "RequirementChanged"
  | cancel => "Cancel"
  | fatalError => "FatalError"
  | heartbeat => "Heartbeat"
  | tick => "Tick"

/-- The tag that stands for the kind in JSON. It comes from the title and not from the name, and
that both are the same has to be seen kind by kind. -/
def tag (k : EventKind) : String := Text.snakeCase k.title

theorem tag_eq_name (k : EventKind) : k.tag = k.name := by
  cases k <;> decide +kernel

end EventKind

inductive Event where
  | boot
  | bdProbeResult (candidates : List ResumeCandidate)
  | resumeDecision (resume : Bool)
  | resumePlanLoaded (epicId : Option String)
  | userInput (text : String)
  | intakeCompleted (confidence : Float) (conflict : Bool) (epicId : Option String)
  | switchResolved (confidence : Option Float) (epicId : Option String)
  | epicSynced (epicId : Option String)
  | planBaselined (confidence : Float) (needPlanReview : Bool)
  | planReviewPass
  | planReviewFeedback (blocking : Bool)
  | observeDefined (researchExpected : Option UInt32)
  | researchDispatched
  | researchResult (artifact : ResearchArtifact)
  | researchIngested
  | researchEvaluated (decision : ResearchDecision) (missing : Option UInt32)
  | detailDesigned
  | coderHandoffReady
  | scheduleDecided (confidence : Float) (resourceBusy : Bool)
  | resourceAvailable
  | dispatchResult (ok : Bool) (error : Option String)
  | coderResult
  | reviewResult (decision : ReviewDecision) (claimsWithoutEvidence : UInt32)
  | replanApplied (confidence : Float)
  | requirementChanged (summary : Option String)
  | cancel (reason : Option String)
  | fatalError (error : String)
  | heartbeat (agentId : String)
  | tick

namespace Event

def kind : Event → EventKind
  | boot => .boot
  | bdProbeResult _ => .bdProbeResult
  | resumeDecision _ => .resumeDecision
  | resumePlanLoaded _ => .resumePlanLoaded
  | userInput _ => .userInput
  | intakeCompleted .. => .intakeCompleted
  | switchResolved .. => .switchResolved
  | epicSynced _ => .epicSynced
  | planBaselined .. => .planBaselined
  | planReviewPass => .planReviewPass
  | planReviewFeedback _ => .planReviewFeedback
  | observeDefined _ => .observeDefined
  | researchDispatched => .researchDispatched
  | researchResult _ => .researchResult
  | researchIngested => .researchIngested
  | researchEvaluated .. => .researchEvaluated
  | detailDesigned => .detailDesigned
  | coderHandoffReady => .coderHandoffReady
  | scheduleDecided .. => .scheduleDecided
  | resourceAvailable => .resourceAvailable
  | dispatchResult .. => .dispatchResult
  | coderResult => .coderResult
  | reviewResult .. => .reviewResult
  | replanApplied _ => .replanApplied
  | requirementChanged _ => .requirementChanged
  | cancel _ => .cancel
  | fatalError _ => .fatalError
  | heartbeat _ => .heartbeat
  | tick => .tick

def fields : Event → List (String × Json)
  | bdProbeResult candidates => [("candidates", .array (candidates.map (·.toJson)))]
  | resumeDecision resume => [("resume", .bool resume)]
  | resumePlanLoaded epicId => [("epic_id", .nullable .string epicId)]
  | userInput text => [("text", .string text)]
  | intakeCompleted confidence conflict epicId =>
    [("confidence", .float confidence), ("conflict", .bool conflict),
     ("epic_id", .nullable .string epicId)]
  | switchResolved confidence epicId =>
    [("confidence", .nullable .float confidence), ("epic_id", .nullable .string epicId)]
  | epicSynced epicId => [("epic_id", .nullable .string epicId)]
  | planBaselined confidence needPlanReview =>
    [("confidence", .float confidence), ("need_plan_review", .bool needPlanReview)]
  | planReviewFeedback blocking => [("blocking", .bool blocking)]
  | observeDefined expected =>
    [("research_expected", .nullable (fun n => .int n.toNat) expected)]
  | researchResult artifact => [("artifact", artifact.toJson)]
  | researchEvaluated decision missing =>
    [("decision", .string decision.name), ("missing", .nullable (fun n => .int n.toNat) missing)]
  | scheduleDecided confidence resourceBusy =>
    [("confidence", .float confidence), ("resource_busy", .bool resourceBusy)]
  | dispatchResult ok error => [("ok", .bool ok), ("error", .nullable .string error)]
  | reviewResult decision claims =>
    [("decision", .string decision.name), ("claims_without_evidence", .int claims.toNat)]
  | replanApplied confidence => [("confidence", .float confidence)]
  | requirementChanged summary => [("summary", .nullable .string summary)]
  | cancel reason => [("reason", .nullable .string reason)]
  | fatalError error => [("error", .string error)]
  | heartbeat agentId => [("agent_id", .string agentId)]
  | boot | planReviewPass | researchDispatched | researchIngested | detailDesigned
  | coderHandoffReady | resourceAvailable | coderResult | tick => []

def toJson (e : Event) : Json :=
  .object (("type", .string e.kind.tag) :: e.fields)

end Event

end ControlPlane
