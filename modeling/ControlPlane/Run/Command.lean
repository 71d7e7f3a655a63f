import ControlPlane.Json.Value

/-!
# Commands

A command asks a collaborator for something; it does not say that anything has
happened. Its payload is a list of members sorted by key.
-/

set_option autoImplicit false

namespace ControlPlane

inductive CommandKind where
  | probeBdResumable
  | askResume
  | loadResumeQueue
  | parseIntake
  | clarifyLowConfidence
  | askSwitchOrMerge
  | bdUpsertEpicAndTasks
  | buildPlanBaseline
  | requestPlanReview
  | applyNonBlockingFeedback
  | defineObservationTargets
  | dispatchResearchAgents
  | waitForResearchResults
  | ingestResearchArtifacts
  | evaluateResearchSufficiency
  | buildDetailDesign
  | prepareCoderHandoff
  | scheduleResources
  | enqueueWaitingTask
  | dispatchCoder
  | awaitCoderOutput
  | runReviewerExecutorMode
  | rejectClaimWithoutEvidence
  | applyReplanPatch
  | finalizeDelivery
  | markCancelled
  | markFailed
  deriving DecidableEq

namespace CommandKind

def all : List CommandKind :=
  [probeBdResumable, askResume, loadResumeQueue, parseIntake, clarifyLowConfidence,
   askSwitchOrMerge, bdUpsertEpicAndTasks, buildPlanBaseline, requestPlanReview,
   applyNonBlockingFeedback, defineObservationTargets, dispatchResearchAgents,
   waitForResearchResults, ingestResearchArtifacts, evaluateResearchSufficiency,
   buildDetailDesign, prepareCoderHandoff, scheduleResources, enqueueWaitingTask,
   dispatchCoder, awaitCoderOutput, runReviewerExecutorMode, rejectClaimWithoutEvidence,
   applyReplanPatch, finalizeDelivery, markCancelled, markFailed]

def name : CommandKind → String
  | probeBdResumable => "probe_bd_resumable"
  | askResume => "ask_resume"
  | loadResumeQueue => "load_resume_queue"
  | parseIntake => "parse_intake"
  | clarifyLowConfidence => "clarify_low_confidence"
  | askSwitchOrMerge => "ask_switch_or_merge"
  | bdUpsertEpicAndTasks => "bd_upsert_epic_and_tasks"
  | buildPlanBaseline => "build_plan_baseline"
  | requestPlanReview => "request_plan_review"
  | applyNonBlockingFeedback => "apply_non_blocking_feedback"
  | defineObservationTargets => "define_observation_targets"
  | dispatchResearchAgents => "dispatch_research_agents"
  | waitForResearchResults => "wait_for_research_results"
  | ingestResearchArtifacts => "ingest_research_artifacts"
  | evaluateResearchSufficiency => "evaluate_research_sufficiency"
  | buildDetailDesign => "build_detail_design"
  | prepareCoderHandoff => "prepare_coder_handoff"
  | scheduleResources => "schedule_resources"
  | enqueueWaitingTask => "enqueue_waiting_task"
  | dispatchCoder => "dispatch_coder"
  | awaitCoderOutput => "await_coder_output"
  | runReviewerExecutorMode => "run_reviewer_executor_mode"
  | rejectClaimWithoutEvidence => "reject_claim_without_evidence"
  | applyReplanPatch => "apply_replan_patch"
  | finalizeDelivery => "finalize_delivery"
  | markCancelled => "mark_cancelled"
  | markFailed => "mark_failed"

end CommandKind

structure Command where
  kind : CommandKind
  payload : Option (List (String × Json)) := none

namespace Command

def carrying (c : Command) (key : String) (value : Json) : Command :=
  { c with payload := some (Json.put key value (c.payload.getD [])) }

def carrying? (c : Command) (key : String) (text : Option String) : Command :=
  match text with
  | none => c
  | some s => c.carrying key (.string s)

@[simp]
theorem carrying_kind (c : Command) (key : String) (value : Json) :
    (c.carrying key value).kind = c.kind := rfl

@[simp]
theorem carrying?_kind (c : Command) (key : String) (text : Option String) :
    (c.carrying? key text).kind = c.kind := by
  cases text <;> rfl

def get? (c : Command) (key : String) : Option Json :=
  c.payload.bind (Json.member? key)

theorem get?_carrying (c : Command) (key : String) (value : Json) (key' : String) :
    (c.carrying key value).get? key' = if key' = key then some value else c.get? key' := by
  rw [get?, carrying, Option.bind_some, Json.member?_put]
  cases payload : c.payload <;> simp [get?, payload, Json.member?]

def toJson (c : Command) : Json :=
  .object (("type", .string c.kind.name) :: Json.optional "payload" .object c.payload)

end Command

end ControlPlane
