import ControlPlane.Resume.Order
import ControlPlane.Run.Event
import ControlPlane.Run.Move

/-!
# Rules

A rule says which move an event makes in a state. Cancelling, a fatal error and a
changed requirement are possible in every live state; each other event has a rule
of its own, for the one or two states that expect it.
-/

set_option autoImplicit false

namespace ControlPlane.Rules

/-- The rules that hold in every live state. A changed requirement is not one of them while
the plan is being patched. -/
def global? (s : Snapshot) : Event → Option Move
  | .cancel reason =>
    some <| .asking .cancelled s.context "cancelled" <|
      (⟨.markCancelled, none⟩ : Command).carrying? "reason" reason
  | .fatalError error =>
    some <| .asking .failed { s.context with lastError := some error } "fatal_error" <|
      (⟨.markFailed, none⟩ : Command).carrying "error" (.string error)
  | .requirementChanged summary =>
    if s.state = .replanPatch then none
    else some <| .replanning s.context "requirement_changed" (·.carrying? "summary" summary)
  | _ => none

def probed (c : Context) (candidates : List ResumeCandidate) : Move :=
  let best := ranked candidates
  let c := { c with resumeCandidates := best, resumeQueue := best }
  if best.isEmpty then .silent .idle c "no_resume_candidates"
  else if c.autoResume then .resumption c "auto_resume"
  else
    .asking .resumeAsk c "resume_candidates_found" <|
      (⟨.askResume, none⟩ : Command).carrying "candidates" (Move.candidateList best)

def intakeContext (c : Context) (confidence : Float) (conflict : Bool)
    (epicId : Option String) : Context :=
  if conflict then { c with confidence, pendingEpicId := epicId }
  else { c with confidence, currentEpicId := epicId <|> c.currentEpicId }

theorem intakeContext_eq (c : Context) (confidence : Float) (conflict : Bool)
    (epicId : Option String) :
    intakeContext c confidence conflict epicId =
      { c with
        confidence
        currentEpicId := if conflict then c.currentEpicId else epicId <|> c.currentEpicId
        pendingEpicId := if conflict then epicId else c.pendingEpicId } := by
  cases conflict <;> rfl

def intakeDone (c : Context) (confidence : Float) (conflict : Bool) (epicId : Option String) :
    Move :=
  let c := intakeContext c confidence conflict epicId
  if c.isLow then .clarification c
  else if conflict then
    .asking .askSwitch c "intake_conflict" <|
      (⟨.askSwitchOrMerge, none⟩ : Command)
        |>.carrying "current_epic_id" (.nullable .string c.currentEpicId)
        |>.carrying "pending_epic_id" (.nullable .string c.pendingEpicId)
  else .epicRecord c "intake_ready"

def adopted (c : Context) (epicId : Option String) : Context :=
  if epicId.isSome then c.settleOn epicId else c

theorem adopted_eq (c : Context) (epicId : Option String) :
    adopted c epicId =
      { c with
        currentEpicId := epicId <|> c.currentEpicId
        pendingEpicId := if epicId.isSome then none else c.pendingEpicId } := by
  cases epicId <;> rfl

def switchContext (c : Context) (confidence : Option Float) (epicId : Option String) : Context :=
  adopted { c with confidence := confidence.getD c.confidence } epicId

def switchDone (c : Context) (confidence : Option Float) (epicId : Option String) : Move :=
  let c := switchContext c confidence epicId
  if c.isLow then .clarification c else .epicRecord c "switch_resolved"

def planned (c : Context) (confidence : Float) (needPlanReview : Bool) : Move :=
  let c := { c with confidence }
  if c.isLow then .clarification c
  else if needPlanReview then
    .asking .planReview c "plan_review_required" ⟨.requestPlanReview, none⟩
  else .observation c "plan_baselined"

def reviewed (c : Context) (blocking : Bool) : Move :=
  if blocking then .planning c "blocking_feedback"
  else
    let rounds := countUp c.reviewerFeedbackCount
    if c.maxReviewerFeedbackCount ≤ rounds then
      .observation { c with reviewerFeedbackCount := 0 } "feedback_bound_reached"
    else
      .asking .planReview { c with reviewerFeedbackCount := rounds } "non_blocking_feedback"
        ⟨.applyNonBlockingFeedback, none⟩

def roundOpened (c : Context) (expected : Option UInt32) : Move :=
  let n := expected.getD 1
  let n := if n = 0 then 1 else n
  .research { c with researchExpected := n, researchReceived := 0, researchArtifacts := [] } n
    "research_round_opened"

@[simp]
theorem roundOpened_snapshot (c : Context) (expected : Option UInt32) :
    (roundOpened c expected).snapshot =
      ⟨.researchFanout,
        { c with
          researchExpected := if expected.getD 1 = 0 then 1 else expected.getD 1
          researchReceived := 0
          researchArtifacts := [] }⟩ := rfl

@[simp]
theorem roundOpened_kinds (c : Context) (expected : Option UInt32) :
    (roundOpened c expected).kinds = [.dispatchResearchAgents] := rfl

def resultReceived (c : Context) (artifact : ResearchArtifact) : Move :=
  let c :=
    { c with
      researchArtifacts := c.researchArtifacts ++ [artifact]
      researchReceived := countUp c.researchReceived }
  .asking .researchIngest c "research_result_received" <|
    (⟨.ingestResearchArtifacts, none⟩ : Command)
      |>.carrying "received" (.int c.researchReceived.toNat)
      |>.carrying "expected" (.int c.researchExpected.toNat)
      |>.carrying "artifact" artifact.toJson.sorted

@[simp]
theorem resultReceived_snapshot (c : Context) (artifact : ResearchArtifact) :
    (resultReceived c artifact).snapshot =
      ⟨.researchIngest,
        { c with
          researchArtifacts := c.researchArtifacts ++ [artifact]
          researchReceived := countUp c.researchReceived }⟩ := rfl

@[simp]
theorem resultReceived_kinds (c : Context) (artifact : ResearchArtifact) :
    (resultReceived c artifact).kinds = [.ingestResearchArtifacts] := rfl

def evaluated (c : Context) (decision : ResearchDecision) (missing : Option UInt32) : Move :=
  match decision with
  | .needReplan => .planning c "research_needs_replan"
  | .enoughInfo => .asking .detailDesign c "research_sufficient" ⟨.buildDetailDesign, none⟩
  | .needMoreResults =>
    let slots := missing.getD c.outstanding
    if slots = 0 then
      .asking .waitOthers c "research_pending" ⟨.waitForResearchResults, none⟩
    else .research c slots "research_refanout"

def scheduled (c : Context) (confidence : Float) (busy : Bool) : Move :=
  let c := { c with confidence }
  if c.isLow then .clarification c
  else if busy then .asking .queue c "resource_busy" ⟨.enqueueWaitingTask, none⟩
  else .asking .dispatch c "scheduled" ⟨.dispatchCoder, none⟩

def dispatched (c : Context) (ok : Bool) (error : Option String) : Move :=
  if ok then .asking .coderExec c "dispatched" ⟨.awaitCoderOutput, none⟩
  else .replanning c "dispatch_failed" (·.carrying? "error" error)

def accepted (c : Context) (decision : ReviewDecision) (claims : UInt32) : Move :=
  if claims ≠ 0 then
    .asking .coderHandoff c "claims_without_evidence" <|
      (⟨.rejectClaimWithoutEvidence, none⟩ : Command)
        |>.carrying "claims_without_evidence" (.int claims.toNat)
  else
    match decision with
    | .retry => .asking .coderHandoff c "review_retry" ⟨.prepareCoderHandoff, none⟩
    | .replan => .replanning c "review_replan" id
    | .pass => .asking .complete c "review_passed" ⟨.finalizeDelivery, none⟩

def patched (c : Context) (confidence : Float) : Move :=
  let c := { c with confidence }
  if c.isLow then .clarification c else .planning c "replan_applied"

def local? (s : Snapshot) (e : Event) : Option Move :=
  let c := s.context
  let only (wanted : State) (move : Move) : Option Move :=
    if s.state = wanted then some move else none
  match e with
  | .boot => only .boot (.asking .idleProbeBd c "boot" ⟨.probeBdResumable, none⟩)
  | .bdProbeResult candidates => only .idleProbeBd (probed c candidates)
  | .resumeDecision resume =>
    only .resumeAsk <|
      if resume then .resumption c "resume_accepted"
      else .silent .idle { c with resumeQueue := [] } "resume_declined"
  | .resumePlanLoaded epicId =>
    only .resumePlan <|
      .observation (c.settleOn (epicId <|> c.resumeQueue.head?.map (·.epicId)))
        "resume_plan_loaded"
  | .userInput text =>
    only .idle <|
      .asking .intake c "user_input" <|
        (⟨.parseIntake, none⟩ : Command).carrying "text" (.string text)
  | .intakeCompleted confidence conflict epicId =>
    only .intake (intakeDone c confidence conflict epicId)
  | .switchResolved confidence epicId => only .askSwitch (switchDone c confidence epicId)
  | .epicSynced epicId => only .epicSync (.planning (adopted c epicId) "epic_synced")
  | .planBaselined confidence needPlanReview =>
    only .planBaseline (planned c confidence needPlanReview)
  | .planReviewPass =>
    only .planReview (.observation { c with reviewerFeedbackCount := 0 } "plan_review_passed")
  | .planReviewFeedback blocking => only .planReview (reviewed c blocking)
  | .observeDefined expected => only .observe (roundOpened c expected)
  | .researchDispatched =>
    only .researchFanout
      (.asking .waitOthers c "research_dispatched" ⟨.waitForResearchResults, none⟩)
  | .researchResult artifact =>
    if s.state = .researchFanout ∨ s.state = .waitOthers then some (resultReceived c artifact)
    else none
  | .researchIngested =>
    only .researchIngest
      (.asking .researchEval c "research_ingested" ⟨.evaluateResearchSufficiency, none⟩)
  | .researchEvaluated decision missing => only .researchEval (evaluated c decision missing)
  | .detailDesigned =>
    only .detailDesign (.asking .coderHandoff c "detail_designed" ⟨.prepareCoderHandoff, none⟩)
  | .coderHandoffReady =>
    only .coderHandoff (.asking .schedule c "coder_handoff_ready" ⟨.scheduleResources, none⟩)
  | .scheduleDecided confidence busy => only .schedule (scheduled c confidence busy)
  | .resourceAvailable =>
    only .queue (.asking .dispatch c "resource_available" ⟨.dispatchCoder, none⟩)
  | .dispatchResult ok error => only .dispatch (dispatched c ok error)
  | .coderResult =>
    only .coderExec (.asking .reviewAccept c "coder_result" ⟨.runReviewerExecutorMode, none⟩)
  | .reviewResult decision claims => only .reviewAccept (accepted c decision claims)
  | .replanApplied confidence => only .replanPatch (patched c confidence)
  | .requirementChanged _ | .cancel _ | .fatalError _ | .heartbeat _ | .tick => none

end ControlPlane.Rules
