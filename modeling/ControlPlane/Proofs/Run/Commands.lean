import ControlPlane.Proofs.Run.Turn

/-!
# The commands of a turn

What a command asks for belongs to the state that the turn leads to.
-/

set_option autoImplicit false

namespace ControlPlane

variable {s : Snapshot} {e : Event} {m : Move}

def State.asks : State → List CommandKind
  | boot | idle => []
  | idleProbeBd => [.probeBdResumable]
  | resumeAsk => [.askResume]
  | resumePlan => [.loadResumeQueue]
  | intake => [.parseIntake]
  | askSwitch => [.clarifyLowConfidence, .askSwitchOrMerge]
  | epicSync => [.bdUpsertEpicAndTasks]
  | planBaseline => [.buildPlanBaseline]
  | planReview => [.requestPlanReview, .applyNonBlockingFeedback]
  | observe => [.defineObservationTargets]
  | researchFanout => [.dispatchResearchAgents]
  | waitOthers => [.waitForResearchResults]
  | researchIngest => [.ingestResearchArtifacts]
  | researchEval => [.evaluateResearchSufficiency]
  | detailDesign => [.buildDetailDesign]
  | coderHandoff => [.prepareCoderHandoff, .rejectClaimWithoutEvidence]
  | schedule => [.scheduleResources]
  | queue => [.enqueueWaitingTask]
  | dispatch => [.dispatchCoder]
  | coderExec => [.awaitCoderOutput]
  | reviewAccept => [.runReviewerExecutorMode]
  | replanPatch => [.applyReplanPatch]
  | complete => [.finalizeDelivery]
  | cancelled => [.markCancelled]
  | failed => [.markFailed]

theorem turn_kinds (h : Turn s e m) : ∀ k ∈ m.kinds, k ∈ m.snapshot.state.asks := by
  cases h <;> simp [State.asks, Move.replanning_kinds]

theorem turn_asks (h : Turn s e m) {k : Command} (hk : k ∈ m.commands) :
    k.kind ∈ m.snapshot.state.asks :=
  turn_kinds h k.kind (List.mem_map_of_mem hk)

/-- A turn asks for one thing, or for nothing if the run idles after it. -/
theorem turn_asks_one (h : Turn s e m) :
    m.kinds.length = if m.snapshot.state = .idle then 0 else 1 := by
  cases h <;> simp [Move.replanning_kinds]

theorem turn_single (h : Turn s e m) : m.kinds.length ≤ 1 := by
  rw [turn_asks_one h]
  split <;> decide

end ControlPlane
