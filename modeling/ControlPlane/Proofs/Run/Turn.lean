import ControlPlane.Run.Transition

/-!
# Turns

A turn is a rule at work: what an accepted event makes of a live snapshot. The
relation lists every turn with its condition, one after the other in the order of a
run's life. `turn_iff` says that these are the moves of the rules in a live state and
no others, and `transition_cases` that an event without a turn is absorbed.
-/

set_option autoImplicit false

namespace ControlPlane

open Rules

inductive Turn : Snapshot → Event → Move → Prop
  | cancel {s : Snapshot} (live : s.state.isTerminal = false) (reason : Option String) :
      Turn s (.cancel reason) <|
        .asking .cancelled s.context "cancelled"
          ((⟨.markCancelled, none⟩ : Command).carrying? "reason" reason)
  | fatalError {s : Snapshot} (live : s.state.isTerminal = false) (error : String) :
      Turn s (.fatalError error) <|
        .asking .failed { s.context with lastError := some error } "fatal_error"
          ((⟨.markFailed, none⟩ : Command).carrying "error" (.string error))
  | requirementChanged {s : Snapshot} (live : s.state.isTerminal = false)
      (elsewhere : s.state ≠ .replanPatch) (summary : Option String) :
      Turn s (.requirementChanged summary)
        (.replanning s.context "requirement_changed" (·.carrying? "summary" summary))
  | boot (c : Context) :
      Turn ⟨.boot, c⟩ .boot (.asking .idleProbeBd c "boot" ⟨.probeBdResumable, none⟩)
  | nothingProbed (c : Context) (cs : List ResumeCandidate) (empty : ranked cs = []) :
      Turn ⟨.idleProbeBd, c⟩ (.bdProbeResult cs)
        (.silent .idle { c with resumeCandidates := [], resumeQueue := [] }
          "no_resume_candidates")
  | autoResumed (c : Context) (cs : List ResumeCandidate) (filled : ranked cs ≠ [])
      (auto : c.autoResume = true) :
      Turn ⟨.idleProbeBd, c⟩ (.bdProbeResult cs)
        (.resumption { c with resumeCandidates := ranked cs, resumeQueue := ranked cs }
          "auto_resume")
  | resumeOffered (c : Context) (cs : List ResumeCandidate) (filled : ranked cs ≠ [])
      (manual : c.autoResume = false) :
      Turn ⟨.idleProbeBd, c⟩ (.bdProbeResult cs) <|
        .asking .resumeAsk { c with resumeCandidates := ranked cs, resumeQueue := ranked cs }
          "resume_candidates_found"
          ((⟨.askResume, none⟩ : Command).carrying "candidates" (Move.candidateList (ranked cs)))
  | resumeAccepted (c : Context) :
      Turn ⟨.resumeAsk, c⟩ (.resumeDecision true) (.resumption c "resume_accepted")
  | resumeDeclined (c : Context) :
      Turn ⟨.resumeAsk, c⟩ (.resumeDecision false)
        (.silent .idle { c with resumeQueue := [] } "resume_declined")
  | resumePlanLoaded (c : Context) (epicId : Option String) :
      Turn ⟨.resumePlan, c⟩ (.resumePlanLoaded epicId)
        (.observation (c.settleOn (epicId <|> c.resumeQueue.head?.map (·.epicId)))
          "resume_plan_loaded")
  | userInput (c : Context) (text : String) :
      Turn ⟨.idle, c⟩ (.userInput text) <|
        .asking .intake c "user_input"
          ((⟨.parseIntake, none⟩ : Command).carrying "text" (.string text))
  | intakeUnclear (c : Context) (confidence : Float) (conflict : Bool)
      (epicId : Option String)
      (low : (intakeContext c confidence conflict epicId).isLow = true) :
      Turn ⟨.intake, c⟩ (.intakeCompleted confidence conflict epicId)
        (.clarification (intakeContext c confidence conflict epicId))
  | intakeConflict (c : Context) (confidence : Float) (epicId : Option String)
      (clear : (intakeContext c confidence true epicId).isLow = false) :
      Turn ⟨.intake, c⟩ (.intakeCompleted confidence true epicId) <|
        .asking .askSwitch (intakeContext c confidence true epicId) "intake_conflict"
          ((⟨.askSwitchOrMerge, none⟩ : Command)
            |>.carrying "current_epic_id"
              (.nullable .string (intakeContext c confidence true epicId).currentEpicId)
            |>.carrying "pending_epic_id"
              (.nullable .string (intakeContext c confidence true epicId).pendingEpicId))
  | intakeReady (c : Context) (confidence : Float) (epicId : Option String)
      (clear : (intakeContext c confidence false epicId).isLow = false) :
      Turn ⟨.intake, c⟩ (.intakeCompleted confidence false epicId)
        (.epicRecord (intakeContext c confidence false epicId) "intake_ready")
  | switchUnclear (c : Context) (confidence : Option Float) (epicId : Option String)
      (low : (switchContext c confidence epicId).isLow = true) :
      Turn ⟨.askSwitch, c⟩ (.switchResolved confidence epicId)
        (.clarification (switchContext c confidence epicId))
  | switchResolved (c : Context) (confidence : Option Float) (epicId : Option String)
      (clear : (switchContext c confidence epicId).isLow = false) :
      Turn ⟨.askSwitch, c⟩ (.switchResolved confidence epicId)
        (.epicRecord (switchContext c confidence epicId) "switch_resolved")
  | epicSynced (c : Context) (epicId : Option String) :
      Turn ⟨.epicSync, c⟩ (.epicSynced epicId) (.planning (adopted c epicId) "epic_synced")
  | planUnclear (c : Context) (confidence : Float) (needPlanReview : Bool)
      (low : Context.isLow { c with confidence } = true) :
      Turn ⟨.planBaseline, c⟩ (.planBaselined confidence needPlanReview)
        (.clarification { c with confidence })
  | reviewRequired (c : Context) (confidence : Float)
      (clear : Context.isLow { c with confidence } = false) :
      Turn ⟨.planBaseline, c⟩ (.planBaselined confidence true)
        (.asking .planReview { c with confidence } "plan_review_required"
          ⟨.requestPlanReview, none⟩)
  | planBaselined (c : Context) (confidence : Float)
      (clear : Context.isLow { c with confidence } = false) :
      Turn ⟨.planBaseline, c⟩ (.planBaselined confidence false)
        (.observation { c with confidence } "plan_baselined")
  | reviewPassed (c : Context) :
      Turn ⟨.planReview, c⟩ .planReviewPass
        (.observation { c with reviewerFeedbackCount := 0 } "plan_review_passed")
  | blockingFeedback (c : Context) :
      Turn ⟨.planReview, c⟩ (.planReviewFeedback true) (.planning c "blocking_feedback")
  | lastFeedback (c : Context)
      (last : c.maxReviewerFeedbackCount ≤ countUp c.reviewerFeedbackCount) :
      Turn ⟨.planReview, c⟩ (.planReviewFeedback false)
        (.observation { c with reviewerFeedbackCount := 0 } "feedback_bound_reached")
  | countedFeedback (c : Context)
      (more : countUp c.reviewerFeedbackCount < c.maxReviewerFeedbackCount) :
      Turn ⟨.planReview, c⟩ (.planReviewFeedback false)
        (.asking .planReview
          { c with reviewerFeedbackCount := countUp c.reviewerFeedbackCount }
          "non_blocking_feedback" ⟨.applyNonBlockingFeedback, none⟩)
  | roundOpened (c : Context) (expected : Option UInt32) :
      Turn ⟨.observe, c⟩ (.observeDefined expected) (roundOpened c expected)
  | researchDispatched (c : Context) :
      Turn ⟨.researchFanout, c⟩ .researchDispatched
        (.asking .waitOthers c "research_dispatched" ⟨.waitForResearchResults, none⟩)
  | resultReceived {st : State} (open_ : st = .researchFanout ∨ st = .waitOthers) (c : Context)
      (artifact : ResearchArtifact) :
      Turn ⟨st, c⟩ (.researchResult artifact) (resultReceived c artifact)
  | researchIngested (c : Context) :
      Turn ⟨.researchIngest, c⟩ .researchIngested
        (.asking .researchEval c "research_ingested" ⟨.evaluateResearchSufficiency, none⟩)
  | needReplan (c : Context) (missing : Option UInt32) :
      Turn ⟨.researchEval, c⟩ (.researchEvaluated .needReplan missing)
        (.planning c "research_needs_replan")
  | enoughInfo (c : Context) (missing : Option UInt32) :
      Turn ⟨.researchEval, c⟩ (.researchEvaluated .enoughInfo missing)
        (.asking .detailDesign c "research_sufficient" ⟨.buildDetailDesign, none⟩)
  | resultsPending (c : Context) (missing : Option UInt32)
      (allIn : missing.getD c.outstanding = 0) :
      Turn ⟨.researchEval, c⟩ (.researchEvaluated .needMoreResults missing)
        (.asking .waitOthers c "research_pending" ⟨.waitForResearchResults, none⟩)
  | refanned (c : Context) (missing : Option UInt32)
      (lacking : missing.getD c.outstanding ≠ 0) :
      Turn ⟨.researchEval, c⟩ (.researchEvaluated .needMoreResults missing)
        (.research c (missing.getD c.outstanding) "research_refanout")
  | detailDesigned (c : Context) :
      Turn ⟨.detailDesign, c⟩ .detailDesigned
        (.asking .coderHandoff c "detail_designed" ⟨.prepareCoderHandoff, none⟩)
  | handoffReady (c : Context) :
      Turn ⟨.coderHandoff, c⟩ .coderHandoffReady
        (.asking .schedule c "coder_handoff_ready" ⟨.scheduleResources, none⟩)
  | scheduleUnclear (c : Context) (confidence : Float) (busy : Bool)
      (low : Context.isLow { c with confidence } = true) :
      Turn ⟨.schedule, c⟩ (.scheduleDecided confidence busy)
        (.clarification { c with confidence })
  | resourceBusy (c : Context) (confidence : Float)
      (clear : Context.isLow { c with confidence } = false) :
      Turn ⟨.schedule, c⟩ (.scheduleDecided confidence true)
        (.asking .queue { c with confidence } "resource_busy" ⟨.enqueueWaitingTask, none⟩)
  | scheduled (c : Context) (confidence : Float)
      (clear : Context.isLow { c with confidence } = false) :
      Turn ⟨.schedule, c⟩ (.scheduleDecided confidence false)
        (.asking .dispatch { c with confidence } "scheduled" ⟨.dispatchCoder, none⟩)
  | resourceAvailable (c : Context) :
      Turn ⟨.queue, c⟩ .resourceAvailable
        (.asking .dispatch c "resource_available" ⟨.dispatchCoder, none⟩)
  | dispatchFailed (c : Context) (error : Option String) :
      Turn ⟨.dispatch, c⟩ (.dispatchResult false error)
        (.replanning c "dispatch_failed" (·.carrying? "error" error))
  | dispatched (c : Context) (error : Option String) :
      Turn ⟨.dispatch, c⟩ (.dispatchResult true error)
        (.asking .coderExec c "dispatched" ⟨.awaitCoderOutput, none⟩)
  | coderResult (c : Context) :
      Turn ⟨.coderExec, c⟩ .coderResult
        (.asking .reviewAccept c "coder_result" ⟨.runReviewerExecutorMode, none⟩)
  | evidenceMissing (c : Context) (decision : ReviewDecision) (claims : UInt32)
      (unproven : claims ≠ 0) :
      Turn ⟨.reviewAccept, c⟩ (.reviewResult decision claims) <|
        .asking .coderHandoff c "claims_without_evidence"
          ((⟨.rejectClaimWithoutEvidence, none⟩ : Command).carrying "claims_without_evidence"
            (.int claims.toNat))
  | reviewRetry (c : Context) :
      Turn ⟨.reviewAccept, c⟩ (.reviewResult .retry 0)
        (.asking .coderHandoff c "review_retry" ⟨.prepareCoderHandoff, none⟩)
  | reviewReplan (c : Context) :
      Turn ⟨.reviewAccept, c⟩ (.reviewResult .replan 0) (.replanning c "review_replan" id)
  | deliveryPassed (c : Context) :
      Turn ⟨.reviewAccept, c⟩ (.reviewResult .pass 0)
        (.asking .complete c "review_passed" ⟨.finalizeDelivery, none⟩)
  | patchUnclear (c : Context) (confidence : Float)
      (low : Context.isLow { c with confidence } = true) :
      Turn ⟨.replanPatch, c⟩ (.replanApplied confidence) (.clarification { c with confidence })
  | patched (c : Context) (confidence : Float)
      (clear : Context.isLow { c with confidence } = false) :
      Turn ⟨.replanPatch, c⟩ (.replanApplied confidence)
        (.planning { c with confidence } "replan_applied")

namespace Turn

theorem probed (c : Context) (cs : List ResumeCandidate) :
    Turn ⟨.idleProbeBd, c⟩ (.bdProbeResult cs) (probed c cs) := by
  by_cases empty : ranked cs = []
  · simpa [Rules.probed, empty] using nothingProbed c cs empty
  · cases auto : c.autoResume
    · simpa [Rules.probed, empty, auto] using resumeOffered c cs empty auto
    · simpa [Rules.probed, empty, auto] using autoResumed c cs empty auto

theorem intakeDone (c : Context) (confidence : Float) (conflict : Bool)
    (epicId : Option String) :
    Turn ⟨.intake, c⟩ (.intakeCompleted confidence conflict epicId)
      (intakeDone c confidence conflict epicId) := by
  cases low : (intakeContext c confidence conflict epicId).isLow
  · cases conflict
    · simpa [Rules.intakeDone, low] using intakeReady c confidence epicId low
    · simpa [Rules.intakeDone, low] using intakeConflict c confidence epicId low
  · simpa [Rules.intakeDone, low] using intakeUnclear c confidence conflict epicId low

theorem switchDone (c : Context) (confidence : Option Float) (epicId : Option String) :
    Turn ⟨.askSwitch, c⟩ (.switchResolved confidence epicId)
      (switchDone c confidence epicId) := by
  cases low : (switchContext c confidence epicId).isLow
  · simpa [Rules.switchDone, low] using switchResolved c confidence epicId low
  · simpa [Rules.switchDone, low] using switchUnclear c confidence epicId low

theorem planned (c : Context) (confidence : Float) (needPlanReview : Bool) :
    Turn ⟨.planBaseline, c⟩ (.planBaselined confidence needPlanReview)
      (planned c confidence needPlanReview) := by
  cases low : Context.isLow { c with confidence }
  · cases needPlanReview
    · simpa [Rules.planned, low] using planBaselined c confidence low
    · simpa [Rules.planned, low] using reviewRequired c confidence low
  · simpa [Rules.planned, low] using planUnclear c confidence needPlanReview low

theorem reviewed (c : Context) (blocking : Bool) :
    Turn ⟨.planReview, c⟩ (.planReviewFeedback blocking) (reviewed c blocking) := by
  cases blocking
  · by_cases last : c.maxReviewerFeedbackCount ≤ countUp c.reviewerFeedbackCount
    · simpa [Rules.reviewed, last] using lastFeedback c last
    · simpa [Rules.reviewed, last] using countedFeedback c (UInt32.not_le.mp last)
  · exact blockingFeedback c

theorem evaluated (c : Context) (decision : ResearchDecision) (missing : Option UInt32) :
    Turn ⟨.researchEval, c⟩ (.researchEvaluated decision missing)
      (evaluated c decision missing) := by
  cases decision with
  | enoughInfo => exact enoughInfo c missing
  | needReplan => exact needReplan c missing
  | needMoreResults =>
    by_cases allIn : missing.getD c.outstanding = 0
    · simpa [Rules.evaluated, allIn] using resultsPending c missing allIn
    · simpa [Rules.evaluated, allIn] using refanned c missing allIn

theorem decided (c : Context) (confidence : Float) (busy : Bool) :
    Turn ⟨.schedule, c⟩ (.scheduleDecided confidence busy)
      (Rules.scheduled c confidence busy) := by
  cases low : Context.isLow { c with confidence }
  · cases busy
    · simpa [Rules.scheduled, low] using scheduled c confidence low
    · simpa [Rules.scheduled, low] using resourceBusy c confidence low
  · simpa [Rules.scheduled, low] using scheduleUnclear c confidence busy low

theorem accepted (c : Context) (decision : ReviewDecision) (claims : UInt32) :
    Turn ⟨.reviewAccept, c⟩ (.reviewResult decision claims)
      (accepted c decision claims) := by
  by_cases proven : claims = 0
  · subst proven
    cases decision
    · exact deliveryPassed c
    · exact reviewRetry c
    · exact reviewReplan c
  · simpa [Rules.accepted, proven] using evidenceMissing c decision claims proven

theorem patchDone (c : Context) (confidence : Float) :
    Turn ⟨.replanPatch, c⟩ (.replanApplied confidence) (Rules.patched c confidence) := by
  cases low : Context.isLow { c with confidence }
  · simpa [Rules.patched, low] using patched c confidence low
  · simpa [Rules.patched, low] using patchUnclear c confidence low

end Turn

theorem only_eq_some {st wanted : State} {move m : Move}
    (h : (if st = wanted then some move else none) = some m) : st = wanted ∧ move = m := by
  simpa using h

theorem turn_of_local {s : Snapshot} {e : Event} {m : Move} (h : local? s e = some m) :
    Turn s e m := by
  obtain ⟨st, c⟩ := s
  cases e with
  | bdProbeResult cs =>
    obtain ⟨rfl, rfl⟩ := only_eq_some h
    exact .probed c cs
  | resumeDecision resume =>
    obtain ⟨rfl, rfl⟩ := only_eq_some h
    cases resume
    · exact .resumeDeclined c
    · exact .resumeAccepted c
  | intakeCompleted confidence conflict epicId =>
    obtain ⟨rfl, rfl⟩ := only_eq_some h
    exact .intakeDone c confidence conflict epicId
  | switchResolved confidence epicId =>
    obtain ⟨rfl, rfl⟩ := only_eq_some h
    exact .switchDone c confidence epicId
  | planBaselined confidence needPlanReview =>
    obtain ⟨rfl, rfl⟩ := only_eq_some h
    exact .planned c confidence needPlanReview
  | planReviewFeedback blocking =>
    obtain ⟨rfl, rfl⟩ := only_eq_some h
    exact .reviewed c blocking
  | researchResult artifact =>
    obtain ⟨open_, rfl⟩ : (st = .researchFanout ∨ st = .waitOthers) ∧ _ = m := by
      simpa [local?] using h
    exact .resultReceived open_ c artifact
  | researchEvaluated decision missing =>
    obtain ⟨rfl, rfl⟩ := only_eq_some h
    exact .evaluated c decision missing
  | scheduleDecided confidence busy =>
    obtain ⟨rfl, rfl⟩ := only_eq_some h
    exact .decided c confidence busy
  | dispatchResult ok error =>
    obtain ⟨rfl, rfl⟩ := only_eq_some h
    cases ok
    · exact .dispatchFailed c error
    · exact .dispatched c error
  | reviewResult decision claims =>
    obtain ⟨rfl, rfl⟩ := only_eq_some h
    exact .accepted c decision claims
  | replanApplied confidence =>
    obtain ⟨rfl, rfl⟩ := only_eq_some h
    exact .patchDone c confidence
  | requirementChanged | cancel | fatalError | heartbeat | tick => simp [local?] at h
  | _ =>
    obtain ⟨rfl, rfl⟩ := only_eq_some h
    constructor

theorem turn_of_global {s : Snapshot} {e : Event} {m : Move} (live : s.state.isTerminal = false)
    (h : global? s e = some m) : Turn s e m := by
  cases e with
  | cancel reason =>
    obtain rfl := Option.some.inj h
    exact .cancel live reason
  | fatalError error =>
    obtain rfl := Option.some.inj h
    exact .fatalError live error
  | requirementChanged summary =>
    obtain ⟨elsewhere, rfl⟩ : s.state ≠ .replanPatch ∧ _ = m := by simpa [global?] using h
    exact .requirementChanged live elsewhere summary
  | _ => simp [global?] at h

/-- Every turn is a move of the rules. -/
theorem rule_of_turn {s : Snapshot} {e : Event} {m : Move} (h : Turn s e m) :
    rule? s e = some m := by
  cases h with
  | countedFeedback c more =>
    simp [rule?, global?, local?, reviewed, UInt32.not_le.mpr more]
  | _ =>
    simp [*, rule?, global?, local?, probed, intakeDone, switchDone, planned, reviewed,
      evaluated, Rules.scheduled, dispatched, accepted, Rules.patched]

theorem turn_live {s : Snapshot} {e : Event} {m : Move} (h : Turn s e m) :
    s.state.isTerminal = false := by
  cases h with
  | cancel live | fatalError live | requirementChanged live => exact live
  | resultReceived open_ => rcases open_ with rfl | rfl <;> rfl
  | _ => rfl

/-- The turns are the moves of the rules in a live state, no more and no fewer. -/
theorem turn_iff {s : Snapshot} {e : Event} {m : Move} :
    Turn s e m ↔ s.state.isTerminal = false ∧ rule? s e = some m := by
  constructor
  · intro h
    exact ⟨turn_live h, rule_of_turn h⟩
  · rintro ⟨live, h⟩
    have h' : (global? s e).or (local? s e) = some m := by simpa [rule?] using h
    rcases Option.or_eq_some_iff.mp h' with h | ⟨-, h⟩
    · exact turn_of_global live h
    · exact turn_of_local h

/-- An event makes a turn or is absorbed. -/
theorem transition_cases (s : Snapshot) (e : Event) :
    (∃ m, Turn s e m ∧ transition s e = taken s m) ∨
      (∀ m, ¬ Turn s e m) ∧ ∃ reason, transition s e = absorbed s reason := by
  cases live : s.state.isTerminal with
  | true =>
    right
    exact ⟨fun m h => by simp [turn_live h] at live, "terminal_state_ignored",
      by simp [transition, live]⟩
  | false =>
    cases h : rule? s e with
    | some m => exact .inl ⟨m, turn_iff.mpr ⟨live, h⟩, by simp [transition, live, h]⟩
    | none =>
      right
      exact ⟨fun m t => by simp [rule_of_turn t] at h, _, by simp [transition, live, h]; rfl⟩

end ControlPlane
