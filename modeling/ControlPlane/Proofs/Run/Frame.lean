import ControlPlane.Proofs.Run.Feedback

/-!
# What an event writes

Each event writes to fields of its own and leaves the others as they were. For the count of
feedback the states decide what is written: it is cleared where a plan is begun anew and where
a review leads on to the observation, and a review that goes on counts one more.
-/

set_option autoImplicit false

namespace ControlPlane

variable {s : Snapshot} {e : Event} {m : Move}

namespace Context

inductive Field where
  | autoResume
  | confidence
  | currentEpicId
  | pendingEpicId
  | resumeCandidates
  | resumeQueue
  | reviewerFeedbackCount
  | maxReviewerFeedbackCount
  | researchExpected
  | researchReceived
  | researchArtifacts
  | lastError
  deriving DecidableEq

abbrev Field.Value : Field → Type
  | autoResume => Bool
  | confidence => Float
  | currentEpicId | pendingEpicId | lastError => Option String
  | resumeCandidates | resumeQueue => List ResumeCandidate
  | reviewerFeedbackCount | maxReviewerFeedbackCount | researchExpected | researchReceived => UInt32
  | researchArtifacts => List ResearchArtifact

def read (c : Context) : (f : Field) → f.Value
  | .autoResume => c.autoResume
  | .confidence => c.confidence
  | .currentEpicId => c.currentEpicId
  | .pendingEpicId => c.pendingEpicId
  | .resumeCandidates => c.resumeCandidates
  | .resumeQueue => c.resumeQueue
  | .reviewerFeedbackCount => c.reviewerFeedbackCount
  | .maxReviewerFeedbackCount => c.maxReviewerFeedbackCount
  | .researchExpected => c.researchExpected
  | .researchReceived => c.researchReceived
  | .researchArtifacts => c.researchArtifacts
  | .lastError => c.lastError

/-- There is nothing in a context besides its fields. -/
theorem eq_of_read {c d : Context} (same : ∀ f, c.read f = d.read f) : c = d := by
  obtain ⟨⟩ := c
  obtain ⟨⟩ := d
  rw [mk.injEq]
  exact ⟨same .autoResume, same .confidence, same .currentEpicId, same .pendingEpicId,
    same .resumeCandidates, same .resumeQueue, same .reviewerFeedbackCount,
    same .maxReviewerFeedbackCount, same .researchExpected, same .researchReceived,
    same .researchArtifacts, same .lastError⟩

end Context

def Event.writes : Event → List Context.Field
  | bdProbeResult _ => [.resumeCandidates, .resumeQueue]
  | resumeDecision false => [.resumeQueue]
  | resumePlanLoaded _ => [.currentEpicId, .pendingEpicId]
  | intakeCompleted .. | switchResolved .. => [.confidence, .currentEpicId, .pendingEpicId]
  | epicSynced _ => [.currentEpicId, .pendingEpicId, .reviewerFeedbackCount]
  | planBaselined .. | scheduleDecided .. => [.confidence]
  | planReviewPass | planReviewFeedback _ | researchEvaluated .. => [.reviewerFeedbackCount]
  | observeDefined _ => [.researchExpected, .researchReceived, .researchArtifacts]
  | researchResult _ => [.researchReceived, .researchArtifacts]
  | replanApplied _ => [.confidence, .reviewerFeedbackCount]
  | fatalError _ => [.lastError]
  | boot | resumeDecision true | userInput _ | researchDispatched | researchIngested
  | detailDesigned | coderHandoffReady | resourceAvailable | dispatchResult .. | coderResult
  | reviewResult .. | requirementChanged _ | cancel _ | heartbeat _ | tick => []

theorem writes_nothing (h : e.kind = .cancel ∨ e.kind = .requirementChanged) : e.writes = [] := by
  cases e with
  | cancel | requirementChanged => rfl
  | _ => simp [Event.kind] at h

theorem turn_writes (h : Turn s e m) {f : Context.Field} (other : f ∉ e.writes) :
    m.snapshot.context.read f = s.context.read f := by
  cases h with
  -- these hand the context on as it is
  | cancel | requirementChanged | boot | resumeAccepted | userInput | researchDispatched
  | researchIngested | enoughInfo | resultsPending | refanned | detailDesigned | handoffReady
  | resourceAvailable | dispatched | dispatchFailed | coderResult | evidenceMissing | reviewRetry
  | reviewReplan | deliveryPassed => rfl
  | _ =>
    cases f <;>
      simp_all [Event.writes, Context.read, Rules.intakeContext_eq, Rules.switchContext,
        Rules.adopted_eq, Context.settleOn]

theorem next_writes (s : Snapshot) (e : Event) {f : Context.Field} (other : f ∉ e.writes) :
    (s.next e).context.read f = s.context.read f := by
  rcases next_cases s e with ⟨m, h, next⟩ | ⟨-, same⟩
  · rw [next]
    exact turn_writes h other
  · rw [same]

/-- Only a new round forgets artifacts. -/
theorem turn_artifacts (h : Turn s e m) (other : e.kind ≠ .observeDefined) :
    s.context.researchArtifacts <+: m.snapshot.context.researchArtifacts := by
  by_cases written : Context.Field.researchArtifacts ∈ e.writes
  · cases h with
    | roundOpened => exact absurd rfl other
    | resultReceived _ c artifact => exact List.prefix_append _ _
    | _ => simp [Event.writes] at written
  · have same : m.snapshot.context.researchArtifacts = s.context.researchArtifacts :=
      turn_writes h written
    exact ⟨[], by rw [List.append_nil, same]⟩

theorem next_artifacts (s : Snapshot) (other : e.kind ≠ .observeDefined) :
    s.context.researchArtifacts <+: (s.next e).context.researchArtifacts := by
  rcases next_cases s e with ⟨m, h, next⟩ | ⟨-, same⟩
  · rw [next]
    exact turn_artifacts h other
  · exact ⟨[], by rw [List.append_nil, same]⟩

def feedbackAfter (source target : State) (count : Nat) : Nat :=
  if target = .planBaseline ∨ source = .planReview ∧ target = .observe then 0
  else if source = .planReview ∧ target = .planReview then count + 1
  else count

theorem turn_counts (h : Turn s e m) :
    m.snapshot.context.reviewerFeedbackCount.toNat =
      feedbackAfter s.state m.snapshot.state s.context.reviewerFeedbackCount.toNat := by
  cases h with
  | countedFeedback c more => exact countUp_of_lt more
  | _ =>
    simp [feedbackAfter, Rules.intakeContext_eq, Rules.switchContext, Rules.adopted_eq,
      Context.settleOn]

/-- An event changes no field but those that it writes to, and it changes nothing at all if it
is absorbed, cancels the run or tells of a changed requirement. Artifacts are kept, with more
behind them, unless a round is opened. The count of feedback becomes what the states from and
to which an accepted event leads make of it. -/
theorem context_written (s : Snapshot) (e : Event) :
    let r := transition s e
    (∀ f, r.context.read f ≠ s.context.read f → f ∈ e.writes) ∧
      (r.changed = false ∨ e.kind = .cancel ∨ e.kind = .requirementChanged →
        r.context = s.context) ∧
      (e.kind ≠ .observeDefined →
        s.context.researchArtifacts <+: r.context.researchArtifacts) ∧
      (r.changed = true →
        r.context.reviewerFeedbackCount.toNat =
          feedbackAfter s.state r.state s.context.reviewerFeedbackCount.toNat) := by
  intro r
  have kept {f : Context.Field} (other : f ∉ e.writes) :
      r.context.read f = s.context.read f := next_writes s e other
  refine ⟨fun f differs => ?_, ?_, next_artifacts s, ?_⟩
  · by_contra other
    exact differs (kept other)
  · rintro (unchanged | nothing)
    · exact congrArg Snapshot.context (next_unchanged unchanged)
    · refine Context.eq_of_read fun f => kept ?_
      rw [writes_nothing nothing]
      exact List.not_mem_nil
  · intro accepted
    obtain ⟨m, h⟩ := changed_iff.mp accepted
    have result : r = taken s m := transition_of_turn h
    rw [result]
    exact turn_counts h

end ControlPlane
