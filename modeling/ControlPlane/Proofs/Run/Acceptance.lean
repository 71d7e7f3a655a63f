import ControlPlane.Proofs.Run.Course

/-!
# What is accepted

Whether an event is accepted is decided by its kind and the state alone: neither what it
carries nor the context matters. What is accepted shows, in another state or in a command,
and what is not accepted leaves everything as it was. So the flag of a result says exactly
whether a rule was at work, and so does the reason.
-/

set_option autoImplicit false

namespace ControlPlane

variable {s : Snapshot} {e : Event} {m : Move}

def EventKind.expectedIn : EventKind → List State
  | boot => [.boot]
  | bdProbeResult => [.idleProbeBd]
  | resumeDecision => [.resumeAsk]
  | resumePlanLoaded => [.resumePlan]
  | userInput => [.idle]
  | intakeCompleted => [.intake]
  | switchResolved => [.askSwitch]
  | epicSynced => [.epicSync]
  | planBaselined => [.planBaseline]
  | planReviewPass | planReviewFeedback => [.planReview]
  | observeDefined => [.observe]
  | researchDispatched => [.researchFanout]
  | researchResult => [.researchFanout, .waitOthers]
  | researchIngested => [.researchIngest]
  | researchEvaluated => [.researchEval]
  | detailDesigned => [.detailDesign]
  | coderHandoffReady => [.coderHandoff]
  | scheduleDecided => [.schedule]
  | resourceAvailable => [.queue]
  | dispatchResult => [.dispatch]
  | coderResult => [.coderExec]
  | reviewResult => [.reviewAccept]
  | replanApplied => [.replanPatch]
  | requirementChanged | cancel | fatalError | heartbeat | tick => []

def State.accepts (st : State) (k : EventKind) : Bool :=
  !st.isTerminal &&
    match k with
    | .cancel | .fatalError => true
    | .requirementChanged => st ≠ .replanPatch
    | k => st ∈ k.expectedIn

theorem rule_accepts (live : s.state.isTerminal = false) (e : Event) :
    (rule? s e).isSome = true ↔ s.state.accepts e.kind = true := by
  cases e <;>
    simp [rule?, Rules.global?, Rules.local?, State.accepts, Event.kind, EventKind.expectedIn,
      live]

def Snapshot.Takes (s : Snapshot) (e : Event) : Prop :=
  s.state.isTerminal = false ∧ (rule? s e).isSome = true

theorem takes_iff_turn : s.Takes e ↔ ∃ m, Turn s e m := by
  simp only [Snapshot.Takes, turn_iff, exists_and_left, Option.isSome_iff_exists]

theorem takes_iff_accepts : s.Takes e ↔ s.state.accepts e.kind = true := by
  constructor
  · rintro ⟨live, rule⟩
    exact (rule_accepts live e).mp rule
  · intro accepts
    have live : s.state.isTerminal = false := by
      simp only [State.accepts, Bool.and_eq_true, Bool.not_eq_true'] at accepts
      exact accepts.1
    exact ⟨live, (rule_accepts live e).mpr accepts⟩

def State.refusal (st : State) : String :=
  if st.isTerminal then "terminal_state_ignored" else "invalid_event_for_" ++ st.name

theorem transition_refused (refused : ¬ s.Takes e) :
    transition s e = absorbed s s.state.refusal := by
  rw [transition, State.refusal]
  cases live : s.state.isTerminal with
  | true => rfl
  | false =>
    cases rule : rule? s e with
    | none => rfl
    | some m => exact absurd ⟨live, by rw [rule]; rfl⟩ refused

def Rules.reasons : List String :=
  ["cancelled", "fatal_error", "requirement_changed", "boot", "no_resume_candidates",
   "auto_resume", "resume_candidates_found", "resume_accepted", "resume_declined",
   "resume_plan_loaded", "user_input", "low_confidence", "intake_conflict", "intake_ready",
   "switch_resolved", "epic_synced", "plan_review_required", "plan_baselined",
   "plan_review_passed", "blocking_feedback", "feedback_bound_reached",
   "non_blocking_feedback", "research_round_opened", "research_dispatched",
   "research_result_received", "research_ingested", "research_needs_replan",
   "research_sufficient", "research_pending", "research_refanout", "detail_designed",
   "coder_handoff_ready", "resource_busy", "scheduled", "resource_available",
   "dispatch_failed", "dispatched", "coder_result", "claims_without_evidence",
   "review_retry", "review_replan", "review_passed", "replan_applied"]

theorem turn_reason (h : Turn s e m) : m.reason ∈ Rules.reasons := by
  cases h <;>
    simp [Rules.reasons, Move.asking, Move.silent, Move.clarification, Move.epicRecord,
      Move.resumption, Move.research, Move.planning, Move.observation, Move.replanning,
      Rules.roundOpened, Rules.resultReceived]

/-- No rule gives the reason for which a state absorbs an event. -/
theorem refusal_apart : ∀ st ∈ State.all, st.refusal ∉ Rules.reasons := by
  decide

/-- An event leaves a run unchanged exactly if no rule applies to it. That is what the reason
says then, for every other result has another one, and state and context are those from before
and nothing is asked for. A rule that applies shows in what comes of it. In a live state a
cancel and a fatal error are always taken, a changed requirement unless the plan is being
patched already, and a sign of life never. -/
theorem changed_exact (s : Snapshot) (e : Event) :
    let r := transition s e
    (r.changed = false ↔ ¬ s.Takes e) ∧
      (r.changed = false ↔ r.reason = some s.state.refusal) ∧
      (r.changed = false → r.state = s.state ∧ r.context = s.context ∧ r.commands = []) ∧
      (s.Takes e → r.changed = true ∧
        (r.state ≠ s.state ∨ r.context ≠ s.context ∨ r.commands ≠ [])) ∧
      (s.state.isTerminal = false →
        (∀ reason, s.Takes (.cancel reason)) ∧ (∀ error, s.Takes (.fatalError error)) ∧
          (∀ summary, s.Takes (.requirementChanged summary) ↔ s.state ≠ .replanPatch) ∧
          (∀ agentId, ¬ s.Takes (.heartbeat agentId)) ∧ ¬ s.Takes .tick) := by
  intro r
  have globally : s.state.isTerminal = false →
      (∀ reason, s.Takes (.cancel reason)) ∧ (∀ error, s.Takes (.fatalError error)) ∧
        (∀ summary, s.Takes (.requirementChanged summary) ↔ s.state ≠ .replanPatch) ∧
        (∀ agentId, ¬ s.Takes (.heartbeat agentId)) ∧ ¬ s.Takes .tick := by
    intro live
    simp [takes_iff_accepts, State.accepts, Event.kind, EventKind.expectedIn, live]
  by_cases takes : s.Takes e
  · obtain ⟨m, h⟩ := takes_iff_turn.mp takes
    have result : r = taken s m := transition_of_turn h
    have changed : r.changed = true := changed_iff.mpr ⟨m, h⟩
    have reason : r.reason ≠ some s.state.refusal := by
      intro same
      rw [result] at same
      have given := turn_reason h
      rw [Option.some.inj same] at given
      exact refusal_apart _ s.state.mem_all given
    have shows : r.state ≠ s.state ∨ r.commands ≠ [] := by
      rw [result]
      exact turn_shows h
    refine ⟨?_, ?_, ?_, fun _ => ⟨changed, ?_⟩, globally⟩
    · simp [changed, takes]
    · simp [changed, reason]
    · simp [changed]
    · exact shows.imp_right .inr
  · have result : r = absorbed s s.state.refusal := transition_refused takes
    rw [result]
    refine ⟨?_, ?_, ?_, ?_, globally⟩
    · simp [absorbed, takes]
    · simp [absorbed]
    · simp [absorbed]
    · simp [takes]

end ControlPlane
