import ControlPlane.Proofs.Run.Course

/-!
# How a confidence is weighed

Five events bring a confidence, each in one state. It is stored as it comes and weighed at one
and the same gate (`gate_weighs`): what is too low is to be clarified, and anything else goes on
to what the event is about. No other way leads to a clarification or to another confidence.
-/

set_option autoImplicit false

namespace ControlPlane

variable {s : Snapshot} {e : Event} {m : Move} {confidence : Float}

/-- The confidence that is weighed when the event comes. A switch may be resolved without one,
and then the one at hand is weighed again. -/
def Snapshot.weighs? (s : Snapshot) (e : Event) : Option Float :=
  match s.state, e with
  | .intake, .intakeCompleted confidence _ _ => some confidence
  | .askSwitch, .switchResolved confidence _ => some (confidence.getD s.context.confidence)
  | .planBaseline, .planBaselined confidence _ => some confidence
  | .schedule, .scheduleDecided confidence _ => some confidence
  | .replanPatch, .replanApplied confidence => some confidence
  | _, _ => none

def Event.conflicts : Event → Bool
  | intakeCompleted _ conflict _ => conflict
  | _ => false

theorem Context.isLow_iff {c : Context} : c.isLow = true ↔ c.confidence < confidenceThreshold :=
  decide_eq_true_iff

/-- The gate at which each confidence is weighed: the context holds it by then, and one that is
too low leads to its clarification. Past the gate the confidence stays, and only a conflict is
left to be asked about. -/
theorem gate_weighs (weighed : s.weighs? e = some confidence) :
    ∃ c onward, c.confidence = confidence ∧ onward.snapshot.context.confidence = confidence ∧
      (onward.snapshot.state = .askSwitch ↔ e.conflicts = true) ∧
      Turn s e (if c.isLow then .clarification c else onward) := by
  obtain ⟨st, c⟩ := s
  unfold Snapshot.weighs? at weighed
  -- one case for each event that brings a confidence
  split at weighed <;> cases weighed
  case h_1 conflict epicId inside =>
    cases inside
    refine ⟨_, _, ?_, ?_, ?_, .intakeDone c confidence conflict epicId⟩ <;>
      cases conflict <;> simp [Rules.intakeContext, Event.conflicts]
  case h_2 weight epicId inside =>
    cases inside
    refine ⟨_, _, ?_, ?_, ?_, .switchDone c weight epicId⟩ <;>
      simp [Rules.switchContext, Rules.adopted_eq, Event.conflicts]
  case h_3 needPlanReview inside =>
    cases inside
    refine ⟨_, _, ?_, ?_, ?_, .planned c confidence needPlanReview⟩ <;>
      cases needPlanReview <;> simp [Event.conflicts]
  case h_4 busy inside =>
    cases inside
    refine ⟨_, _, ?_, ?_, ?_, .decided c confidence busy⟩ <;>
      cases busy <;> simp [Event.conflicts]
  case h_5 inside =>
    cases inside
    refine ⟨_, _, ?_, ?_, ?_, .patchDone c confidence⟩ <;> simp [Event.conflicts]

theorem weighed_low (weighed : s.weighs? e = some confidence)
    (low : confidence < confidenceThreshold) :
    ∃ c, c.confidence = confidence ∧ Turn s e (.clarification c) := by
  obtain ⟨c, onward, held, -, -, h⟩ := gate_weighs weighed
  rw [← held, ← Context.isLow_iff] at low
  rw [if_pos low] at h
  exact ⟨c, held, h⟩

theorem weighed_clear (weighed : s.weighs? e = some confidence)
    (clear : ¬ confidence < confidenceThreshold) :
    ∃ m, m.snapshot.context.confidence = confidence ∧
      (m.snapshot.state = .askSwitch ↔ e.conflicts = true) ∧ Turn s e m := by
  obtain ⟨c, onward, held, kept, asks, h⟩ := gate_weighs weighed
  rw [← held, ← Context.isLow_iff] at clear
  rw [if_neg clear] at h
  exact ⟨onward, kept, asks, h⟩

theorem patch_unclear (inside : s.state = .replanPatch) (low : confidence < confidenceThreshold) :
    Turn s (.replanApplied confidence) (.clarification { s.context with confidence }) := by
  obtain ⟨st, c⟩ := s
  cases inside
  exact .patchUnclear c confidence (Context.isLow_iff.mpr low)

theorem conflict_unclear (inside : s.state = .intake) (low : confidence < confidenceThreshold)
    (epicId : Option String) :
    Turn s (.intakeCompleted confidence true epicId)
      (.clarification { s.context with confidence, pendingEpicId := epicId }) := by
  obtain ⟨st, c⟩ := s
  cases inside
  exact .intakeUnclear c confidence true epicId (Context.isLow_iff.mpr low)

/-- An event that brings nothing to weigh leaves the confidence, and asks for no clarification
and about no conflict. -/
theorem turn_unweighed (h : Turn s e m) (unweighed : s.weighs? e = none) :
    m.snapshot.context.confidence = s.context.confidence ∧ m.snapshot.state ≠ .askSwitch := by
  cases h with
  | intakeUnclear | intakeConflict | intakeReady | switchUnclear | switchResolved | planUnclear
  | reviewRequired | planBaselined | scheduleUnclear | resourceBusy | scheduled | patchUnclear
  | patched => cases unweighed
  | _ => simp [Rules.adopted_eq, Context.settleOn]

/-- Every confidence is weighed at the same gate: it is stored as it comes, and below the
threshold the one thing that follows is its clarification, with the confidence and the
threshold. (JSON has no infinity, and so a confidence of minus infinity is null there.)
Otherwise the run asks only about an intake that found a conflict. No other event changes the
confidence or brings the run to ask. A patch that stays unclear changes nothing but the
confidence, so the count of feedback is kept, and an unclear intake with a conflict leaves its
epic pending. -/
theorem confidence_weighed (s : Snapshot) (e : Event) :
    let r := transition s e
    (∀ confidence, s.weighs? e = some confidence →
        r.context.confidence = confidence ∧
          (confidence < confidenceThreshold →
            r.state = .askSwitch ∧ r.reason = some "low_confidence" ∧
              r.commands =
                [⟨.clarifyLowConfidence,
                  some [("confidence", if confidence.isFinite then .float confidence else .null),
                    ("threshold", .float confidenceThreshold)]⟩]) ∧
          (¬ confidence < confidenceThreshold →
            (r.state = .askSwitch ↔ e.conflicts = true))) ∧
      (s.weighs? e = none →
        r.context.confidence = s.context.confidence ∧
          (r.state = .askSwitch → s.state = .askSwitch ∧ r.changed = false)) ∧
      ∀ confidence < confidenceThreshold,
        (s.state = .replanPatch → e = .replanApplied confidence →
          r.context = { s.context with confidence }) ∧
        ∀ epicId, s.state = .intake → e = .intakeCompleted confidence true epicId →
          r.context = { s.context with confidence, pendingEpicId := epicId } := by
  intro r
  have result {m : Move} (h : Turn s e m) : r = taken s m := transition_of_turn h
  refine ⟨fun confidence weighed => ?_, fun unweighed => ?_, fun confidence low => ⟨?_, ?_⟩⟩
  · by_cases low : confidence < confidenceThreshold
    · obtain ⟨c, rfl, h⟩ := weighed_low weighed low
      rw [result h]
      exact ⟨rfl, fun _ => ⟨rfl, rfl, Move.clarification_commands c⟩, fun clear => absurd low clear⟩
    · obtain ⟨m, held, asks, h⟩ := weighed_clear weighed low
      rw [result h]
      exact ⟨held, fun below => absurd below low, fun _ => asks⟩
  · rcases transition_cases s e with ⟨m, h, -⟩ | ⟨-, reason, absorbed_⟩
    · obtain ⟨same, elsewhere⟩ := turn_unweighed h unweighed
      rw [result h]
      exact ⟨same, fun asks => absurd asks elsewhere⟩
    · have result : r = absorbed s reason := absorbed_
      rw [result]
      exact ⟨rfl, fun asks => ⟨asks, rfl⟩⟩
  · rintro inside rfl
    rw [result (patch_unclear inside low)]
    rfl
  · rintro epicId inside rfl
    rw [result (conflict_unclear inside low epicId)]
    rfl

/-- The lowest confidence of all is stored as it is and asked about without a number. -/
example :
    let r := transition ⟨.intake, {}⟩ (.intakeCompleted (-1 / 0) true (some "epic-2"))
    r.state = .askSwitch ∧ r.context.confidence = -1 / 0 ∧
      r.commands.map (·.kind) = [.clarifyLowConfidence] ∧
      r.context.pendingEpicId = some "epic-2" := by
  decide +kernel

end ControlPlane
