import ControlPlane.Proofs.Run.Commands
import ControlPlane.Proofs.Run.Course

/-!
# Clearance by confidence

A confidence comes in five states and is weighed at once. The states behind a gate are
entered with a confidence that passed it, or from one another, and inside them no
confidence comes. So nothing is recorded, reviewed, queued, coded or delivered on a
confidence below the threshold.
-/

set_option autoImplicit false

namespace ControlPlane

variable {s : Snapshot} {e : Event} {m : Move}

def clearedStates : List State :=
  [.epicSync, .planReview, .queue, .dispatch, .coderExec, .reviewAccept, .complete]

def clearedCommands : List CommandKind :=
  [.bdUpsertEpicAndTasks, .requestPlanReview, .enqueueWaitingTask, .dispatchCoder,
   .awaitCoderOutput, .finalizeDelivery]

def Cleared (s : Snapshot) : Prop := s.state ∈ clearedStates → s.context.isLow = false

/-- A state behind a gate is entered through the gate, or from another such state with the
confidence as it was. -/
theorem turn_gate (h : Turn s e m) (behind : m.snapshot.state ∈ clearedStates) :
    m.snapshot.context.isLow = false ∨
      s.state ∈ clearedStates ∧ m.snapshot.context.isLow = s.context.isLow := by
  cases h with
  | intakeReady _ _ _ clear | switchResolved _ _ _ clear | reviewRequired _ _ clear
  | resourceBusy _ _ clear | scheduled _ _ clear => exact .inl clear
  | countedFeedback | resourceAvailable | dispatched | coderResult | deliveryPassed =>
    exact .inr ⟨by simp [clearedStates], rfl⟩
  | _ => simp [clearedStates] at behind

theorem turn_keeps_cleared (h : Turn s e m) (hs : Cleared s) : Cleared m.snapshot := by
  intro behind
  rcases turn_gate h behind with clear | ⟨from_, same⟩
  · exact clear
  · rw [same]
    exact hs from_

theorem after_cleared (c : Context) (es : List Event) : Cleared (Snapshot.after ⟨.boot, c⟩ es) :=
  after_keeps (s := ⟨.boot, c⟩) turn_keeps_cleared
    (fun behind => by simp [clearedStates] at behind) es

theorem asked_behind : ∀ st ∈ State.all, ∀ k ∈ clearedCommands, k ∈ st.asks →
    st ∈ clearedStates := by
  decide

/-- A run from the boot is behind a gate with a sufficient confidence only, and issues the
commands from behind it on no other. -/
theorem gate_holds (c : Context) (es : List Event) :
    let m := (Machine.resume ⟨.boot, c⟩).after es
    (m.state ∈ clearedStates → m.snapshot.context.isLow = false) ∧
      ∀ e, ∀ k ∈ (m.dispatch e).result.commands, k.kind ∈ clearedCommands →
        (m.dispatch e).result.context.isLow = false := by
  intro m
  have reached : m.snapshot = Snapshot.after ⟨.boot, c⟩ es := Machine.after_snapshot _ es
  have cleared : Cleared m.snapshot := by
    rw [reached]
    exact after_cleared c es
  refine ⟨cleared, fun e k hk guarded => ?_⟩
  rw [Machine.dispatch_result] at hk ⊢
  rcases transition_cases m.snapshot e with ⟨move, h, taken_⟩ | ⟨-, reason, absorbed_⟩
  · rw [taken_] at hk ⊢
    have behind : move.snapshot.state ∈ clearedStates :=
      asked_behind _ (State.mem_all _) k.kind guarded (turn_asks h hk)
    exact turn_keeps_cleared h cleared behind
  · rw [absorbed_] at hk
    cases hk

end ControlPlane
