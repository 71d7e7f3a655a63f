import ControlPlane.Proofs.Run.Commands
import ControlPlane.Proofs.Run.Course

/-!
# What a run waits for is asked for

A turn asks for one thing, and that is what the run waits for in its new state. Only an idle
run waits for something that is not asked for, the word of the user. Three states wait for one
of two things each, and the way into them decides which.
-/

set_option autoImplicit false

namespace ControlPlane

variable {s : Snapshot} {e : Event} {m : Move}

def Event.unproved : Event → UInt32
  | reviewResult _ claims => claims
  | _ => 0

def Snapshot.awaits (here : Snapshot) (source : State) (e : Event) : List CommandKind :=
  match here.state with
  | .askSwitch =>
    [if here.context.isLow then .clarifyLowConfidence else .askSwitchOrMerge]
  | .planReview =>
    [if source = .planReview then .applyNonBlockingFeedback else .requestPlanReview]
  | .coderHandoff =>
    [if 0 < e.unproved then .rejectClaimWithoutEvidence else .prepareCoderHandoff]
  | st => st.asks

theorem turn_awaits (h : Turn s e m) : m.kinds = m.snapshot.awaits s.state e := by
  cases h with
  | intakeUnclear _ _ _ _ low | switchUnclear _ _ _ low | planUnclear _ _ _ low
  | scheduleUnclear _ _ _ low | patchUnclear _ _ low => simp [Snapshot.awaits, low]
  | intakeConflict _ _ _ clear => simp [Snapshot.awaits, clear]
  | evidenceMissing _ _ claims unproven =>
    have found : 0 < claims := UInt32.pos_iff_ne_zero.mpr unproven
    simp [Snapshot.awaits, Event.unproved, found]
  | cancel | requirementChanged | dispatchFailed | reviewReplan =>
    simp [Snapshot.awaits, State.asks, Move.replanning_kinds]
  | _ => rfl

/-- What comes of an event asks for one thing at most. It asks for nothing exactly if the event
was absorbed or the run idles, and otherwise for what the run then waits for. -/
theorem awaited_asked (s : Snapshot) (e : Event) :
    let r := transition s e
    r.commands.length ≤ 1 ∧
      (r.commands = [] ↔ r.changed = false ∨ r.state = .idle) ∧
      (r.changed = true → r.commands.map (·.kind) = r.snapshot.awaits s.state e) := by
  intro r
  rcases transition_cases s e with ⟨m, h, result⟩ | ⟨-, reason, result⟩
  · have result : r = taken s m := result
    have changed : r.changed = true := changed_iff.mpr ⟨m, h⟩
    have length : r.commands.length = if r.state = .idle then 0 else 1 := by
      rw [result, ← List.length_map (·.kind)]
      exact turn_asks_one h
    refine ⟨?_, ?_, fun _ => ?_⟩
    · rw [result, ← List.length_map (·.kind)]
      exact turn_single h
    · rw [changed, ← List.length_eq_zero_iff, length]
      simp
    · rw [result]
      exact turn_awaits h
  · have result : r = absorbed s reason := result
    rw [result]
    simp [absorbed]

end ControlPlane
