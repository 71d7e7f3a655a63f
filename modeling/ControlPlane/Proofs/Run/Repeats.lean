import ControlPlane.Proofs.Run.Acceptance
import ControlPlane.Proofs.Run.Feedback

/-!
# Events that are delivered twice

A turn leads to a state that does not take its event once more, with two exceptions: a
review goes on after feedback that it has room for, and a switch that is resolved with too low
a confidence is asked for again. The second of these repeats itself word for word, so only
feedback that is counted is ever counted twice.
-/

set_option autoImplicit false

namespace ControlPlane

variable {s : Snapshot} {e : Event} {m : Move}

namespace Snapshot

structure HasRoomFor (s : Snapshot) (e : Event) : Prop where
  review : s.state = .planReview
  remark : e.isRemark = true
  room : countUp s.context.reviewerFeedbackCount < s.context.maxReviewerFeedbackCount

structure StaysUnclear (s : Snapshot) (e : Event) : Prop where
  asks : s.state = .askSwitch
  resolves : e.kind = .switchResolved
  low : (s.next e).context.isLow = true

end Snapshot

/-- The state to which a turn leads does not take its event, the two exceptions apart. -/
theorem turn_settles (h : Turn s e m) :
    s.HasRoomFor e ∨ s.StaysUnclear e ∨ m.snapshot.state.accepts e.kind = false := by
  have next := next_of_turn h
  cases h with
  | countedFeedback c more => exact .inl ⟨rfl, rfl, more⟩
  | switchUnclear c confidence epicId low => exact .inr (.inl ⟨rfl, rfl, by rw [next]; exact low⟩)
  | _ => exact .inr (.inr rfl)

/-- Where an event has led, it is not taken again, the two exceptions apart. -/
theorem next_settles (noRoom : ¬ s.HasRoomFor e) (clear : ¬ s.StaysUnclear e) :
    ¬ (s.next e).Takes e := by
  rcases next_cases s e with ⟨m, h, next⟩ | ⟨refuses, same⟩
  · rw [next, takes_iff_accepts]
    rcases turn_settles h with room | unclear | settled
    · exact absurd room noRoom
    · exact absurd unclear clear
    · simp [settled]
  · rw [same, takes_iff_turn]
    rintro ⟨m, h⟩
    exact refuses m h

theorem next_hasRoom (h : s.HasRoomFor e) :
    s.next e =
      ⟨.planReview,
        { s.context with reviewerFeedbackCount := countUp s.context.reviewerFeedbackCount }⟩ := by
  rw [isRemark_iff.mp h.remark]
  exact remark_counted h.review h.room

theorem counted_twice (h : s.HasRoomFor e) : (s.next e).next e ≠ s.next e := by
  have inside : (s.next e).state = .planReview := by rw [next_hasRoom h]
  intro same
  by_cases more : (s.next e).HasRoomFor e
  · have counts := congrArg (·.context.reviewerFeedbackCount.toNat) same
    rw [next_hasRoom more] at counts
    dsimp only at counts
    rw [countUp_of_lt more.room] at counts
    omega
  · have last := UInt32.not_lt.mp fun room => more ⟨inside, h.remark, room⟩
    have ends := remark_last inside last
    rw [← isRemark_iff.mp h.remark, same] at ends
    cases inside.symm.trans (congrArg Snapshot.state ends)

theorem switchContext_twice (c : Context) (confidence : Option Float) (epicId : Option String) :
    Rules.switchContext (Rules.switchContext c confidence epicId) confidence epicId =
      Rules.switchContext c confidence epicId := by
  cases confidence <;> cases epicId <;> rfl

/-- A switch that stays unclear asks for the same clarification, as often as it is resolved. -/
theorem unclear_twice (h : s.StaysUnclear e) :
    ∃ c, transition s e = taken s (.clarification c) ∧
      transition ⟨.askSwitch, c⟩ e = taken ⟨.askSwitch, c⟩ (.clarification c) := by
  obtain ⟨st, c⟩ := s
  obtain ⟨asks, resolves, low⟩ := h
  cases asks
  cases e with
  | switchResolved confidence epicId =>
    have low : (Rules.switchContext c confidence epicId).isLow = true := by
      by_contra clear
      rw [next_of_turn (.switchResolved c confidence epicId (by simpa using clear))] at low
      exact clear low
    have again := Turn.switchUnclear (Rules.switchContext c confidence epicId) confidence epicId
    rw [switchContext_twice] at again
    exact ⟨_, transition_of_turn (.switchUnclear c confidence epicId low),
      transition_of_turn (again low)⟩
  | _ => cases resolves

/-- An event that is delivered twice does to a run what it does once, unless it is feedback
that the review counts and has room for. Otherwise the second delivery is absorbed, except
that a switch resolved with too low a confidence asks for its clarification again and leaves
the run as it is. -/
theorem duplicate_harmless (s : Snapshot) (e : Event) :
    let first := transition s e
    let second := transition first.snapshot e
    (second.snapshot = first.snapshot ↔ ¬ s.HasRoomFor e) ∧
      (¬ s.HasRoomFor e → ¬ s.StaysUnclear e → second.changed = false ∧ second.commands = []) ∧
      (s.StaysUnclear e →
        second.snapshot = first.snapshot ∧ second.commands = first.commands ∧
          first.commands.map (·.kind) = [.clarifyLowConfidence]) := by
  intro first second
  have unclear : s.StaysUnclear e → second.snapshot = first.snapshot ∧
      second.commands = first.commands ∧
      first.commands.map (·.kind) = [.clarifyLowConfidence] := by
    intro h
    obtain ⟨c, once, twice⟩ := unclear_twice h
    have once : first = taken s (.clarification c) := once
    have twice : second = taken ⟨.askSwitch, c⟩ (.clarification c) := by
      rw [← twice]
      exact congrArg (transition · e) (by rw [once]; rfl)
    rw [once, twice]
    exact ⟨rfl, rfl, rfl⟩
  -- the two exceptions apart, the state that the event has led to refuses it
  have settled (noRoom : ¬ s.HasRoomFor e) (clear : ¬ s.StaysUnclear e) :
      second = absorbed first.snapshot first.state.refusal :=
    transition_refused (next_settles noRoom clear)
  refine ⟨⟨?_, ?_⟩, ?_, unclear⟩
  · intro same room
    exact counted_twice room same
  · intro noRoom
    by_cases h : s.StaysUnclear e
    · exact (unclear h).1
    · rw [settled noRoom h, absorbed_snapshot]
  · intro noRoom clear
    rw [settled noRoom clear]
    exact ⟨rfl, rfl⟩

end ControlPlane
