import ControlPlane.Proofs.Run.Course

/-!
# The end of a run

A run is closed by one of three events, and asks for one thing when it is: that the
delivery be finalized, or that the run be marked as cancelled or as failed. A closed run
takes nothing in any more. So over a whole run one closing command is issued at most, and
an error is kept exactly when the run has failed of it.
-/

set_option autoImplicit false

namespace ControlPlane

variable {s : Snapshot} {e : Event} {m : Move}

def State.closing? : State → Option CommandKind
  | complete => some .finalizeDelivery
  | cancelled => some .markCancelled
  | failed => some .markFailed
  | _ => none

def CommandKind.isClosing : CommandKind → Bool
  | finalizeDelivery | markCancelled | markFailed => true
  | _ => false

inductive Closes : State → Event → State → Prop
  | passed : Closes .reviewAccept (.reviewResult .pass 0) .complete
  | cancelled (st : State) (reason : Option String) : Closes st (.cancel reason) .cancelled
  | failed (st : State) (error : String) : Closes st (.fatalError error) .failed

theorem Closes.of_failed {st : State} (h : Closes st e .failed) :
    ∃ error, e = .fatalError error := by
  cases h with
  | failed st error => exact ⟨error, rfl⟩

theorem closing?_live {st : State} (live : st.isTerminal = false) : st.closing? = none := by
  cases st <;> simp_all [State.isTerminal, State.closing?]

theorem closing?_length (st : State) :
    st.closing?.toList.length = if st.isTerminal then 1 else 0 := by
  cases st <;> rfl

theorem turn_closing (h : Turn s e m) :
    m.kinds.filter CommandKind.isClosing = m.snapshot.state.closing?.toList := by
  cases h <;> simp [CommandKind.isClosing, State.closing?, Move.replanning_kinds]

theorem turn_closes (h : Turn s e m) (terminal : m.snapshot.state.isTerminal = true) :
    Closes s.state e m.snapshot.state := by
  cases h with
  | cancel live reason => exact .cancelled _ reason
  | fatalError live error => exact .failed _ error
  | deliveryPassed c => exact .passed
  | _ => simp [State.isTerminal] at terminal

/-- A fatal error is kept in the context and fails the run; every other event leaves both
alone. -/
theorem turn_error (h : Turn s e m) :
    (∃ error, e = .fatalError error ∧ m.snapshot.state = .failed ∧
        m.snapshot.context.lastError = some error) ∨
      (∀ error, e ≠ .fatalError error) ∧ m.snapshot.state ≠ .failed ∧
        m.snapshot.context.lastError = s.context.lastError := by
  cases h with
  | fatalError live error => exact .inl ⟨error, rfl, rfl, rfl⟩
  | _ =>
    simp [Rules.intakeContext_eq, Rules.switchContext, Rules.adopted_eq, Context.settleOn]

namespace Snapshot

def commands (s : Snapshot) (es : List Event) : List Command :=
  (s.passages es).flatMap fun p => p.result.commands

def closings (s : Snapshot) (es : List Event) : List CommandKind :=
  ((s.commands es).map (·.kind)).filter CommandKind.isClosing

theorem closings_cons (s : Snapshot) (e : Event) (es : List Event) :
    s.closings (e :: es) =
      ((transition s e).commands.map (·.kind)).filter CommandKind.isClosing ++
        (s.next e).closings es := by
  simp [closings, commands, passages]

end Snapshot

theorem transition_terminal (terminal : s.state.isTerminal = true) (e : Event) :
    transition s e = absorbed s "terminal_state_ignored" := by
  simp [transition, terminal]

theorem next_terminal (terminal : s.state.isTerminal = true) (e : Event) : s.next e = s := by
  rw [Snapshot.next, transition_terminal terminal, absorbed_snapshot]

theorem after_terminal (terminal : s.state.isTerminal = true) (es : List Event) :
    s.after es = s := by
  induction es with
  | nil => rfl
  | cons e es ih => rw [Snapshot.after_cons, next_terminal terminal, ih]

theorem passages_terminal (terminal : s.state.isTerminal = true) (es : List Event) :
    s.passages es =
      es.map fun e => ⟨s.state, e, absorbed s "terminal_state_ignored"⟩ := by
  induction es with
  | nil => rfl
  | cons e es ih =>
    rw [Snapshot.passages, next_terminal terminal, ih, transition_terminal terminal]
    rfl

theorem closings_terminal (terminal : s.state.isTerminal = true) (es : List Event) :
    s.closings es = [] := by
  rw [Snapshot.closings, Snapshot.commands, passages_terminal terminal]
  simp [absorbed]

theorem left_terminal (terminal : s.state.isTerminal = true) (es : List Event) :
    s.left es = [] := by
  induction es with
  | nil => rfl
  | cons e es ih => simp [Snapshot.left, next_terminal terminal, ih]

theorem Machine.after_terminal {m : Machine} (terminal : m.state.isTerminal = true)
    (es : List Event) : m.after es = m := by
  have snapshot : (m.after es).snapshot = m.snapshot := by
    rw [after_snapshot, ControlPlane.after_terminal terminal]
  have history : (m.after es).history = m.history := by
    rw [after_history, left_terminal terminal, List.append_nil]
  calc m.after es = ⟨(m.after es).snapshot, (m.after es).history⟩ := rfl
    _ = ⟨m.snapshot, m.history⟩ := by rw [snapshot, history]

/-- One event issues a closing command if it ends the run, and none otherwise. -/
theorem next_closing (live : s.state.isTerminal = false) (e : Event) :
    ((transition s e).commands.map (·.kind)).filter CommandKind.isClosing =
      (s.next e).state.closing?.toList := by
  rcases transition_cases s e with ⟨m, h, taken_⟩ | ⟨-, reason, absorbed_⟩
  · rw [next_of_turn h, taken_]
    exact turn_closing h
  · rw [Snapshot.next, absorbed_, absorbed_snapshot, closing?_live live]
    rfl

/-- Over a whole run the closing commands are the one of its final state, or none at all. -/
theorem closings_live (live : s.state.isTerminal = false) (es : List Event) :
    s.closings es = (s.after es).state.closing?.toList := by
  induction es generalizing s with
  | nil =>
    rw [Snapshot.after_nil, closing?_live live]
    rfl
  | cons e es ih =>
    -- If this event ends the run, the others ask for nothing; if it does not, it asks for no end.
    rw [Snapshot.closings_cons, next_closing live, Snapshot.after_cons]
    cases next : (s.next e).state.isTerminal with
    | true => rw [closings_terminal next, after_terminal next, List.append_nil]
    | false => rw [closing?_live next, ih next]; rfl

/-- A run that has ended was ended by one of its events, which was a right one. -/
theorem ended_by (live : s.state.isTerminal = false) (es : List Event)
    (ended : (s.after es).state.isTerminal = true) :
    ∃ before e later, es = before ++ e :: later ∧ (s.after before).state.isTerminal = false ∧
      Closes (s.after before).state e (s.after es).state ∧
      s.after (before ++ [e]) = s.after es := by
  induction es generalizing s with
  | nil => simp [live] at ended
  | cons e es ih =>
    cases next : (s.next e).state.isTerminal with
    | true =>
      have same : (s.next e).after es = s.next e := after_terminal next es
      refine ⟨[], e, es, rfl, live, ?_, ?_⟩
      · rw [Snapshot.after_cons, same]
        rcases next_cases s e with ⟨m, h, hn⟩ | ⟨-, hn⟩
        · rw [hn] at next ⊢
          exact turn_closes h next
        · rw [hn, live] at next
          cases next
      · rw [Snapshot.after_cons, same]
        rfl
    | false =>
      obtain ⟨before, f, later, rfl, running, closes, reached⟩ := ih next ended
      exact ⟨e :: before, f, later, rfl, running, closes, reached⟩

theorem Machine.ended_by {m : Machine} (live : m.state.isTerminal = false) (es : List Event)
    (ended : (m.after es).state.isTerminal = true) :
    ∃ before e later, es = before ++ e :: later ∧ (m.after before).state.isTerminal = false ∧
      Closes (m.after before).state e (m.after es).state ∧
      ((m.after before).dispatch e).machine = m.after es := by
  rw [after_state] at ended
  obtain ⟨before, e, later, rfl, running, closes, reached⟩ := ControlPlane.ended_by live es ended
  refine ⟨before, e, later, rfl, ?_, ?_, ?_⟩
  · rwa [after_state]
  · rwa [after_state, after_state]
  · have last : m.after (before ++ [e]) = ((m.after before).dispatch e).machine :=
      after_append m before [e]
    have terminal : (m.after (before ++ [e])).state.isTerminal = true := by
      rwa [after_state, reached]
    calc ((m.after before).dispatch e).machine = m.after (before ++ [e]) := last.symm
      _ = (m.after (before ++ [e])).after later := (after_terminal terminal later).symm
      _ = m.after (before ++ e :: later) := by
        rw [← after_append, List.append_assoc, List.singleton_append]

theorem cancel_accepted (live : s.state.isTerminal = false) (reason : Option String) :
    (transition s (.cancel reason)).changed = true ∧
      (transition s (.cancel reason)).state = .cancelled := by
  have turn := Turn.cancel live reason
  refine ⟨changed_iff.mpr ⟨_, turn⟩, ?_⟩
  rw [transition_of_turn turn]
  rfl

theorem fatalError_accepted (live : s.state.isTerminal = false) (error : String) :
    (transition s (.fatalError error)).changed = true ∧
      (transition s (.fatalError error)).state = .failed ∧
      (transition s (.fatalError error)).context.lastError = some error := by
  have turn := Turn.fatalError live error
  refine ⟨changed_iff.mpr ⟨_, turn⟩, ?_⟩
  rw [transition_of_turn turn]
  exact ⟨rfl, rfl⟩

def ErrorKept (s : Snapshot) : Prop := s.context.lastError.isSome = true ↔ s.state = .failed

theorem errorKept_clean (live : s.state.isTerminal = false) (clean : s.context.lastError = none) :
    ErrorKept s := by
  simp only [ErrorKept, clean]
  constructor
  · intro kept
    cases kept
  · intro failed
    simp [failed, State.isTerminal] at live

theorem turn_keeps_error (h : Turn s e m) (hs : ErrorKept s) : ErrorKept m.snapshot := by
  rcases turn_error h with ⟨error, -, failed, kept⟩ | ⟨-, running, same⟩
  · simp [ErrorKept, failed, kept]
  · have live : s.state ≠ .failed := by
      intro failed
      have := turn_live h
      simp [failed, State.isTerminal] at this
    have spared : ¬ s.context.lastError.isSome = true := fun kept => live (hs.mp kept)
    simp only [ErrorKept, same]
    exact ⟨fun kept => absurd kept spared, fun failed => absurd failed running⟩

theorem after_keeps_error (hs : ErrorKept s) (es : List Event) : ErrorKept (s.after es) :=
  after_keeps turn_keeps_error hs es

/-- The text that is kept is that of the fatal error which has ended the run. -/
theorem kept_error (live : s.state.isTerminal = false) (hs : ErrorKept s) (es : List Event)
    (error : String) :
    (s.after es).context.lastError = some error ↔
      ∃ before later, es = before ++ .fatalError error :: later ∧
        (s.after before).state.isTerminal = false := by
  constructor
  · intro kept
    have failed : (s.after es).state = .failed :=
      (after_keeps_error hs es).mp (by rw [kept]; rfl)
    obtain ⟨before, e, later, he, running, closes, reached⟩ :=
      ended_by live es (by rw [failed]; rfl)
    rw [failed] at closes
    obtain ⟨text, rfl⟩ := closes.of_failed
    have turn := next_of_turn (Turn.fatalError running text)
    rw [← reached, Snapshot.after_concat, turn] at kept
    obtain rfl : text = error := by simpa using kept
    exact ⟨before, later, he, running⟩
  · rintro ⟨before, later, rfl, running⟩
    have turn := next_of_turn (Turn.fatalError running error)
    rw [Snapshot.after_append, Snapshot.after_cons, turn, after_terminal rfl]
    rfl

/-- A run that begins live and without an error issues the closing command of the state in
which it ends, once, and none as long as it goes on. Only an accepted delivery completes it,
and only a cancel or a fatal error ends it otherwise; each of these two takes effect wherever
the run is. Its error is the text of the fatal error that has ended it, if one has. Once it
has ended, nothing changes or is asked for any more. -/
theorem ends_once (s : Snapshot) (live : s.state.isTerminal = false)
    (clean : s.context.lastError = none) (es : List Event) :
    let m := (Machine.resume s).after es
    (s.closings es).length = (if m.state.isTerminal then 1 else 0) ∧
      s.closings es = m.state.closing?.toList ∧
      (m.state.isTerminal = true → ∃ before e later, es = before ++ e :: later ∧
        let last := (Machine.resume s).after before
        last.state.isTerminal = false ∧ Closes last.state e m.state ∧
          (last.dispatch e).machine = m) ∧
      (m.state.isTerminal = false →
        (∀ reason, let r := (m.dispatch (.cancel reason)).result
          r.changed = true ∧ r.state = .cancelled) ∧
        ∀ error, let r := (m.dispatch (.fatalError error)).result
          r.changed = true ∧ r.state = .failed ∧ r.context.lastError = some error) ∧
      (m.snapshot.context.lastError.isSome = true ↔ m.state = .failed) ∧
      (∀ error, m.snapshot.context.lastError = some error ↔
        ∃ before later, es = before ++ .fatalError error :: later ∧
          ((Machine.resume s).after before).state.isTerminal = false) ∧
      (m.state.isTerminal = true → ∀ more, m.after more = m ∧
        ∀ p ∈ m.snapshot.passages more, p.result.changed = false ∧ p.result.commands = []) := by
  intro m
  have reached : m.snapshot = s.after es := Machine.after_snapshot _ es
  have state : m.state = (s.after es).state := by rw [Machine.state, reached]
  have kept : ErrorKept s := errorKept_clean live clean
  refine ⟨?_, ?_, fun ended => ?_, fun running => ?_, ?_, fun error => ?_, fun ended more => ?_⟩
  · rw [state, closings_live live, closing?_length]
  · rw [state]
    exact closings_live live es
  · exact Machine.ended_by (m := .resume s) live es ended
  · exact ⟨cancel_accepted running, fatalError_accepted running⟩
  · rw [state, reached]
    exact after_keeps_error kept es
  · rw [reached, kept_error live kept]
    simp only [Machine.after_state, Machine.resume_snapshot]
  · refine ⟨Machine.after_terminal ended more, fun p hp => ?_⟩
    rw [passages_terminal ended] at hp
    obtain ⟨e, -, rfl⟩ := List.mem_map.mp hp
    exact ⟨rfl, rfl⟩

/-- A run that is cancelled while its result is coded, and hears of more after that. -/
theorem ends_once_cancelled :
    let s : Snapshot := ⟨.dispatch, {}⟩
    let es : List Event :=
      [.tick, .dispatchResult true none, .cancel (some "stop"), .fatalError "late", .cancel none]
    let m := (Machine.resume s).after es
    s.state.isTerminal = false ∧ s.context.lastError = none ∧ m.state = .cancelled ∧
      s.closings es = [.markCancelled] ∧ m.snapshot.context.lastError = none ∧
      m.after [.boot, .fatalError "later"] = m := by
  intro s es m
  have ended : m.state = .cancelled := by decide
  obtain ⟨-, closings, -, -, failed, -, stays⟩ := ends_once s rfl rfl es
  refine ⟨rfl, rfl, ended, ?_, ?_, (stays (by rw [ended]; rfl) _).1⟩
  · rw [closings, ended]
    rfl
  · rw [ended] at failed
    exact Option.not_isSome_iff_eq_none.mp fun kept => by cases failed.mp kept

end ControlPlane
