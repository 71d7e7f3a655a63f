import Mathlib.Data.List.Destutter
import ControlPlane.Proofs.Drive.Conduct
import ControlPlane.Proofs.Run.Ending
import ControlPlane.Proofs.Service.Keeping

/-!
# A run, its report and its log

Four accounts are given of a run that is driven: by the machine, by the driver who goes by
the replies, by the history of the machine, and by the log. They tell the same, and what they
tell is what transitions make of the events one after the other.
-/

set_option autoImplicit false

namespace ControlPlane

variable {s : Snapshot} {e : Event} {m : Move}

namespace LogEntry

def outcomes : List String := ["event absorbed", "state changed", "context updated"]

def tellsOutcome (entry : LogEntry) : Bool := entry.message ∈ outcomes

def move? : LogEntry → Option (State × State)
  | stateChanged source target .. => some (source, target)
  | _ => none

def tellsFailure : LogEntry → Bool
  | runFailed .. => true
  | stateChanged _ target .. => target = .failed
  | _ => false

variable {entry : LogEntry}

theorem tellsOutcome_loss (loss : entry.isLoss = true) : entry.tellsOutcome = false := by
  cases entry <;> cases loss
  rfl

theorem move?_loss (loss : entry.isLoss = true) : entry.move? = none := by
  cases entry <;> cases loss
  rfl

theorem tellsFailure_loss (loss : entry.isLoss = true) : entry.tellsFailure = false := by
  cases entry <;> cases loss
  rfl

end LogEntry

theorem logOf_outcome (st : State) (e : Event) (r : TransitionResult) :
    (logOf st e r).countP (·.tellsOutcome) = 1 := by
  rw [logOf]
  split
  · rfl
  · split
    · rfl
    · split <;> rfl

/-- A move is told of when there is one, and with the states that it leads from and to. -/
theorem logOf_moves (s : Snapshot) (e : Event) :
    (logOf s.state e (transition s e)).filterMap (·.move?) =
      if (s.next e).state = s.state then [] else [(s.state, (s.next e).state)] := by
  by_cases stays : (s.next e).state = s.state
  · have stays' : (transition s e).state = s.state := stays
    rw [if_pos stays, logOf, if_pos stays']
    split <;> rfl
  · have stays' : (transition s e).state ≠ s.state := stays
    rw [if_neg stays, logOf, if_neg (by simp [changed_of_moved stays]), if_neg stays',
      List.filterMap_append]
    split <;> rfl

theorem logOf_quiet {st : State} {e : Event} {r : TransitionResult}
    (running : r.changed = true → r.state ≠ .failed) :
    ∀ entry ∈ logOf st e r, entry.tellsFailure = false := by
  rw [logOf]
  split
  · simp [LogEntry.tellsFailure]
  case isFalse changed =>
    have running := running (by simpa using changed)
    split <;> simp [LogEntry.tellsFailure, running]

/-- A fatal error in a live run is told of as its failure, and nothing else is. -/
theorem logOf_failure (s : Snapshot) (e : Event) :
    (∃ error, e = .fatalError error ∧ s.state.isTerminal = false ∧ (s.next e).state = .failed ∧
        logOf s.state e (transition s e) =
          [.runFailed s.state error,
            .stateChanged s.state .failed .fatalError "fatal_error" 1]) ∨
      (∀ error, e = .fatalError error → s.state.isTerminal = true) ∧
        ∀ entry ∈ logOf s.state e (transition s e), entry.tellsFailure = false := by
  rcases transition_cases s e with ⟨m, h, taken_⟩ | ⟨refuses, reason, absorbed_⟩
  · rcases turn_error h with ⟨error, rfl, failed, -⟩ | ⟨harmless, running, -⟩
    · have live := turn_live h
      obtain ⟨changed, state, kept⟩ := fatalError_accepted live error
      refine .inl ⟨error, rfl, live, state, ?_⟩
      have moved : (transition s (.fatalError error)).state ≠ s.state := by
        rw [state]
        rintro same
        rw [← same] at live
        cases live
      rw [logOf, if_neg (by simp [changed]), if_neg moved, if_pos state, state, kept]
      rw [transition_of_turn (Turn.fatalError live error)]
      rfl
    · refine .inr ⟨fun error fatal => absurd fatal (harmless error), ?_⟩
      rw [taken_]
      exact logOf_quiet fun _ => running
  · refine .inr ⟨?_, ?_⟩
    · rintro error rfl
      by_contra live
      exact refuses _ (Turn.fatalError (by simpa using live) error)
    · rw [absorbed_]
      exact logOf_quiet fun changed => by cases changed

/-- A log tells of no failure unless a fatal error comes to a run that is live, and then of
this one alone, right before the move to the failed state. -/
inductive FailureTold (s : Snapshot) (es : List Event) (log : List LogEntry) : Prop
  | never
      (harmless : ∀ before error later, es = before ++ .fatalError error :: later →
        (s.after before).state.isTerminal = true)
      (quiet : ∀ entry ∈ log, entry.tellsFailure = false)
  | once (before : List Event) (error : String) (later : List Event)
      (earlier more : List LogEntry) (fatal : es = before ++ .fatalError error :: later)
      (live : (s.after before).state.isTerminal = false)
      (failed : log = earlier ++ .runFailed (s.after before).state error
        :: .stateChanged (s.after before).state .failed .fatalError "fatal_error" 1 :: more)
      (once : ∀ entry ∈ earlier ++ more, entry.tellsFailure = false)

namespace FailureTold

variable {es : List Event} {log : List LogEntry}

theorem among (h : FailureTold s es log) {earlier more : List LogEntry}
    (before : ∀ entry ∈ earlier, entry.tellsFailure = false)
    (after : ∀ entry ∈ more, entry.tellsFailure = false) :
    FailureTold s es (earlier ++ log ++ more) := by
  cases h with
  | never harmless quiet =>
    apply FailureTold.never harmless
    simp only [List.forall_mem_append]
    exact ⟨⟨before, quiet⟩, after⟩
  | once fore error later early late fatal live failed once =>
    refine .once fore error later (earlier ++ early) (late ++ more) fatal live ?_ ?_
    · rw [failed]
      simp only [List.append_assoc, List.cons_append]
    · simp only [List.forall_mem_append] at once ⊢
      exact ⟨⟨before, once.1⟩, once.2, after⟩

theorem after_harmless
    (harmless : ∀ error, e = .fatalError error → s.state.isTerminal = true)
    (h : FailureTold (s.next e) es log) : FailureTold s (e :: es) log := by
  cases h with
  | never later quiet =>
    refine .never ?_ quiet
    rintro (_ | ⟨f, fs⟩) error rest split
    · cases split
      exact harmless error rfl
    · cases split
      exact later fs error rest rfl
  | once fore error later early late fatal live failed once =>
    exact .once (e :: fore) error later early late (congrArg (e :: ·) fatal) live failed once

end FailureTold

inductive Logged : Snapshot → List Event → List LogEntry → Prop
  | nil (s : Snapshot) : Logged s [] []
  | cons {s : Snapshot} {e : Event} {es : List Event} {losses log : List LogEntry}
      (lost : ∀ entry ∈ losses, entry.isLoss = true) (rest : Logged (s.next e) es log) :
      Logged s (e :: es) (logOf s.state e (transition s e) ++ losses ++ log)

namespace Logged

variable {es : List Event} {log : List LogEntry}

theorem told (h : Logged s es log) : log.filter (!·.isLoss) = s.told es := by
  induction h with
  | nil => rfl
  | @cons s e es losses log lost rest ih =>
    have kept := List.filter_eq_self.mpr fun entry there =>
      (Bool.not_eq_true' _).mpr (logOf_noLoss s.state e (transition s e) entry there)
    have gone : losses.filter (!·.isLoss) = [] :=
      List.filter_eq_nil_iff.mpr (by simpa using lost)
    rw [List.filter_append, List.filter_append, kept, gone, ih, List.append_nil]
    rfl

theorem outcomes (h : Logged s es log) : log.countP (·.tellsOutcome) = es.length := by
  induction h with
  | nil => rfl
  | @cons s e es losses log lost rest ih =>
    have outcomeless : losses.countP (·.tellsOutcome) = 0 :=
      List.countP_eq_zero.mpr fun entry there =>
        Bool.eq_false_iff.mp (LogEntry.tellsOutcome_loss (lost entry there))
    rw [List.countP_append, List.countP_append, logOf_outcome, outcomeless, ih, List.length_cons,
      Nat.add_comm]

theorem moves (h : Logged s es log) :
    log.filterMap (·.move?) = (s.visited es).zip (s.visited es).tail := by
  induction h with
  | nil => rfl
  | @cons s e es losses log lost rest ih =>
    have moveless : losses.filterMap (·.move?) = [] :=
      List.filterMap_eq_nil_iff.mpr fun entry there => LogEntry.move?_loss (lost entry there)
    rw [List.filterMap_append, List.filterMap_append, logOf_moves, moveless, ih,
      Snapshot.visited_cons]
    split
    · rfl
    · obtain ⟨later, visited⟩ := List.head?_eq_some_iff.mp ((s.next e).visited_head es)
      rw [visited]
      rfl

theorem quiet (h : Logged s es log) (terminal : s.state.isTerminal = true) :
    ∀ entry ∈ log, entry.tellsFailure = false := by
  induction h with
  | nil => simp
  | @cons s e es losses log lost rest ih =>
    have told : ∀ entry ∈ logOf s.state e (transition s e), entry.tellsFailure = false := by
      rcases logOf_failure s e with ⟨-, -, live, -⟩ | ⟨-, told⟩
      · rw [terminal] at live
        cases live
      · exact told
    have later := ih (by rwa [next_terminal terminal])
    simp only [List.forall_mem_append]
    exact ⟨⟨told, fun entry there => LogEntry.tellsFailure_loss (lost entry there)⟩, later⟩

theorem failure (h : Logged s es log) : FailureTold s es log := by
  induction h with
  | nil s => exact .never (by simp) (by simp)
  | @cons s e es losses log lost rest ih =>
    have lost := fun entry there => LogEntry.tellsFailure_loss (lost entry there)
    rcases logOf_failure s e with ⟨error, rfl, live, failed, told⟩ | ⟨harmless, told⟩
    · -- The run is over then, and so nothing that comes later fails it again.
      have later := rest.quiet (by rw [failed]; rfl)
      refine .once [] error es [] (losses ++ log) rfl live ?_ ?_
      · rw [told]
        rfl
      · rw [List.nil_append, List.forall_mem_append]
        exact ⟨lost, later⟩
    · have here := List.forall_mem_append.mpr ⟨told, lost⟩
      rw [← List.append_nil (_ ++ _ ++ log)]
      exact (ih.after_harmless harmless).among here (by simp)

end Logged

theorem Snapshot.after_eq_foldl (s : Snapshot) (es : List Event) :
    s.after es = es.foldl (fun s e => (transition s e).snapshot) s := by
  induction es generalizing s with
  | nil => rfl
  | cons e es ih => exact ih (s.next e)

/-- The visited states are those after each event, without the repetitions. -/
theorem Snapshot.visited_eq_destutter (s : Snapshot) (es : List Event) :
    s.visited es = (s.state :: (s.passages es).map (·.result.state)).destutter (· ≠ ·) := by
  induction es generalizing s with
  | nil => rfl
  | cons e es ih =>
    have rest : (s.next e).visited es = List.destutter' (· ≠ ·) (s.next e).state
        (((s.next e).passages es).map (·.result.state)) := ih (s.next e)
    rw [visited_cons, rest, List.destutter_cons']
    change _ = List.destutter' (· ≠ ·) s.state ((s.next e).state :: _)
    rw [List.destutter'_cons]
    by_cases stays : (s.next e).state = s.state
    · rw [if_pos stays, if_neg (not_not.mpr stays.symm), stays]
    · rw [if_neg stays, if_pos (Ne.symm stays)]

/-- What a report tells of a run through events: where the machine has come to, what came of
each event, which states were visited, and all of it once more in the log. -/
structure Report.Retells (r : Report) (start : Snapshot) (es : List Event) : Prop where
  folded : r.snapshot = es.foldl (fun s e => (transition s e).snapshot) start
  steps : ∀ before e later, es = before ++ e :: later →
    let s := before.foldl (fun s e => (transition s e).snapshot) start
    r.passages[before.length]? = some ⟨s.state, e, transition s e⟩
  events : r.passages.map (·.event) = es
  dispatched : r.dispatched = es.length
  absorbed : r.absorbed = (r.passages.filter fun p => p.result.changed = false).length
  first : r.visited.head? = some start.state
  last : r.visited.getLast? = some r.snapshot.state
  distinct : r.visited.IsChain (· ≠ ·)
  collapsed : r.visited = (start.state :: r.passages.map (·.result.state)).destutter (· ≠ ·)
  told : r.log.filter (!·.isLoss) =
    .sessionStarted start.state :: r.passages.flatMap (fun p => logOf p.source p.event p.result)
      ++ [.sessionStopped r.snapshot.state]
  outcomes : r.log.countP (·.tellsOutcome) = r.dispatched
  moves : r.log.filterMap (·.move?) = r.visited.zip r.visited.tail
  failure : FailureTold start es r.log

section

variable {σ : Type} (keeper : Option (Keeper (StateM σ)))

theorem keep_isLoss (changed : Bool) (s : Snapshot) (world : σ) :
    ∀ entry ∈ ((Keeper.keep keeper changed s).run world).1, entry.isLoss = true := by
  cases changed with
  | false =>
    rw [keep_unchanged]
    simp
  | true =>
    cases keeper with
    | none =>
      intro entry there
      cases there
    | some k =>
      rw [keep_changed]
      split <;> simp [LogEntry.isLoss]

theorem takeAll_logged (machine : Machine) (es : List Event) (world : σ) :
    Logged machine.snapshot es ((takeAll keeper machine es).run world).1.2.2 := by
  induction es generalizing machine world with
  | nil => exact .nil _
  | cons e es ih =>
    rw [takeAll_cons]
    exact .cons (keep_isLoss keeper _ _ world) (ih (machine.dispatch e).machine _)

theorem drive_retells (start : Snapshot) (es : List Event) (world : σ) :
    ((drive keeper start es).run world).1.Retells start es := by
  have logged := takeAll_logged keeper (.resume start) es world
  have told : ((drive keeper start es).run world).1.log =
      [.sessionStarted start.state] ++ ((takeAll keeper (.resume start) es).run world).1.2.2 ++
        [.sessionStopped ((drive keeper start es).run world).1.snapshot.state] := rfl
  generalize ((takeAll keeper (.resume start) es).run world).1.2.2 = log at logged told
  have passages := drive_passages keeper start es world
  have snapshot := drive_snapshot keeper start es world
  have visited := drive_visited keeper start es world
  generalize ((drive keeper start es).run world).1 = report at told passages snapshot visited
  exact {
    folded := by rw [snapshot, Snapshot.after_eq_foldl]
    steps := by
      rintro before e later rfl
      rw [passages, ← Snapshot.after_eq_foldl]
      exact start.passages_at before e later
    events := by rw [passages, Snapshot.passages_events]
    dispatched := by rw [Report.dispatched, passages, Snapshot.passages_length]
    absorbed := by
      rw [Report.absorbed, List.countP_eq_length_filter]
      simp
    first := by rw [visited, Snapshot.visited_head]
    last := by rw [visited, snapshot, Snapshot.visited, List.getLast?_concat]
    distinct := by
      rw [visited]
      exact visited_isChain (fun _ moved => moved.symm) start es
    collapsed := by rw [visited, passages, Snapshot.visited_eq_destutter]
    told := by
      have events : log.filter (!·.isLoss) = _ := logged.told
      rw [told, passages, List.filter_append, List.filter_append, events]
      rfl
    outcomes := by
      rw [told, Report.dispatched, passages, Snapshot.passages_length, List.countP_append,
        List.countP_append, logged.outcomes]
      exact Nat.zero_add _
    moves := by
      rw [told, visited, List.filterMap_append, List.filterMap_append, logged.moves]
      exact List.append_nil _
    failure := by
      rw [told]
      exact logged.failure.among (by simp [LogEntry.tellsFailure])
        (by simp [LogEntry.tellsFailure]) }

/-- A run that is driven through its session takes the events to what transitions make of
them. Its driver is told so at every step, and the report, the history of the machine and the
log agree with that and with one another, however the run starts and whatever can be saved. Of
every event a machine tells once what has come of it. -/
theorem driven_run_retold (start : Snapshot) (es : List Event) (world : σ) :
    let driven := (drive keeper start es).run world
    let report := driven.1
    (conduct keeper start es).run world =
        (.ok (⟨report.snapshot.state, report.passages, report.dispatched, report.absorbed⟩,
          report.machine, report.log), driven.2) ∧
      report.Retells start es ∧
      ∀ (machine : Machine) (e : Event),
        ((machine.dispatch e).log.map (·.message)).countP (· ∈ LogEntry.outcomes) = 1 := by
  intro driven report
  refine ⟨conduct_run keeper start es world, drive_retells keeper start es world, ?_⟩
  intro machine e
  rw [List.countP_map]
  exact logOf_outcome machine.state e _

end

end ControlPlane
