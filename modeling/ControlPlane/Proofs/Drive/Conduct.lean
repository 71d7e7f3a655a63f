import ControlPlane.Proofs.Drive.Driven
import ControlPlane.Proofs.Service.Serving

/-!
# A run that is driven through its session

A driver need not have the machine in its hands. It can hold the one handle of a session,
send an event at a time, wait for the reply and keep an account of the replies: where the last
one has left the run, what came of each event, and how many have changed nothing. It has the
machine back at the end only. `conduct_run` says that its account, the machine and the log are
those of `drive`.
-/

set_option autoImplicit false

namespace ControlPlane

structure Account where
  source : State
  passages : List Passage := []
  dispatched : Nat := 0
  absorbed : Nat := 0

def Account.note (a : Account) (e : Event) (r : TransitionResult) : Account :=
  { source := r.state
    passages := a.passages ++ [⟨a.source, e, r⟩]
    dispatched := a.dispatched + 1
    absorbed := if r.changed then a.absorbed else a.absorbed + 1 }

def Account.follow (a : Account) (s : Snapshot) : List Event → Account
  | [] => a
  | e :: es => (a.note e (transition s e)).follow (s.next e) es

theorem Account.follow_eq (a : Account) (s : Snapshot) (here : a.source = s.state)
    (es : List Event) :
    a.follow s es =
      { source := (s.after es).state
        passages := a.passages ++ s.passages es
        dispatched := a.dispatched + (s.passages es).length
        absorbed := a.absorbed + (s.passages es).countP fun p => !p.result.changed } := by
  induction es generalizing a s with
  | nil => simp [follow, Snapshot.passages, ← here]
  | cons e es ih =>
    rw [follow, ih (a.note e (transition s e)) (s.next e) rfl]
    cases changed : (transition s e).changed <;>
      simp [note, Snapshot.passages, here, changed, Nat.add_assoc, Nat.add_comm 1]

section

variable {m : Type → Type} [Monad m]

def Session.feed (keeper : Option (Keeper m)) (s : Session) (a : Account) :
    List Event → m (Except Failure Account × Session)
  | [] => pure (.ok a, s)
  | e :: es => do
    match ← s.ask keeper [.dispatch e] with
    | (.ok [.result r], s) => s.feed keeper (a.note e r) es
    | (.ok _, s) => pure (.error .sessionOver, s)
    | (.error failure, s) => pure (.error failure, s)

def Session.part (s : Session) (a : Account) :
    Except Failure (Account × Machine × List LogEntry) :=
  match (s.drop 0).join with
  | (.ok machine, s) => .ok (a, machine, s.log)
  | (.error failure, _) => .error failure

def conduct (keeper : Option (Keeper m)) (start : Snapshot) (events : List Event) :
    m (Except Failure (Account × Machine × List LogEntry)) := do
  match ← (Session.start (.resume start)).ask keeper [.snapshot] with
  | (.ok [.snapshot here], s) => do
    let (account, s) ← s.feed keeper ⟨here.state, [], 0, 0⟩ events
    pure (account.bind s.part)
  | (.ok _, _) => pure (.error .sessionOver)
  | (.error failure, _) => pure (.error failure)

end

variable {σ : Type} (keeper : Option (Keeper (StateM σ)))

namespace Session

def served (s : Session) (served : Served) : Session :=
  { s.wake.advance {} served with tickets := s.tickets + 1 }

theorem ask_single {s : Session} (working : s.isOpen) (empty : s.box = {}) (r : Request)
    (world : σ) :
    (s.ask keeper [r]).run world =
      let answer := (serve keeper s.machine r).run world
      ((.ok [answer.1.reply], s.served answer.1), answer.2) := by
  have taken_ : (s.wake.post r).box.take = some (⟨s.tickets, r⟩, {}) := by
    rw [post, wake_box, wake_tickets, empty]
    rfl
  have rest (answer : Served) : ((s.wake.post r).advance {} answer).box.take = none := rfl
  rw [ask_run keeper working, List.foldl_cons, List.foldl_nil, drain_letter keeper taken_]
  dsimp only
  rw [drain_empty keeper (rest _), post, wake_tickets]
  dsimp only
  rw [wake_machine]
  rfl

theorem feed_cons {s : Session} (working : s.isOpen) (empty : s.box = {}) (a : Account)
    (e : Event) (es : List Event) (world : σ) :
    (s.feed keeper a (e :: es)).run world =
      let handled := (s.machine.handle keeper e).run world
      ((s.served ⟨handled.1.machine, .result handled.1.result, handled.1.log⟩).feed keeper
        (a.note e handled.1.result) es).run handled.2 := by
  rw [feed, StateT.run_bind, ask_single keeper working empty]
  rfl

/-- A session that works, with nothing in its mailbox, is fed as a machine takes events. -/
theorem feed_run (s : Session) (working : s.phase = .working) (empty : s.box = {})
    (a : Account) (es : List Event) (world : σ) :
    (s.feed keeper a es).run world =
      let all := (takeAll keeper s.machine es).run world
      ((.ok (a.follow s.machine.snapshot es),
        { s with
          machine := all.1.2.1
          tickets := s.tickets + es.length
          log := s.log ++ all.1.2.2 }), all.2) := by
  induction es generalizing s a world with
  | nil =>
    obtain ⟨machine, box, handles, tickets, phase, log⟩ := s
    change _ = ((Except.ok a, Session.mk machine box handles tickets phase (log ++ [])), world)
    rw [List.append_nil]
    rfl
  | cons e es ih =>
    -- one request is served at once, and the session is as before but for what it has taken
    have awake : s.wake = s := by rw [wake, if_neg (by rw [working]; decide)]
    have works : s.isOpen = true := by rw [isOpen, working]; rfl
    rw [feed_cons keeper works empty, takeAll_cons]
    dsimp only
    generalize handled : (s.machine.handle keeper e).run world = h
    have machine : h.1.machine = (s.machine.dispatch e).machine := by rw [← handled]; rfl
    have result : h.1.result = transition s.machine.snapshot e := by rw [← handled]; rfl
    rw [ih _ (by rw [served, awake]; exact working) rfl]
    simp only [served, awake, advance, Account.follow, result, machine, List.length_cons,
      List.append_assoc, empty, Nat.add_assoc, Nat.add_comm 1]
    rfl

end Session

/-- A session that works and has been fed ends when its driver parts from it. -/
theorem Session.part_working {s : Session} (working : s.phase = .working)
    (only : s.handles = [true]) (a : Account) :
    s.part a = .ok (a, s.machine, s.log ++ [.sessionStopped s.machine.state]) := by
  obtain ⟨machine, box, handles, tickets, phase, log⟩ := s
  cases working
  cases only
  rfl

/-- A driver that has nothing but the replies keeps the account that `drive` gives. -/
theorem conduct_run (start : Snapshot) (es : List Event) (world : σ) :
    (conduct keeper start es).run world =
      let driven := (drive keeper start es).run world
      let report := driven.1
      (.ok (⟨report.snapshot.state, report.passages, report.dispatched, report.absorbed⟩,
        report.machine, report.log), driven.2) := by
  let s := (Session.start (.resume start)).served ⟨.resume start, .snapshot start, []⟩
  let all := (takeAll keeper (.resume start) es).run world
  let fed : Session :=
    { s with
      machine := all.1.2.1
      tickets := s.tickets + es.length
      log := s.log ++ all.1.2.2 }
  let account := (⟨start.state, [], 0, 0⟩ : Account).follow start es
  have asked : ((Session.start (.resume start)).ask keeper [.snapshot]).run world =
      ((.ok [.snapshot start], s), world) := Session.ask_single keeper rfl rfl .snapshot world
  have taken_ : (s.feed keeper ⟨start.state, [], 0, 0⟩ es).run world =
      ((.ok account, fed), all.2) := Session.feed_run keeper s rfl rfl _ es world
  have noted : account = ⟨(start.after es).state, start.passages es, (start.passages es).length,
      (start.passages es).countP fun p => !p.result.changed⟩ := by
    have followed := Account.follow_eq ⟨start.state, [], 0, 0⟩ start rfl es
    rwa [List.nil_append, Nat.zero_add, Nat.zero_add] at followed
  have parted : fed.part account = .ok (account, all.1.2.1,
      s.log ++ all.1.2.2 ++ [.sessionStopped all.1.2.1.state]) :=
    Session.part_working rfl rfl account
  rw [conduct, StateT.run_bind, asked]
  change StateT.run (m := Id) (s.feed keeper ⟨start.state, [], 0, 0⟩ es >>= fun fed =>
    pure (fed.1.bind fed.2.part)) world = _
  rw [StateT.run_bind, taken_]
  change (fed.part account, all.2) = _
  rw [parted, noted]
  simp only [Report.dispatched, Report.absorbed, drive_passages, drive_snapshot]
  rw [drive_run]
  rfl

end ControlPlane
