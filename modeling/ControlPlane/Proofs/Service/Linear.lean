import ControlPlane.Proofs.Service.Order

/-!
# A service is a sequence of answers

The clients of a service cannot tell it from one that answers each request at the
moment in which its letter enters the mailbox. No letter is lost or served twice,
whether or not its sender still waits for the reply, and the run can always come to
its end once no handle is held.
-/

set_option autoImplicit false

namespace ControlPlane

namespace Service

variable {σ : Type} {keeper : Option (Keeper (StateM σ))} {v : Service σ} {start : Machine}

theorem ended_taken (inv : Orderly start v) (ended : v.session.phase = .ended) :
    v.taken = v.entered := by
  rw [inv.inside, (inv.ended ended).1, List.append_nil]

theorem nobody_waits (inv : Orderly start v) (alone : v.session.held = 0) (i : Nat)
    (l : Letter) : ¬ v.Waits i l := by
  rintro ⟨c, hc, ha⟩
  have holds : v.Holds i := inv.busy i c hc (by simp [ha])
  exact List.count_eq_zero.mp alone (List.mem_of_getElem? holds)

/-- A run that works, without handles and with no reply on its way, serves what is left in
the mailbox and ends. -/
theorem working_ends (inv : Orderly start v) (alone : v.session.held = 0)
    (works : v.session.phase = .working) (quiet : v.ready = none) :
    ∃ w, Reaches keeper v w ∧ w.session.phase = .ended ∧ w.entered = v.entered := by
  induction hn : v.session.box.inside generalizing v with
  | nil =>
    have empty : v.session.box.take = none := by simp [Mailbox.take, hn]
    exact ⟨_, .single (.finish works quiet empty alone), Session.finish_phase works, rfl⟩
  | cons l rest ih =>
    have first : v.session.box.take = some (l, ⟨rest, []⟩) := by
      simp [Mailbox.take, hn, inv.outside]
    -- Each letter takes two steps: it is served, and then nobody waits for the reply.
    have served : Step keeper v _ := .process works quiet first
    have lost : Step keeper _ _ := .lose rfl
      fun i m h => absurd h (nobody_waits (inv.step served) alone i m)
    obtain ⟨w, reached, ended, entered⟩ :=
      ih ((inv.step served).step lost) alone works rfl rfl
    exact ⟨w, .head served (.head lost reached), ended, entered⟩

/-- Once no handle is held, a run can come to its end from wherever it is, and then it has
taken every letter that had entered the mailbox. -/
theorem ends (inv : Orderly start v) (alone : v.session.held = 0) :
    ∃ w, Reaches keeper v w ∧ w.session.phase = .ended ∧ w.taken = v.entered := by
  by_cases done : v.session.phase = .ended
  · exact ⟨v, .refl, done, ended_taken inv done⟩
  · have works : v.session.wake.phase = .working := by
      rw [Session.wake_phase]
      have := inv.alive
      cases h : v.session.phase <;> simp_all
    have woken : Step keeper v _ := .wake v
    have held : v.session.wake.held = 0 := by rwa [Session.held, Session.wake_handles]
    -- A reply that is still on its way is lost first, as no client is left to hear it.
    obtain ⟨u, reached, phase, unheld, quiet, entered⟩ : ∃ u, Reaches keeper v u ∧
        u.session.phase = .working ∧ u.session.held = 0 ∧ u.ready = none ∧
        u.entered = v.entered := by
      cases hr : v.ready with
      | none => exact ⟨_, .single woken, works, held, hr, rfl⟩
      | some sent =>
        have lost : Step keeper { v with session := v.session.wake } _ :=
          .lose hr fun i l h => absurd h (nobody_waits inv.wake held i l)
        exact ⟨_, .head woken (.single lost), works, held, rfl, rfl⟩
    obtain ⟨w, rest, ended, same⟩ := working_ends (inv.run reached) unheld phase quiet
    have all := ended_taken ((inv.run reached).run rest) ended
    exact ⟨w, reached.trans rest, ended, by rw [all, same, entered]⟩

/-- Whatever steps a service has taken, its run is where the events taken in the order of
arrival have led it, each letter taken once, and a run that has ended has taken them all.
No client waits for a letter that has been forgotten, and a client has heard for each of
its own letters at most one reply, which is the answer to that letter at its place among
the letters that have entered. -/
theorem linearized (keeper : Option (Keeper (StateM σ))) (start : Machine)
    (plans : List (List Request)) (world : σ) (v : Service σ)
    (reached : Reaches keeper (opened start plans world) v) :
    v.session.machine.snapshot = start.snapshot.after (eventsOf v.taken) ∧
    v.taken <+: v.entered ∧
    (v.entered.map Letter.ticket).Nodup ∧
    (v.session.phase = .ended → v.taken = v.entered) ∧
    (∀ i l, v.Waits i l → l ∈ v.session.box.inside ∨ ∃ r, v.ready = some (l.ticket, r)) ∧
    ∀ c ∈ v.clients, c.sent.Sublist v.entered ∧ (c.heard.map Prod.fst).Sublist c.sent ∧
      ∀ l r, (l, r) ∈ c.heard → ∃ before later, v.entered = before ++ l :: later ∧
        r = l.request.answer (start.snapshot.after (eventsOf before)) := by
  have inv : Orderly start v := (Orderly.opened start plans world).run reached
  refine ⟨?_, ⟨_, inv.inside.symm⟩, inv.tickets_nodup, ended_taken inv, inv.due, ?_⟩
  · rw [inv.machine, Machine.after_snapshot]
  · intro c hc
    have sound := inv.sound c hc
    exact ⟨sound.sent, (List.sublist_append_left _ _).trans sound.own, sound.right⟩

/-- A client that sends an event, stops waiting and gives up its handle, and another one
that asks for the snapshot: the event has been taken when the run has ended, and only the
other client has heard of anything. -/
theorem linearized_abandoned : ∃ v : Service Unit,
    Reaches none (opened (.resume ⟨.boot, {}⟩) [[.dispatch .boot], [.snapshot]] ()) v ∧
      v.session.phase = .ended ∧ v.taken = v.entered ∧ v.entered.length = 2 ∧
      v.clients.map (·.heard.length) = [0, 1] := by
  have run : ∃ v : Service Unit,
      Reaches none (opened (.resume ⟨.boot, {}⟩) [[.dispatch .boot], [.snapshot]] ()) v ∧
        v.session.phase = .ended ∧ v.entered.length = 2 ∧
        v.clients.map (·.heard.length) = [0, 1] :=
    ⟨_,
      .head (.call (i := 0) rfl rfl rfl rfl) <|
      .head (.enter (i := 0) rfl rfl (by decide)) <|
      .head (.giveUp (i := 0) rfl) <|
      .head (.drop (i := 0) rfl rfl) <|
      .head (.call (i := 1) rfl rfl rfl rfl) <|
      .head (.enter (i := 1) rfl rfl (by decide)) <|
      .head (.wake _) <|
      .head (.process rfl rfl rfl) <|
      .head (.lose rfl (by
        rintro (_ | _ | i) l ⟨c, hc, ha⟩ <;> cases hc <;> cases ha
        decide)) <|
      .head (.process rfl rfl rfl) <|
      .head (.reply (i := 1) rfl rfl rfl) <|
      .head (.drop (i := 1) rfl rfl) <|
      .head (.finish rfl rfl rfl rfl) .refl, rfl, rfl, rfl⟩
  obtain ⟨v, reached, ended, counts⟩ := run
  exact ⟨v, reached, ended, (linearized none _ _ () v reached).2.2.2.1 ended, counts⟩

end Service

end ControlPlane
