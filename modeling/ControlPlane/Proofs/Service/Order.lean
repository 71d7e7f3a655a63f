import Mathlib.Data.List.Nodup
import ControlPlane.Proofs.Service.Traffic

/-!
# The order of service

However its clients, the run and the world take their steps, a service has served its
letters one at a time in the order of arrival: `Orderly` holds at the start and every
step keeps it.
-/

set_option autoImplicit false

namespace ControlPlane

def Answered (start : Snapshot) (entered : List Letter) (l : Letter) (r : Reply) : Prop :=
  ∃ before later, entered = before ++ l :: later ∧
    r = l.request.answer (start.after (eventsOf before))

theorem Answered.grow {start : Snapshot} {entered : List Letter} {l : Letter} {r : Reply}
    (h : Answered start entered l r) (more : List Letter) :
    Answered start (entered ++ more) l r := by
  obtain ⟨before, later, he, hr⟩ := h
  refine ⟨before, later ++ more, ?_, hr⟩
  rw [he, List.append_assoc, List.cons_append]

def Activity.awaited : Activity → List Letter
  | waiting l => [l]
  | _ => []

namespace Client

structure Sound (start : Snapshot) (entered : List Letter) (c : Client) : Prop where
  sent : c.sent.Sublist entered
  own : (c.heard.map Prod.fst ++ c.activity.awaited).Sublist c.sent
  right : ∀ l r, (l, r) ∈ c.heard → Answered start entered l r

theorem Sound.grow {start : Snapshot} {entered : List Letter} {c : Client}
    (h : c.Sound start entered) (more : List Letter) : c.Sound start (entered ++ more) where
  sent := h.sent.trans (List.sublist_append_left _ _)
  own := h.own
  right l r hl := (h.right l r hl).grow more

theorem fresh_sound (start : Snapshot) (entered : List Letter) (plan : List Request) :
    (fresh plan).Sound start entered where
  sent := List.nil_sublist _
  own := List.Sublist.refl _
  right _ _ h := absurd h List.not_mem_nil

theorem Sound.rest {start : Snapshot} {entered : List Letter} {c : Client}
    (h : c.Sound start entered) {a : Activity} (ha : a.awaited = []) (plan : List Request) :
    { c with plan, activity := a }.Sound start entered where
  sent := h.sent
  own := by
    rw [ha, List.append_nil]
    exact (List.sublist_append_left _ _).trans h.own
  right := h.right

theorem Sound.wait {start : Snapshot} {entered : List Letter} {c : Client}
    (h : c.Sound start entered) (l : Letter) :
    { c with activity := .waiting l, sent := c.sent ++ [l] }.Sound start (entered ++ [l]) where
  sent := h.sent.append (List.Sublist.refl _)
  own := ((List.sublist_append_left _ _).trans h.own).append (List.Sublist.refl _)
  right m r hm := (h.right m r hm).grow [l]

theorem Sound.hear {start : Snapshot} {entered : List Letter} {c : Client}
    (h : c.Sound start entered) {l : Letter} (waiting : c.activity = .waiting l) {r : Reply}
    (hr : Answered start entered l r) :
    { c with activity := .idle, heard := c.heard ++ [(l, r)] }.Sound start entered where
  sent := h.sent
  own := by
    have := h.own
    simpa [waiting, Activity.awaited] using this
  right m q hm := by
    rcases List.mem_append.mp hm with old | new
    · exact h.right m q old
    · cases List.mem_singleton.mp new
      exact hr

end Client

namespace Service

variable {σ : Type} {keeper : Option (Keeper (StateM σ))} {v w : Service σ} {start : Machine}

theorem client_set {cs : List Client} {i j : Nat} {c d : Client}
    (h : (cs.set i c)[j]? = some d) : j = i ∧ d = c ∨ j ≠ i ∧ cs[j]? = some d := by
  rw [List.getElem?_set] at h
  split at h
  case isTrue he =>
    split at h
    · cases h
      exact .inl ⟨he.symm, rfl⟩
    · cases h
  case isFalse hne => exact .inr ⟨fun he => hne he.symm, h⟩

theorem waits_set {v' : Service σ} {i j : Nat} {c : Client} {l : Letter}
    (hv : v'.clients = v.clients.set i c) (h : v'.Waits j l) :
    j = i ∧ c.activity = .waiting l ∨ j ≠ i ∧ v.Waits j l := by
  obtain ⟨d, hd, ha⟩ := h
  rw [hv] at hd
  rcases client_set hd with ⟨hj, rfl⟩ | ⟨hj, old⟩
  · exact .inl ⟨hj, ha⟩
  · exact .inr ⟨hj, d, old, ha⟩

/-- What is true of a service at all times. The run has taken the letters in the order
of arrival and the others are in the mailbox; the tickets count the letters; a reply on
its way answers the last letter taken. A client that calls or waits holds its handle,
its letter has not been forgotten, and nobody else waits for the same letter. A run that
has ended has left nothing behind. -/
structure Orderly (start : Machine) (v : Service σ) : Prop where
  machine : v.session.machine = start.after (eventsOf v.taken)
  inside : v.entered = v.taken ++ v.session.box.inside
  outside : v.session.box.outside = []
  tickets : v.entered.map Letter.ticket = List.range v.session.tickets
  ready : ∀ t r, v.ready = some (t, r) → ∃ before l, v.taken = before ++ [l] ∧ l.ticket = t ∧
    r = l.request.answer (start.snapshot.after (eventsOf before))
  handles : v.session.handles.length = v.clients.length
  sound : ∀ c ∈ v.clients, c.Sound start.snapshot v.entered
  busy : ∀ i c, v.clients[i]? = some c → c.activity ≠ .idle → v.Holds i
  due : ∀ i l, v.Waits i l → l ∈ v.session.box.inside ∨ ∃ r, v.ready = some (l.ticket, r)
  apart : ∀ i j l, v.Waits i l → v.Waits j l → i = j
  alive : v.session.phase ≠ .killed
  ended : v.session.phase = .ended →
    v.session.box.inside = [] ∧ v.ready = none ∧ v.session.held = 0

namespace Orderly

theorem opened (start : Machine) (plans : List (List Request)) (world : σ) :
    Orderly start (opened start plans world) := by
  have idle : ∀ (i : Nat) (c : Client), (Service.opened start plans world).clients[i]? = some c →
      ∃ plan, c = .fresh plan := by
    intro i c h
    simp only [Service.opened, List.getElem?_map, Option.map_eq_some_iff] at h
    obtain ⟨plan, -, rfl⟩ := h
    exact ⟨plan, rfl⟩
  have nobody : ∀ i l, ¬ (Service.opened start plans world).Waits i l := by
    rintro i l ⟨c, hc, ha⟩
    obtain ⟨plan, rfl⟩ := idle i c hc
    cases ha
  exact {
    machine := rfl
    inside := rfl
    outside := rfl
    tickets := rfl
    ready := fun t r h => by cases h
    handles := by simp [Service.opened]
    sound := fun c hc => by
      obtain ⟨i, hi⟩ := List.mem_iff_getElem?.mp hc
      obtain ⟨plan, rfl⟩ := idle i c hi
      exact Client.fresh_sound _ _ plan
    busy := fun i c hc ha => by
      obtain ⟨plan, rfl⟩ := idle i c hc
      exact absurd rfl ha
    due := fun i l h => absurd h (nobody i l)
    apart := fun i j l h => absurd h (nobody i l)
    alive := fun h => by cases h
    ended := fun h => by cases h }

theorem mem_entered (inv : Orderly start v) {i : Nat} {l : Letter} (h : v.Waits i l) :
    l ∈ v.entered := by
  obtain ⟨c, hc, ha⟩ := h
  have sound := inv.sound c (List.mem_of_getElem? hc)
  apply sound.sent.subset
  apply sound.own.subset
  simp [ha, Activity.awaited]

theorem ticket_lt (inv : Orderly start v) {l : Letter} (h : l ∈ v.entered) :
    l.ticket < v.session.tickets := by
  have := List.mem_map_of_mem (f := Letter.ticket) h
  rwa [inv.tickets, List.mem_range] at this

/-- Nobody waits yet for the next letter. -/
theorem new_letter (inv : Orderly start v) (i : Nat) (r : Request) :
    ¬ v.Waits i ⟨v.session.tickets, r⟩ := by
  intro h
  exact Nat.lt_irrefl _ (inv.ticket_lt (inv.mem_entered h))

theorem tickets_nodup (inv : Orderly start v) : (v.entered.map Letter.ticket).Nodup := by
  rw [inv.tickets]
  exact List.nodup_range

theorem same_letter (inv : Orderly start v) {l m : Letter} (hl : l ∈ v.entered)
    (hm : m ∈ v.entered) (h : l.ticket = m.ticket) : l = m :=
  List.inj_on_of_nodup_map inv.tickets_nodup hl hm h

theorem ready_answered (inv : Orderly start v) {t : Nat} {r : Reply}
    (h : v.ready = some (t, r)) :
    ∃ l ∈ v.entered, l.ticket = t ∧ Answered start.snapshot v.entered l r := by
  obtain ⟨before, l, ht, hl, hr⟩ := inv.ready t r h
  have he : v.entered = before ++ l :: v.session.box.inside := by
    rw [inv.inside, ht, List.append_assoc, List.singleton_append]
  refine ⟨l, ?_, hl, before, _, he, hr⟩
  rw [he]
  exact List.mem_append_right _ List.mem_cons_self

theorem not_ended (inv : Orderly start v) {i : Nat} (h : v.Holds i) :
    v.session.phase ≠ .ended := by
  intro he
  have unheld : v.session.held = 0 := (inv.ended he).2.2
  exact List.count_eq_zero.mp unheld (List.mem_of_getElem? h)

/-- A change of the session that leaves the machine, the letters and the handles. -/
theorem resession (inv : Orderly start v) (s : Session) (machine : s.machine = v.session.machine)
    (box : s.box = v.session.box) (handles : s.handles = v.session.handles)
    (tickets : s.tickets = v.session.tickets) (alive : s.phase ≠ .killed)
    (ended : s.phase = .ended →
      v.session.box.inside = [] ∧ v.ready = none ∧ v.session.held = 0) :
    Orderly start { v with session := s } where
  machine := machine.trans inv.machine
  inside := by
    rw [box]
    exact inv.inside
  outside := by
    rw [box]
    exact inv.outside
  tickets := by
    rw [tickets]
    exact inv.tickets
  ready := inv.ready
  handles := by
    rw [handles]
    exact inv.handles
  sound := inv.sound
  busy i c hc ha := by
    rw [Holds, handles]
    exact inv.busy i c hc ha
  due i l h := by
    rw [box]
    exact inv.due i l h
  apart := inv.apart
  alive := alive
  ended he := by
    rw [box, Session.held, handles]
    exact ended he

theorem wake (inv : Orderly start v) : Orderly start { v with session := v.session.wake } := by
  apply inv.resession _ (by simp) (by simp) (by simp) (by simp)
  · rw [Session.wake_phase]
    split
    · exact fun h => by cases h
    · exact inv.alive
  · intro he
    rw [Session.wake_phase] at he
    split at he
    · cases he
    · exact inv.ended he

theorem finish (inv : Orderly start v) (works : v.session.phase = .working)
    (quiet : v.ready = none) (empty : v.session.box.take = none) (alone : v.session.held = 0) :
    Orderly start { v with session := v.session.finish } := by
  apply inv.resession _ (by simp) (by simp) (by simp) (by simp)
  · rw [Session.finish_phase works]
    exact fun h => by cases h
  · intro
    have packed : v.session.box.Packed := fun h => absurd inv.outside h
    have noLetters := Mailbox.take_none packed empty
    exact ⟨(List.append_eq_nil_iff.mp noLetters).1, quiet, alone⟩

/-- A client turns to something else than waiting for a letter. -/
theorem turn (inv : Orderly start v) {i : Nat} {c : Client}
    (sound : c.Sound start.snapshot v.entered) (calm : ∀ l, c.activity ≠ .waiting l)
    (busy : c.activity ≠ .idle → v.Holds i) :
    Orderly start { v with clients := v.clients.set i c } := by
  have waits : ∀ j l, { v with clients := v.clients.set i c }.Waits j l → v.Waits j l := by
    intro j l h
    rcases waits_set rfl h with ⟨-, ha⟩ | ⟨-, hw⟩
    · exact absurd ha (calm l)
    · exact hw
  exact { inv with
    handles := by simpa using inv.handles
    sound := fun d hd => by
      rcases List.mem_or_eq_of_mem_set hd with old | rfl
      · exact inv.sound d old
      · exact sound
    busy := fun j d hd ha => by
      rcases client_set hd with ⟨rfl, rfl⟩ | ⟨-, old⟩
      · exact busy ha
      · exact inv.busy j d old ha
    due := fun j l h => inv.due j l (waits j l h)
    apart := fun j k l hj hk => inv.apart j k l (waits j l hj) (waits k l hk) }

theorem lose (inv : Orderly start v) {t : Nat} {r : Reply} (ready : v.ready = some (t, r))
    (nobody : ∀ i l, v.Waits i l → l.ticket ≠ t) : Orderly start { v with ready := none } :=
  { inv with
    ready := fun _ _ h => by cases h
    due := fun i l h => by
      rcases inv.due i l h with inside | ⟨q, hq⟩
      · exact .inl inside
      · rw [ready] at hq
        cases hq
        exact absurd rfl (nobody i l h)
    ended := fun he => by
      have := (inv.ended he).2.1
      rw [ready] at this
      cases this }

/-- The client that hears a reply was the only one to wait for it. -/
theorem reply (inv : Orderly start v) {i : Nat} {c : Client} {l : Letter} {r : Reply}
    (client : v.clients[i]? = some c) (waiting : c.activity = .waiting l)
    (ready : v.ready = some (l.ticket, r)) :
    Orderly start
      { v with
        clients := v.clients.set i { c with activity := .idle, heard := c.heard ++ [(l, r)] }
        ready := none } := by
  have own : v.Waits i l := ⟨c, client, waiting⟩
  obtain ⟨m, hm, ht, right⟩ := inv.ready_answered ready
  obtain rfl : m = l := inv.same_letter hm (inv.mem_entered own) ht
  have sound := (inv.sound c (List.mem_of_getElem? client)).hear waiting right
  refine (inv.turn sound (fun _ h => by cases h) (fun h => absurd rfl h)).lose ready ?_
  intro j n h ht
  rcases waits_set rfl h with ⟨-, ha⟩ | ⟨hj, hw⟩
  · cases ha
  · have : n = m := inv.same_letter (inv.mem_entered hw) hm ht
    rw [this] at hw
    exact hj (inv.apart j i m hw own)

theorem enter (inv : Orderly start v) {i : Nat} {c : Client} {r : Request}
    (client : v.clients[i]? = some c) (calling : c.activity = .calling r)
    (room : v.session.box.inside.length < Mailbox.capacity) :
    Orderly start
      { v with
        session := v.session.post r
        clients := v.clients.set i
          { c with
            activity := .waiting ⟨v.session.tickets, r⟩
            sent := c.sent ++ [⟨v.session.tickets, r⟩] }
        entered := v.entered ++ [⟨v.session.tickets, r⟩] } := by
  have holds : v.Holds i := inv.busy i c client (by simp [calling])
  have inside : (v.session.post r).box.inside =
      v.session.box.inside ++ [⟨v.session.tickets, r⟩] := by
    simp [Session.post, Mailbox.post, room]
  have outside : (v.session.post r).box.outside = v.session.box.outside := by
    simp [Session.post, Mailbox.post, room]
  constructor
  case machine => exact inv.machine
  case inside => rw [inside, inv.inside, List.append_assoc]
  case outside => exact outside.trans inv.outside
  case tickets =>
    rw [List.map_append, inv.tickets]
    exact List.range_succ.symm
  case ready => exact inv.ready
  case handles =>
    rw [List.length_set]
    exact inv.handles
  case sound =>
    intro d hd
    rcases List.mem_or_eq_of_mem_set hd with old | rfl
    · exact (inv.sound d old).grow _
    · exact (inv.sound c (List.mem_of_getElem? client)).wait _
  case busy =>
    intro j d hd ha
    rcases client_set hd with ⟨rfl, -⟩ | ⟨-, old⟩
    · exact holds
    · exact inv.busy j d old ha
  case due =>
    intro j l h
    rw [inside]
    rcases waits_set rfl h with ⟨-, ha⟩ | ⟨-, hw⟩
    · cases ha
      exact .inl (List.mem_append_right _ List.mem_cons_self)
    · exact (inv.due j l hw).imp_left (List.mem_append_left _)
  case apart =>
    intro j k l hj hk
    rcases waits_set rfl hj with ⟨hji, hl⟩ | ⟨-, oldj⟩
    · rcases waits_set rfl hk with ⟨hki, -⟩ | ⟨-, oldk⟩
      · rw [hji, hki]
      · cases hl
        exact absurd oldk (inv.new_letter k r)
    · rcases waits_set rfl hk with ⟨-, hl⟩ | ⟨-, oldk⟩
      · cases hl
        exact absurd oldj (inv.new_letter j r)
      · exact inv.apart j k l oldj oldk
  case alive => exact inv.alive
  case ended =>
    intro he
    exact absurd he (inv.not_ended holds)

theorem process (inv : Orderly start v) {l : Letter} {box : Mailbox}
    (works : v.session.phase = .working) (quiet : v.ready = none)
    (first : v.session.box.take = some (l, box)) {served : Served} (world : σ)
    (machine : served.machine = v.session.machine.after l.request.event?.toList)
    (reply : served.reply = l.request.answer v.session.machine.snapshot) :
    Orderly start
      { v with
        session := v.session.advance box served
        ready := some (l.ticket, served.reply)
        world
        taken := v.taken ++ [l] } := by
  obtain ⟨inside, outside⟩ := Mailbox.take_inside inv.outside first
  constructor
  case machine =>
    rw [eventsOf_append, eventsOf_singleton, Machine.after_append, ← inv.machine]
    exact machine
  case inside =>
    rw [Session.advance_box, inv.inside, inside, List.append_assoc]
    rfl
  case outside => exact outside
  case tickets => exact inv.tickets
  case ready =>
    intro t r h
    cases h
    refine ⟨v.taken, l, rfl, rfl, ?_⟩
    rw [reply, inv.machine, Machine.after_snapshot]
  case handles => exact inv.handles
  case sound => exact inv.sound
  case busy => exact inv.busy
  case due =>
    -- whoever waited for this letter waits for the reply from now on
    intro i m h
    rcases inv.due i m h with waiting | ⟨r, hr⟩
    · rw [inside] at waiting
      rcases List.mem_cons.mp waiting with rfl | later
      · exact .inr ⟨_, rfl⟩
      · exact .inl later
    · rw [quiet] at hr
      cases hr
  case apart => exact inv.apart
  case alive => exact inv.alive
  case ended =>
    intro he
    rw [Session.advance, works] at he
    cases he

theorem clone (inv : Orderly start v) {i : Nat} (plan : List Request) (holds : v.Holds i) :
    Orderly start
      { v with session := v.session.clone.2, clients := v.clients ++ [.fresh plan] } := by
  have old : ∀ (j : Nat) (c : Client), (v.clients ++ [.fresh plan])[j]? = some c →
      c.activity ≠ .idle → v.clients[j]? = some c := by
    intro j c hc ha
    rw [List.getElem?_append] at hc
    split at hc
    · exact hc
    · have := List.mem_of_getElem? hc
      rw [List.mem_singleton] at this
      rw [this] at ha
      exact absurd rfl ha
  have waits : ∀ j l, { v with clients := v.clients ++ [Client.fresh plan] }.Waits j l →
      v.Waits j l := by
    rintro j l ⟨c, hc, ha⟩
    exact ⟨c, old j c hc (by simp [ha]), ha⟩
  exact { inv with
    handles := by simpa [Session.clone] using inv.handles
    sound := fun c hc => by
      rcases List.mem_append.mp hc with hold | new
      · exact inv.sound c hold
      · rw [List.mem_singleton.mp new]
        exact Client.fresh_sound _ _ plan
    busy := fun j c hc ha => by
      have := inv.busy j c (old j c hc ha) ha
      have lt := (List.getElem?_eq_some_iff.mp this).1
      simp only [Holds, Session.clone]
      rwa [List.getElem?_append_left lt]
    due := fun j l h => inv.due j l (waits j l h)
    apart := fun j k l hj hk => inv.apart j k l (waits j l hj) (waits k l hk)
    ended := fun he => absurd he (inv.not_ended holds) }

theorem drop (inv : Orderly start v) {i : Nat} {c : Client} (client : v.clients[i]? = some c)
    (free : c.activity = .idle) : Orderly start { v with session := v.session.drop i } :=
  { inv with
    handles := by simpa [Session.drop] using inv.handles
    busy := fun j d hd ha => by
      have hne : i ≠ j := by
        rintro rfl
        rw [client] at hd
        cases hd
        exact ha free
      simp only [Holds, Session.drop]
      rw [List.getElem?_set_ne hne]
      exact inv.busy j d hd ha
    ended := fun he => by
      obtain ⟨inside, quiet, alone⟩ := inv.ended he
      refine ⟨inside, quiet, List.count_eq_zero.mpr fun held => ?_⟩
      rcases List.mem_or_eq_of_mem_set held with old | new
      · exact List.count_eq_zero.mp alone old
      · cases new }

theorem step (inv : Orderly start v) (h : Step keeper v w) : Orderly start w := by
  cases h with
  | wake => exact inv.wake
  | call client holds free next =>
    exact inv.turn ((inv.sound _ (List.mem_of_getElem? client)).rest rfl _)
      (fun _ h => by cases h) (fun _ => holds)
  | enter client calling room => exact inv.enter client calling room
  | process works quiet first =>
    exact inv.process works quiet first _ (serve_machine _ _ _ _) (serve_reply _ _ _ _)
  | reply client waiting ready => exact inv.reply client waiting ready
  | lose ready nobody => exact inv.lose ready nobody
  | giveUp client =>
    exact inv.turn ((inv.sound _ (List.mem_of_getElem? client)).rest rfl _)
      (fun _ h => by cases h) (fun h => absurd rfl h)
  | clone plan holds => exact inv.clone plan holds
  | drop client free => exact inv.drop client free
  | finish works quiet empty alone => exact inv.finish works quiet empty alone
  | elsewhere => exact { inv with }

theorem run (inv : Orderly start v) (h : Reaches keeper v w) : Orderly start w := by
  induction h with
  | refl => exact inv
  | tail _ last ih => exact ih.step last

end Orderly

end Service

end ControlPlane
