import ControlPlane.Proofs.Run.Course
import ControlPlane.Service.Session

/-!
# What the requests of a session are answered

A request is answered from the snapshot that it finds, and its event, if it brings
one, moves the run on. The requests of one `Session.ask` are answered one after the
other in the order in which they are made, also when they are more than the mailbox
has room for, and whether or not the snapshots can be saved.
-/

set_option autoImplicit false

namespace ControlPlane

namespace Request

def event? : Request → Option Event
  | dispatch e => some e
  | snapshot => none

def answer (s : Snapshot) : Request → Reply
  | dispatch e => .result (transition s e)
  | snapshot => .snapshot s

end Request

def eventsOf (letters : List Letter) : List Event := letters.filterMap (·.request.event?)

@[simp]
theorem eventsOf_append (ls ms : List Letter) :
    eventsOf (ls ++ ms) = eventsOf ls ++ eventsOf ms := List.filterMap_append

theorem eventsOf_cons (l : Letter) (ls : List Letter) :
    eventsOf (l :: ls) = l.request.event?.toList ++ eventsOf ls := by
  cases h : l.request.event? <;> simp [eventsOf, h]

theorem eventsOf_singleton (l : Letter) : eventsOf [l] = l.request.event?.toList := by
  rw [eventsOf_cons]
  exact List.append_nil _

def answers (s : Snapshot) : List Request → List Reply
  | [] => []
  | r :: rs => r.answer s :: answers (s.after r.event?.toList) rs

def deliveries (s : Snapshot) : List Letter → List (Nat × Reply)
  | [] => []
  | l :: ls => (l.ticket, l.request.answer s) :: deliveries (s.after l.request.event?.toList) ls

theorem deliveries_replies (s : Snapshot) (ls : List Letter) :
    (deliveries s ls).map Prod.snd = answers s (ls.map Letter.request) := by
  induction ls generalizing s with
  | nil => rfl
  | cons l ls ih => simp [deliveries, answers, ih]

section Serve

variable {σ : Type} (keeper : Option (Keeper (StateM σ))) (machine : Machine)

theorem serve_machine (r : Request) (world : σ) :
    ((serve keeper machine r).run world).1.machine = machine.after r.event?.toList := by
  cases r <;> rfl

theorem serve_reply (r : Request) (world : σ) :
    ((serve keeper machine r).run world).1.reply = r.answer machine.snapshot := by
  cases r <;> rfl

end Serve

namespace Mailbox

def Packed (box : Mailbox) : Prop := box.outside ≠ [] → capacity ≤ box.inside.length

theorem Packed.nobody_outside {box : Mailbox} (h : box.Packed)
    (room : box.inside.length < capacity) : box.outside = [] := by
  by_contra waiting
  have := h waiting
  omega

theorem Packed.post {box : Mailbox} (h : box.Packed) (l : Letter) : (box.post l).Packed := by
  unfold Mailbox.post
  split
  · intro waiting
    have := h waiting
    omega
  · intro
    change capacity ≤ box.inside.length
    omega

theorem post_letters {box : Mailbox} (h : box.Packed) (l : Letter) :
    (box.post l).letters = box.letters ++ [l] := by
  unfold Mailbox.post
  split
  case isTrue room => simp [letters, h.nobody_outside room]
  · simp [letters]

theorem Packed.take {box rest : Mailbox} {l : Letter} (h : box.Packed)
    (ht : box.take = some (l, rest)) : rest.Packed := by
  unfold Mailbox.take at ht
  split at ht
  · cases ht
  case h_2 first inside hi =>
    split at ht
    · cases ht
      intro waiting
      exact absurd rfl waiting
    case h_2 next outside ho =>
      cases ht
      intro
      have := h (by simp [ho])
      simpa [hi] using this

theorem take_letters {box rest : Mailbox} {l : Letter} (ht : box.take = some (l, rest)) :
    box.letters = l :: rest.letters := by
  unfold Mailbox.take at ht
  split at ht
  · cases ht
  case h_2 first inside hi =>
    split at ht
    all_goals
      cases ht
      simp [letters, *]

theorem take_inside {box rest : Mailbox} {l : Letter} (nobody : box.outside = [])
    (ht : box.take = some (l, rest)) : box.inside = l :: rest.inside ∧ rest.outside = [] := by
  unfold Mailbox.take at ht
  rw [nobody] at ht
  split at ht
  · cases ht
  case h_2 first inside hi =>
    cases ht
    exact ⟨hi, rfl⟩

theorem take_none {box : Mailbox} (h : box.Packed) (ht : box.take = none) :
    box.letters = [] := by
  unfold Mailbox.take at ht
  split at ht
  case h_1 hi =>
    have nobody : box.outside = [] := h.nobody_outside (by simp [hi, capacity])
    simp [letters, hi, nobody]
  · split at ht <;> cases ht

end Mailbox

namespace Session

variable {σ : Type} (keeper : Option (Keeper (StateM σ)))

theorem drain_empty {s : Session} (ht : s.box.take = none) (world : σ) :
    (s.drain keeper).run world = (([], s), world) := by
  rw [drain]
  split
  · rfl
  · simp_all

theorem drain_letter {s : Session} {l : Letter} {box : Mailbox}
    (ht : s.box.take = some (l, box)) (world : σ) :
    (s.drain keeper).run world =
      let served := (serve keeper s.machine l.request).run world
      let rest := ((s.advance box served.1).drain keeper).run served.2
      (((l.ticket, served.1.reply) :: rest.1.1, rest.1.2), rest.2) := by
  rw [drain]
  split
  · simp_all
  case h_2 l' box' ht' =>
    obtain ⟨rfl, rfl⟩ : l' = l ∧ box' = box := by simp_all
    rfl

/-- The letters are served in the order in which they lie in the mailbox. -/
theorem drain_deliveries {s : Session} (h : s.box.Packed) (world : σ) :
    ((s.drain keeper).run world).1.1 = deliveries s.machine.snapshot s.box.letters ∧
      ((s.drain keeper).run world).1.2.machine = s.machine.after (eventsOf s.box.letters) := by
  -- along the recursion of `drain`, which takes one letter at a time
  induction s using Session.drain.induct generalizing world with
  | case1 s ht =>
    rw [drain_empty keeper ht, Mailbox.take_none h ht]
    exact ⟨rfl, rfl⟩
  | case2 s l box ht ih =>
    have rest := ih ((serve keeper s.machine l.request).run world).1 (h.take ht)
      ((serve keeper s.machine l.request).run world).2
    simp only [advance_machine, advance_box, serve_machine, Machine.after_snapshot] at rest
    rw [drain_letter keeper ht, Mailbox.take_letters ht, deliveries, eventsOf_cons,
      Machine.after_append]
    constructor
    · dsimp only
      rw [serve_reply, rest.1]
    · exact rest.2

theorem posted {s : Session} (h : s.box.Packed) (requests : List Request) :
    (requests.foldl post s).box.Packed ∧ (requests.foldl post s).machine = s.machine ∧
      (requests.foldl post s).box.letters.map Letter.request =
        s.box.letters.map Letter.request ++ requests := by
  induction requests generalizing s with
  | nil => simp [h]
  | cons r rs ih =>
    have hp : (s.post r).box.Packed := h.post _
    rw [List.foldl_cons]
    refine ⟨(ih hp).1, (ih hp).2.1, ?_⟩
    rw [(ih hp).2.2, post, Mailbox.post_letters h]
    simp

theorem ask_run {s : Session} (working : s.isOpen) (requests : List Request) (world : σ) :
    (s.ask keeper requests).run world =
      let drained := ((requests.foldl post s.wake).drain keeper).run world
      ((.ok (drained.1.1.map (·.2)), drained.1.2), drained.2) := by
  rw [ask, if_pos working]
  rfl

/-- Requests that are made together are answered in turn, each from where the ones
before it have left the run. -/
theorem ask_answers {s : Session} (working : s.isOpen) (empty : s.box.letters = [])
    (requests : List Request) (world : σ) :
    ((s.ask keeper requests).run world).1.1 = .ok (answers s.machine.snapshot requests) := by
  have hp : s.wake.box.Packed := by
    simp_all [Mailbox.Packed, Mailbox.letters]
  obtain ⟨packed, machine, letters⟩ := posted hp requests
  have served := drain_deliveries keeper packed world
  rw [ask_run keeper working]
  dsimp only
  rw [served.1, deliveries_replies, letters, machine]
  simp [empty]

end Session

end ControlPlane
