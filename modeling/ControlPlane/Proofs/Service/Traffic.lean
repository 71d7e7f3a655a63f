import Mathlib.Logic.Relation
import ControlPlane.Proofs.Service.Serving

/-!
# A run among its clients

A service is a session together with its clients and with the reply that is on its
way between them. Everyone acts in small steps that may come in any order: a client
calls, its letter enters the mailbox when there is room, the run serves the first
letter, the reply goes out, and a client may stop waiting at any time. Which of the
clients that wait for room comes first is left open, and so is what happens outside
to the world in which the snapshots are saved.

Two records are kept that no step reads: the letters that have entered the mailbox
and those that the run has taken out of it.
-/

set_option autoImplicit false

namespace ControlPlane

inductive Activity where
  | idle
  | calling (request : Request)
  | waiting (letter : Letter)

structure Client where
  plan : List Request
  activity : Activity := .idle
  sent : List Letter := []
  heard : List (Letter × Reply) := []

def Client.fresh (plan : List Request) : Client := { plan }

/-- A client has the number of its handle. -/
structure Service (σ : Type) where
  session : Session
  clients : List Client
  /-- A reply on its way, and the ticket under which it goes out. -/
  ready : Option (Nat × Reply) := none
  world : σ
  entered : List Letter := []
  taken : List Letter := []

namespace Service

variable {σ : Type}

def opened (machine : Machine) (plans : List (List Request)) (world : σ) : Service σ where
  session := { Session.start machine with handles := plans.map fun _ => true }
  clients := plans.map Client.fresh
  world

def Holds (v : Service σ) (i : Nat) : Prop := v.session.handles[i]? = some true

def Waits (v : Service σ) (i : Nat) (l : Letter) : Prop :=
  ∃ c, v.clients[i]? = some c ∧ c.activity = .waiting l

inductive Step (keeper : Option (Keeper (StateM σ))) : Service σ → Service σ → Prop where
  | wake (v : Service σ) : Step keeper v { v with session := v.session.wake }
  | call {v : Service σ} {i : Nat} {c : Client} {r : Request} {plan : List Request}
      (client : v.clients[i]? = some c) (holds : v.Holds i) (free : c.activity = .idle)
      (next : c.plan = r :: plan) :
      Step keeper v { v with clients := v.clients.set i { c with plan, activity := .calling r } }
  | enter {v : Service σ} {i : Nat} {c : Client} {r : Request}
      (client : v.clients[i]? = some c) (calling : c.activity = .calling r)
      (room : v.session.box.inside.length < Mailbox.capacity) :
      Step keeper v
        { v with
          session := v.session.post r
          clients := v.clients.set i
            { c with
              activity := .waiting ⟨v.session.tickets, r⟩
              sent := c.sent ++ [⟨v.session.tickets, r⟩] }
          entered := v.entered ++ [⟨v.session.tickets, r⟩] }
  | process {v : Service σ} {l : Letter} {box : Mailbox} (works : v.session.phase = .working)
      (quiet : v.ready = none) (first : v.session.box.take = some (l, box)) :
      Step keeper v
        { v with
          session := v.session.advance box
            ((serve keeper v.session.machine l.request).run v.world).1
          ready := some
            (l.ticket, ((serve keeper v.session.machine l.request).run v.world).1.reply)
          world := ((serve keeper v.session.machine l.request).run v.world).2
          taken := v.taken ++ [l] }
  | reply {v : Service σ} {i : Nat} {c : Client} {l : Letter} {r : Reply}
      (client : v.clients[i]? = some c) (waiting : c.activity = .waiting l)
      (ready : v.ready = some (l.ticket, r)) :
      Step keeper v
        { v with
          clients := v.clients.set i { c with activity := .idle, heard := c.heard ++ [(l, r)] }
          ready := none }
  /-- Nobody waits for the reply any more. -/
  | lose {v : Service σ} {t : Nat} {r : Reply} (ready : v.ready = some (t, r))
      (nobody : ∀ i l, v.Waits i l → l.ticket ≠ t) : Step keeper v { v with ready := none }
  | giveUp {v : Service σ} {i : Nat} {c : Client} (client : v.clients[i]? = some c) :
      Step keeper v { v with clients := v.clients.set i { c with activity := .idle } }
  | clone {v : Service σ} {i : Nat} (plan : List Request) (holds : v.Holds i) :
      Step keeper v
        { v with session := v.session.clone.2, clients := v.clients ++ [.fresh plan] }
  | drop {v : Service σ} {i : Nat} {c : Client} (client : v.clients[i]? = some c)
      (free : c.activity = .idle) : Step keeper v { v with session := v.session.drop i }
  | finish {v : Service σ} (works : v.session.phase = .working) (quiet : v.ready = none)
      (empty : v.session.box.take = none) (alone : v.session.held = 0) :
      Step keeper v { v with session := v.session.finish }
  | elsewhere (v : Service σ) (world : σ) : Step keeper v { v with world }

def Reaches (keeper : Option (Keeper (StateM σ))) : Service σ → Service σ → Prop :=
  Relation.ReflTransGen (Step keeper)

end Service

end ControlPlane
