import ControlPlane.Run.Machine

/-!
# The mailbox of a run

Clients of a run send their requests to one mailbox, which the run empties in the
order of arrival. The mailbox has room for sixty-four letters. A letter for which
there is no room waits outside and moves in when one has been taken out, again in
the order of arrival, so that no letter is lost and none overtakes another.
-/

set_option autoImplicit false

namespace ControlPlane

inductive Request where
  | dispatch (event : Event)
  | snapshot

inductive Reply where
  | result (r : TransitionResult)
  | snapshot (s : Snapshot)

structure Letter where
  ticket : Nat
  request : Request

structure Mailbox where
  inside : List Letter := []
  outside : List Letter := []

namespace Mailbox

def capacity : Nat := 64

def post (box : Mailbox) (l : Letter) : Mailbox :=
  if box.inside.length < capacity then { box with inside := box.inside ++ [l] }
  else { box with outside := box.outside ++ [l] }

def take (box : Mailbox) : Option (Letter × Mailbox) :=
  match box.inside with
  | [] => none
  | l :: inside =>
    match box.outside with
    | [] => some (l, ⟨inside, []⟩)
    | next :: outside => some (l, ⟨inside ++ [next], outside⟩)

def letters (box : Mailbox) : List Letter := box.inside ++ box.outside

def size (box : Mailbox) : Nat := box.inside.length + box.outside.length

theorem size_take (box : Mailbox) (l : Letter) (rest : Mailbox) (h : box.take = some (l, rest)) :
    rest.size < box.size := by
  unfold take at h
  split at h
  · simp at h
  · split at h <;> simp_all [size] <;> obtain ⟨rfl, rfl⟩ := h <;> simp

end Mailbox

structure Keeper (m : Type → Type) where
  path : String
  save : Snapshot → m Bool

namespace Keeper

variable {m : Type → Type} [Monad m]

def keep (keeper : Option (Keeper m)) (changed : Bool) (s : Snapshot) : m (List LogEntry) :=
  match keeper with
  | some k =>
    if changed then do
      if ← k.save s then pure [] else pure [.snapshotNotPersisted k.path]
    else pure []
  | none => pure []

end Keeper

structure Served where
  machine : Machine
  reply : Reply
  log : List LogEntry

section

variable {m : Type → Type} [Monad m]

def Machine.handle (keeper : Option (Keeper m)) (machine : Machine) (e : Event) :
    m Dispatched := do
  let d := machine.dispatch e
  let complaints ← Keeper.keep keeper d.result.changed d.machine.snapshot
  pure { d with log := d.log ++ complaints }

def serve (keeper : Option (Keeper m)) (machine : Machine) : Request → m Served
  | .snapshot => pure ⟨machine, .snapshot machine.snapshot, []⟩
  | .dispatch e => do
    let d ← machine.handle keeper e
    pure ⟨d.machine, .result d.result, d.log⟩

end

end ControlPlane
