import ControlPlane.Service.Mailbox
import ControlPlane.Storage.FileSystem

/-!
# A run at the service of several clients

A session owns the machine of one run. Clients hold handles to it and may hand out
further ones. The run starts to work with the first request, ends when the last
handle is given up, and may be killed before that; then every request is refused.
-/

set_option autoImplicit false

namespace ControlPlane

inductive Phase where
  | idle
  | working
  | ended
  | killed
  deriving DecidableEq

structure Session where
  machine : Machine
  box : Mailbox := {}
  /-- For each handle ever given out whether it is still held. -/
  handles : List Bool := [true]
  tickets : Nat := 0
  phase : Phase := .idle
  log : List LogEntry := []

namespace Session

def start (machine : Machine) : Session := { machine }

def held (s : Session) : Nat := s.handles.count true

def clone (s : Session) : Nat × Session :=
  (s.handles.length, { s with handles := s.handles ++ [true] })

def drop (s : Session) (handle : Nat) : Session :=
  { s with handles := s.handles.set handle false }

def wake (s : Session) : Session :=
  if s.phase = .idle then
    { s with phase := .working, log := s.log ++ [.sessionStarted s.machine.state] }
  else s

@[simp]
theorem wake_machine (s : Session) : s.wake.machine = s.machine := by
  unfold wake
  split <;> rfl

@[simp]
theorem wake_box (s : Session) : s.wake.box = s.box := by
  unfold wake
  split <;> rfl

@[simp]
theorem wake_handles (s : Session) : s.wake.handles = s.handles := by
  unfold wake
  split <;> rfl

@[simp]
theorem wake_tickets (s : Session) : s.wake.tickets = s.tickets := by
  unfold wake
  split <;> rfl

theorem wake_phase (s : Session) :
    s.wake.phase = if s.phase = .idle then .working else s.phase := by
  unfold wake
  split <;> rfl

def isOpen (s : Session) : Bool := s.phase = .idle || s.phase = .working

def post (s : Session) (request : Request) : Session :=
  { s with box := s.box.post ⟨s.tickets, request⟩, tickets := s.tickets + 1 }

def kill (s : Session) : Session :=
  if s.phase = .ended then s else { s with phase := .killed }

/-- With the last handle gone the run ends, after it has begun if it had not. -/
def finish (s : Session) : Session :=
  if s.isOpen then
    let s := s.wake
    { s with phase := .ended, log := s.log ++ [.sessionStopped s.machine.state] }
  else s

def advance (s : Session) (box : Mailbox) (served : Served) : Session :=
  { s with machine := served.machine, box, log := s.log ++ served.log }

@[simp]
theorem finish_machine (s : Session) : s.finish.machine = s.machine := by
  unfold finish
  split <;> simp

@[simp]
theorem finish_box (s : Session) : s.finish.box = s.box := by
  unfold finish
  split <;> simp

@[simp]
theorem finish_handles (s : Session) : s.finish.handles = s.handles := by
  unfold finish
  split <;> simp

@[simp]
theorem finish_tickets (s : Session) : s.finish.tickets = s.tickets := by
  unfold finish
  split <;> simp

theorem finish_phase {s : Session} (h : s.phase = .working) : s.finish.phase = .ended := by
  simp [finish, isOpen, h]

@[simp]
theorem advance_machine (s : Session) (box : Mailbox) (served : Served) :
    (s.advance box served).machine = served.machine := rfl

@[simp]
theorem advance_box (s : Session) (box : Mailbox) (served : Served) :
    (s.advance box served).box = box := rfl

def join (s : Session) : Except Failure Machine × Session :=
  let s := if s.held = 0 then s.finish else s
  if s.phase = .ended then (.ok s.machine, s) else (.error .killed, s)

section

variable {m : Type → Type} [Monad m]

def drain (keeper : Option (Keeper m)) (s : Session) : m (List (Nat × Reply) × Session) := do
  match _h : s.box.take with
  | none => pure ([], s)
  | some (l, box) =>
    let served ← serve keeper s.machine l.request
    let (replies, last) ← drain keeper (s.advance box served)
    pure ((l.ticket, served.reply) :: replies, last)
termination_by s.box.size
decreasing_by exact Mailbox.size_take _ _ _ ‹_›

def ask (keeper : Option (Keeper m)) (s : Session) (requests : List Request) :
    m (Except Failure (List Reply) × Session) := do
  if s.isOpen then
    let (replies, s) ← (requests.foldl post s.wake).drain keeper
    pure (.ok (replies.map (·.2)), s)
  else pure (.error .sessionOver, s)

end

end Session

end ControlPlane
