import ControlPlane.Service.Mailbox
import ControlPlane.Settings.Basic

/-!
# Driving a run

A run is driven by a list of events, which its machine takes in order. It starts
from a state that was asked for, or else from the snapshot that an earlier run has
left, or else at the boot. The report tells of every event what came of it.
-/

set_option autoImplicit false

namespace ControlPlane

structure Passage where
  source : State
  event : Event
  result : TransitionResult

structure Report where
  passages : List Passage
  machine : Machine
  log : List LogEntry

namespace Report

def snapshot (r : Report) : Snapshot := r.machine.snapshot

def visited (r : Report) : List State := r.machine.history ++ [r.machine.state]

def dispatched (r : Report) : Nat := r.passages.length

def absorbed (r : Report) : Nat := r.passages.countP fun p => !p.result.changed

end Report

section

variable {m : Type → Type} [Monad m]

def Settings.keeper? (fs : FileSystem m) (s : Settings) : Option (Keeper m) :=
  s.snapshotPath.map fun path => ⟨path, fs.save path⟩

def Settings.start (fs : FileSystem m) (settings : Settings) (chosen : Option State) :
    m (Except Failure Snapshot) := do
  match chosen, settings.snapshotPath with
  | some state, _ => pure (.ok ⟨state, settings.freshContext⟩)
  | none, some path =>
    if ← fs.hasSnapshot path then fs.load path
    else pure (.ok ⟨.boot, settings.freshContext⟩)
  | none, none => pure (.ok ⟨.boot, settings.freshContext⟩)

def takeAll (keeper : Option (Keeper m)) (machine : Machine) :
    List Event → m (List Passage × Machine × List LogEntry)
  | [] => pure ([], machine, [])
  | e :: es => do
    let d ← machine.handle keeper e
    let (passages, last, log) ← takeAll keeper d.machine es
    pure (⟨machine.state, e, d.result⟩ :: passages, last, d.log ++ log)

def drive (keeper : Option (Keeper m)) (start : Snapshot) (events : List Event) : m Report := do
  let (passages, machine, log) ← takeAll keeper (.resume start) events
  pure
    { passages, machine
      log := .sessionStarted start.state :: log ++ [.sessionStopped machine.state] }

end

end ControlPlane
