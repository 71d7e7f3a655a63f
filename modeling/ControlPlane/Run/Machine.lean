import ControlPlane.Run.Log
import ControlPlane.Run.Transition

/-!
# Machines

A machine holds the snapshot of one run, takes events one at a time and remembers
the states that it has left. Each event leaves one entry in the log, and a fatal
error one more in front of it.
-/

set_option autoImplicit false

namespace ControlPlane

structure Machine where
  snapshot : Snapshot
  history : List State := []

structure Dispatched where
  machine : Machine
  result : TransitionResult
  log : List LogEntry

namespace Machine

def resume (s : Snapshot) : Machine := ⟨s, []⟩

def state (m : Machine) : State := m.snapshot.state

def isFinished (m : Machine) : Bool := m.state.isTerminal

def dispatch (m : Machine) (e : Event) : Dispatched :=
  let r := transition m.snapshot e
  { machine :=
      { snapshot := r.snapshot
        history :=
          if r.changed ∧ r.state ≠ m.state then m.history ++ [m.state] else m.history }
    result := r
    log := logOf m.state e r }

end Machine

end ControlPlane
