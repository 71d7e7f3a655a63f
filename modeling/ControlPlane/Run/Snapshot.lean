import ControlPlane.Run.Command
import ControlPlane.Run.Context
import ControlPlane.Run.State

/-!
# Snapshots and results

A snapshot is a state and a context. The result of an event is the next snapshot,
with the commands that were issued on the way and the reason.
-/

set_option autoImplicit false

namespace ControlPlane

structure Snapshot where
  state : State
  context : Context

def Snapshot.toJson (s : Snapshot) : Json :=
  .object [("state", .string s.state.tag), ("context", s.context.toJson)]

structure TransitionResult where
  state : State
  context : Context
  /-- Whether the state or the context is new, or a command was issued. -/
  changed : Bool
  commands : List Command
  reason : Option String := none

namespace TransitionResult

def snapshot (r : TransitionResult) : Snapshot := ⟨r.state, r.context⟩

def toJson (r : TransitionResult) : Json :=
  .object <|
    [("state", .string r.state.tag),
     ("context", r.context.toJson),
     ("changed", .bool r.changed),
     ("commands", .array (r.commands.map (·.toJson)))]
    ++ Json.optional "reason" .string r.reason

end TransitionResult

end ControlPlane
