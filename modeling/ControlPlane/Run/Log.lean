import ControlPlane.Run.Event
import ControlPlane.Run.Snapshot

/-!
# The log of a run

Each event leaves one entry, and a fatal error one more in front of it. The service
around a run adds entries for its start, its end and every snapshot that could not
be saved.
-/

set_option autoImplicit false

namespace ControlPlane

inductive LogLevel where
  | debug
  | info
  | warn
  deriving DecidableEq

def LogLevel.name : LogLevel → String
  | debug => "DEBUG"
  | info => "INFO"
  | warn => "WARN"

inductive LogEntry where
  | eventAbsorbed (state : State) (event : EventKind) (reason : String)
  | contextUpdated (state : State) (event : EventKind) (reason : String) (commands : Nat)
  | stateChanged (source target : State) (event : EventKind) (reason : String) (commands : Nat)
  | runFailed (source : State) (error : String)
  | sessionStarted (state : State)
  | sessionStopped (state : State)
  | snapshotNotPersisted (path : String)
  deriving DecidableEq

namespace LogEntry

def level : LogEntry → LogLevel
  | stateChanged .. => .info
  | runFailed .. | snapshotNotPersisted _ => .warn
  | _ => .debug

def message : LogEntry → String
  | eventAbsorbed .. => "event absorbed"
  | contextUpdated .. => "context updated"
  | stateChanged .. => "state changed"
  | runFailed .. => "run failed"
  | sessionStarted _ => "runtime started"
  | sessionStopped _ => "runtime stopped"
  | snapshotNotPersisted _ => "snapshot not persisted"

def fields : LogEntry → List (String × Json)
  | eventAbsorbed state event reason =>
    [("state", .string state.name), ("event", .string event.name), ("reason", .string reason)]
  | contextUpdated state event reason commands =>
    [("state", .string state.name), ("event", .string event.name), ("reason", .string reason),
     ("commands", .int commands)]
  | stateChanged source target event reason commands =>
    [("from", .string source.name), ("to", .string target.name), ("event", .string event.name),
     ("reason", .string reason), ("commands", .int commands)]
  | runFailed source error => [("from", .string source.name), ("error", .string error)]
  | sessionStarted state | sessionStopped state => [("state", .string state.name)]
  | snapshotNotPersisted path => [("path", .string path)]

def toJson (entry : LogEntry) : Json :=
  .object (("level", .string entry.level.name) :: ("message", .string entry.message)
    :: entry.fields)

end LogEntry

def logOf (source : State) (e : Event) (r : TransitionResult) : List LogEntry :=
  let reason := r.reason.getD ""
  if r.changed = false then [.eventAbsorbed source e.kind reason]
  else if r.state = source then [.contextUpdated source e.kind reason r.commands.length]
  else
    (if r.state = .failed then [.runFailed source (r.context.lastError.getD "")] else [])
      ++ [.stateChanged source r.state e.kind reason r.commands.length]

end ControlPlane
