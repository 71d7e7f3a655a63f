import ControlPlane.Json.Writer
import ControlPlane.Run.Transition
import ControlPlane.Terminal.Style

/-!
# What the terminal shows

A transition takes one line and one more for each command. The payload of a
command is compact JSON, so that no text of an event can break a line or reach the
terminal as a code.
-/

set_option autoImplicit false

namespace ControlPlane.Terminal

def unlines (ls : List String) : String :=
  String.join (ls.map (· ++ "\n"))

def entered : State → Style
  | .failed | .cancelled => .failure
  | _ => .success

def headLine (colours : Bool) (source : State) (kind : EventKind) (r : TransitionResult) :
    String :=
  let reason := r.reason.getD "-"
  if r.changed then
    let style := entered r.state
    "  " ++ style.paint colours "✓" ++ " " ++ source.name ++ " → "
      ++ style.paint colours r.state.name ++ " on " ++ kind.name ++ " (" ++ reason ++ ")"
  else
    "  " ++ Style.notice.paint colours "·" ++ " " ++ source.name ++ " ⟵ " ++ kind.name
      ++ " (" ++ reason ++ ")"

def payloadText (c : Command) : String :=
  match c.payload with
  | none => ""
  | some members => (Json.object members).compact

def commandLine (colours : Bool) (c : Command) : String :=
  "      " ++ Style.detail.paint colours "⇢" ++ " " ++ c.kind.name ++ " "
    ++ Style.detail.paint colours (payloadText c)

def transitionLines (colours : Bool) (source : State) (kind : EventKind)
    (r : TransitionResult) : List String :=
  headLine colours source kind r :: r.commands.map (commandLine colours)

def transitionText (colours : Bool) (source : State) (kind : EventKind)
    (r : TransitionResult) : String :=
  "\n".intercalate (transitionLines colours source kind r)

def resting (s : State) : Style :=
  if s.isTerminal then if s = .complete then .success else .failure else .notice

def snapshotLines (colours : Bool) (s : Snapshot) : List String :=
  ["", (resting s.state).paint colours "─── Snapshot ───", s.toJson.pretty]

def padded (n : Nat) : String :=
  if n < 10 then " " ++ toString n else toString n

def candidateLine (colours : Bool) (place : Nat) (c : ResumeCandidate) : String :=
  let readiness :=
    if c.isExecutable then Style.success.paint colours "ready  "
    else Style.failure.paint colours "blocked"
  "  " ++ padded place ++ ". " ++ readiness ++ " " ++ c.epicId ++ " (priority "
    ++ toString c.priority.toInt ++ ", updated " ++ toString c.millis ++ "ms)"

def rankingLines (colours : Bool) (ranking : List ResumeCandidate) : List String :=
  ranking.zipIdx.map fun (c, i) => candidateLine colours (i + 1) c

def stateLine (colours : Bool) (s : State) : String :=
  if s.isTerminal then "  " ++ s.name ++ " " ++ Style.detail.paint colours "(terminal)"
  else "  " ++ s.name

def stateLines (colours : Bool) : List String := State.all.map (stateLine colours)

end ControlPlane.Terminal
