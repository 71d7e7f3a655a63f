import ControlPlane.Run.Rules

/-!
# Transitions

`transition` takes a snapshot and an event to the next snapshot and to the
commands that go with it. It is total: a terminal state absorbs every event, and
an event that a state does not expect is absorbed with a reason, since events may
come twice or late. The rules for every live state come before those of the single
states.
-/

set_option autoImplicit false

namespace ControlPlane

def rule? (s : Snapshot) (e : Event) : Option Move :=
  Rules.global? s e <|> Rules.local? s e

def absorbed (s : Snapshot) (reason : String) : TransitionResult :=
  ⟨s.state, s.context, false, [], some reason⟩

def taken (s : Snapshot) (move : Move) : TransitionResult :=
  { state := move.state
    context := move.context
    changed := move.state ≠ s.state || move.context != s.context || !move.commands.isEmpty
    commands := move.commands
    reason := some move.reason }

def transition (s : Snapshot) (e : Event) : TransitionResult :=
  if s.state.isTerminal then absorbed s "terminal_state_ignored"
  else
    match rule? s e with
    | some move => taken s move
    | none => absorbed s ("invalid_event_for_" ++ s.state.name)

end ControlPlane
