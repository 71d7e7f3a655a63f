import ControlPlane.Drive.Demo
import ControlPlane.Drive.Report
import ControlPlane.Settings.File
import ControlPlane.Terminal.Display
import ControlPlane.Terminal.Invocation
import ControlPlane.Wire.Event

/-!
# The program

The program reads its arguments, loads the settings, lets the flags override them,
and performs one task. It ends with code two for a bad command line, with one for a
task that could not be performed, and with zero otherwise. Nothing is shown of a
task that could not be performed.
-/

set_option autoImplicit false

namespace ControlPlane

structure Surroundings (m : Type → Type) where
  files : FileSystem m
  autoResume : Option String
  colours : Bool

structure Outcome where
  code : Nat
  output : String := ""
  complaint : Option String := none
  deriving DecidableEq

namespace Outcome

def shown (output : String) : Outcome := ⟨0, output, none⟩

def failed (complaint : String) : Outcome := ⟨1, "", some complaint⟩

def usage : String :=
  "usage: epicflow [--auto-resume] [--max-feedback N] [--verbose] "
    ++ "(demo | replay FILE [--from-state STATE] | rank FILE | states)\n"

def refused : Terminal.Refusal → Outcome
  | .displayHelp => shown usage
  | .displayVersion => shown "epicflow 0.1.0\n"
  | r => ⟨2, "", some r.name⟩

end Outcome

def settingsFile : String := "epicflow.toml"

def Report.text (colours : Bool) (r : Report) : String :=
  Terminal.unlines <|
    r.passages.map (fun p => Terminal.transitionText colours p.source p.event.kind p.result)
      ++ Terminal.snapshotLines colours r.snapshot

namespace Surroundings

variable {m : Type → Type} [Monad m]

def play (s : Surroundings m) (settings : Settings) (chosen : Option State)
    (events : List Event) : m (Except Failure Report) := do
  match ← Settings.start s.files settings chosen with
  | .error e => pure (.error e)
  | .ok start => return .ok (← drive (settings.keeper? s.files) start events)

def showRun (s : Surroundings m) (run : m (Except Failure Report)) : m Outcome := do
  match ← run with
  | .error e => pure (.failed e.headline)
  | .ok report => pure (.shown (report.text s.colours))

def replay (s : Surroundings m) (settings : Settings) (file : String)
    (chosen : Option State) : m Outcome := do
  match ← s.files.readAs Decode.events file with
  | .error _ => pure (.failed ("failed to read events from " ++ file))
  | .ok events => s.showRun (s.play settings chosen events)

def perform (s : Surroundings m) (settings : Settings) : Terminal.Task → m Outcome
  | .demo => s.showRun (s.play { settings with snapshotPath := none } none Demo.events)
  | .replay file none => s.replay settings file none
  | .replay file (some name) =>
    match State.ofName? name with
    | some state => s.replay settings file (some state)
    | none => pure (.failed (Failure.unknownState name).headline)
  | .rank file => do
    match ← s.files.readAs Decode.candidates file with
    | .error _ => pure (.failed ("failed to read candidates from " ++ file))
    | .ok cs => pure (.shown (Terminal.unlines (Terminal.rankingLines s.colours (ranked cs))))
  | .states => pure (.shown (Terminal.unlines (Terminal.stateLines s.colours)))

def settingsFor (s : Surroundings m) (i : Terminal.Invocation) :
    m (Except String Settings) := do
  match ← Settings.load s.files settingsFile s.autoResume with
  | .error _ => pure (.error ("failed to load " ++ settingsFile))
  | .ok settings =>
    match settings.under i.autoResume i.maxFeedback with
    | .error e => pure (.error e.headline)
    | .ok settings => pure (.ok settings)

def answer (s : Surroundings m) (args : List String) : m Outcome := do
  match Terminal.Invocation.ofArguments args with
  | .error r => pure (.refused r)
  | .ok i =>
    match ← s.settingsFor i with
    | .error complaint => pure (.failed complaint)
    | .ok settings => s.perform settings i.task

end Surroundings

end ControlPlane
