import ControlPlane.Run.Snapshot

/-!
# Moves

A move is where a rule leads: the next state and context, the commands for it and
the reason. The moves that several rules share are named here, each with the one
command that it issues.
-/

set_option autoImplicit false

namespace ControlPlane

structure Move where
  state : State
  context : Context
  commands : List Command
  reason : String

namespace Move

def asking (state : State) (context : Context) (reason : String) (command : Command) : Move :=
  ⟨state, context, [command], reason⟩

def silent (state : State) (context : Context) (reason : String) : Move :=
  ⟨state, context, [], reason⟩

def clarification (c : Context) : Move :=
  asking .askSwitch c "low_confidence" <|
    (⟨.clarifyLowConfidence, none⟩ : Command)
      |>.carrying "confidence" (.ofFloat c.confidence)
      |>.carrying "threshold" (.ofFloat confidenceThreshold)

def epicRecord (c : Context) (reason : String) : Move :=
  asking .epicSync c reason <|
    (⟨.bdUpsertEpicAndTasks, none⟩ : Command)
      |>.carrying "epic_id" (.nullable .string c.currentEpicId)

def candidateList (cs : List ResumeCandidate) : Json :=
  .array (cs.map fun c => c.toJson.sorted)

def resumption (c : Context) (reason : String) : Move :=
  asking .resumePlan c reason <|
    (⟨.loadResumeQueue, none⟩ : Command).carrying "queue" (candidateList c.resumeQueue)

def research (c : Context) (slots : UInt32) (reason : String) : Move :=
  asking .researchFanout c reason <|
    (⟨.dispatchResearchAgents, none⟩ : Command).carrying "slots" (.int slots.toNat)

def planning (c : Context) (reason : String) : Move :=
  asking .planBaseline { c with reviewerFeedbackCount := 0 } reason ⟨.buildPlanBaseline, none⟩

def observation (c : Context) (reason : String) : Move :=
  asking .observe c reason ⟨.defineObservationTargets, none⟩

def replanning (c : Context) (reason : String) (more : Command → Command) : Move :=
  asking .replanPatch c reason <|
    more ((⟨.applyReplanPatch, none⟩ : Command).carrying "trigger" (.string reason))

def snapshot (m : Move) : Snapshot := ⟨m.state, m.context⟩

def kinds (m : Move) : List CommandKind := m.commands.map (·.kind)

section

variable (s : State) (c : Context) (reason : String)

@[simp]
theorem asking_snapshot (command : Command) : (asking s c reason command).snapshot = ⟨s, c⟩ := rfl

@[simp]
theorem asking_kinds (command : Command) :
    (asking s c reason command).kinds = [command.kind] := rfl

@[simp]
theorem silent_snapshot : (silent s c reason).snapshot = ⟨s, c⟩ := rfl

@[simp]
theorem silent_kinds : (silent s c reason).kinds = [] := rfl

@[simp]
theorem clarification_snapshot : (clarification c).snapshot = ⟨.askSwitch, c⟩ := rfl

@[simp]
theorem clarification_kinds : (clarification c).kinds = [.clarifyLowConfidence] := rfl

theorem clarification_commands :
    (clarification c).commands =
      [⟨.clarifyLowConfidence,
        some [("confidence", if c.confidence.isFinite then .float c.confidence else .null),
          ("threshold", .float confidenceThreshold)]⟩] := by
  have threshold : Json.ofFloat confidenceThreshold = .float confidenceThreshold :=
    if_pos (by decide +kernel)
  rw [clarification, threshold]
  rfl

@[simp]
theorem epicRecord_snapshot : (epicRecord c reason).snapshot = ⟨.epicSync, c⟩ := rfl

@[simp]
theorem epicRecord_kinds : (epicRecord c reason).kinds = [.bdUpsertEpicAndTasks] := rfl

@[simp]
theorem resumption_snapshot : (resumption c reason).snapshot = ⟨.resumePlan, c⟩ := rfl

@[simp]
theorem resumption_kinds : (resumption c reason).kinds = [.loadResumeQueue] := rfl

@[simp]
theorem research_snapshot (slots : UInt32) :
    (research c slots reason).snapshot = ⟨.researchFanout, c⟩ := rfl

@[simp]
theorem research_kinds (slots : UInt32) :
    (research c slots reason).kinds = [.dispatchResearchAgents] := rfl

@[simp]
theorem planning_snapshot :
    (planning c reason).snapshot = ⟨.planBaseline, { c with reviewerFeedbackCount := 0 }⟩ := rfl

@[simp]
theorem planning_kinds : (planning c reason).kinds = [.buildPlanBaseline] := rfl

@[simp]
theorem observation_snapshot : (observation c reason).snapshot = ⟨.observe, c⟩ := rfl

@[simp]
theorem observation_kinds : (observation c reason).kinds = [.defineObservationTargets] := rfl

@[simp]
theorem replanning_snapshot (more : Command → Command) :
    (replanning c reason more).snapshot = ⟨.replanPatch, c⟩ := rfl

theorem replanning_kinds {more : Command → Command} (same : ∀ k, (more k).kind = k.kind) :
    (replanning c reason more).kinds = [.applyReplanPatch] := by
  rw [replanning, asking_kinds, same, Command.carrying_kind]

end

end Move

end ControlPlane
