import ControlPlane.Text.Words

/-!
# States of a run

A run is always in one of twenty-six states. Three of them are terminal: a run
that has reached one of these stays there.
-/

set_option autoImplicit false

namespace ControlPlane

inductive State where
  | boot
  | idleProbeBd
  | resumeAsk
  | resumePlan
  | idle
  | intake
  | askSwitch
  | epicSync
  | planBaseline
  | planReview
  | observe
  | researchFanout
  | waitOthers
  | researchIngest
  | researchEval
  | detailDesign
  | coderHandoff
  | schedule
  | queue
  | dispatch
  | coderExec
  | reviewAccept
  | replanPatch
  | complete
  | cancelled
  | failed
  deriving DecidableEq

namespace State

def all : List State :=
  [boot, idleProbeBd, resumeAsk, resumePlan, idle, intake, askSwitch, epicSync,
   planBaseline, planReview, observe, researchFanout, waitOthers, researchIngest,
   researchEval, detailDesign, coderHandoff, schedule, queue, dispatch, coderExec,
   reviewAccept, replanPatch, complete, cancelled, failed]

def isTerminal : State → Bool
  | complete | cancelled | failed => true
  | _ => false

def name : State → String
  | boot => "boot"
  | idleProbeBd => "idle_probe_bd"
  | resumeAsk => "resume_ask"
  | resumePlan => "resume_plan"
  | idle => "idle"
  | intake => "intake"
  | askSwitch => "ask_switch"
  | epicSync => "epic_sync"
  | planBaseline => "plan_baseline"
  | planReview => "plan_review"
  | observe => "observe"
  | researchFanout => "research_fanout"
  | waitOthers => "wait_others"
  | researchIngest => "research_ingest"
  | researchEval => "research_eval"
  | detailDesign => "detail_design"
  | coderHandoff => "coder_handoff"
  | schedule => "schedule"
  | queue => "queue"
  | dispatch => "dispatch"
  | coderExec => "coder_exec"
  | reviewAccept => "review_accept"
  | replanPatch => "replan_patch"
  | complete => "complete"
  | cancelled => "cancelled"
  | failed => "failed"

def title : State → String
  | boot => "Boot"
  | idleProbeBd => "IdleProbeBd"
  | resumeAsk => "ResumeAsk"
  | resumePlan => "ResumePlan"
  | idle => "Idle"
  | intake => "Intake"
  | askSwitch => "AskSwitch"
  | epicSync => "EpicSync"
  | planBaseline => "PlanBaseline"
  | planReview => "PlanReview"
  | observe => "Observe"
  | researchFanout => "ResearchFanout"
  | waitOthers => "WaitOthers"
  | researchIngest => "ResearchIngest"
  | researchEval => "ResearchEval"
  | detailDesign => "DetailDesign"
  | coderHandoff => "CoderHandoff"
  | schedule => "Schedule"
  | queue => "Queue"
  | dispatch => "Dispatch"
  | coderExec => "CoderExec"
  | reviewAccept => "ReviewAccept"
  | replanPatch => "ReplanPatch"
  | complete => "Complete"
  | cancelled => "Cancelled"
  | failed => "Failed"

def tag (s : State) : String := Text.snakeCase s.title

theorem tag_eq_name (s : State) : s.tag = s.name := by
  cases s <;> decide +kernel

def ofName? (n : String) : Option State :=
  all.find? fun s => s.name == n

theorem mem_all (s : State) : s ∈ all := by
  cases s <;> decide

theorem ofName?_name (s : State) : ofName? s.name = some s := by
  cases s <;> decide

end State

end ControlPlane
