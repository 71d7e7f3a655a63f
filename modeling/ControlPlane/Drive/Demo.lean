import ControlPlane.Run.Event

/-!
# A complete delivery

The events of one run from the boot to completion: there is nothing to resume, the
user gives a goal, it is planned and reviewed, two agents do the research, and the
result is accepted at the second review.
-/

set_option autoImplicit false

namespace ControlPlane.Demo

def artifact (agent : String) : ResearchArtifact :=
  { agentId := agent
    summaryPath := "research/" ++ agent ++ "/summary.md"
    memoryPath := "research/" ++ agent ++ "/memory.json"
    operationLogPath := some ("research/" ++ agent ++ "/ops.log") }

def coding (claimsWithoutEvidence : UInt32) : List Event :=
  [.coderHandoffReady,
   .scheduleDecided 0.9 false,
   .dispatchResult true none,
   .coderResult,
   .reviewResult .pass claimsWithoutEvidence]

def events : List Event :=
  [.boot,
   .bdProbeResult [],
   .userInput "build X",
   .intakeCompleted 0.9 false (some "epic-demo"),
   .epicSynced none,
   .planBaselined 0.85 true,
   .planReviewFeedback false,
   .planReviewPass,
   .observeDefined (some 2),
   .researchDispatched,
   .researchResult (artifact "researcher-1"),
   .researchIngested,
   .researchEvaluated .needMoreResults (some 0),
   .researchResult (artifact "researcher-2"),
   .researchIngested,
   .researchEvaluated .enoughInfo none,
   .detailDesigned]
  ++ coding 1 ++ coding 0

end ControlPlane.Demo
