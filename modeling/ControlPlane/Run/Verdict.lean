/-!
# Verdicts

What the evaluation of the research and the review of a result can come to.
-/

set_option autoImplicit false

namespace ControlPlane

inductive ResearchDecision where
  | enoughInfo
  | needMoreResults
  | needReplan
  deriving DecidableEq

namespace ResearchDecision

def all : List ResearchDecision := [enoughInfo, needMoreResults, needReplan]

def name : ResearchDecision → String
  | enoughInfo => "enough_info"
  | needMoreResults => "need_more_results"
  | needReplan => "need_replan"

end ResearchDecision

inductive ReviewDecision where
  | pass
  | retry
  | replan
  deriving DecidableEq

namespace ReviewDecision

def all : List ReviewDecision := [pass, retry, replan]

def name : ReviewDecision → String
  | pass => "pass"
  | retry => "retry"
  | replan => "replan"

end ReviewDecision

end ControlPlane
