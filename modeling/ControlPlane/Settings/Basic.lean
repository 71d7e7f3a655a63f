import ControlPlane.Run.Context
import ControlPlane.Storage.FileSystem
import ControlPlane.Text.Blank

/-!
# Settings

The settings of a run come from a file, where each has a default, then from a
variable of the environment, and last from the flags of the command line. The
bound on feedback may not be zero.
-/

set_option autoImplicit false

namespace ControlPlane

structure Settings where
  autoResume : Bool := false
  maxReviewerFeedbackCount : UInt32 := 3
  snapshotPath : Option String := none
  logFilter : String := "epicflow=info"
  deriving DecidableEq

/-- The meaning of a flag in the environment. Blanks around the word and the case of its
letters do not matter; other words mean nothing. -/
def flagWord? (raw : String) : Option Bool :=
  let word := String.ofList ((Text.trim raw.toList).map Char.toLower)
  if word = "1" || word = "true" || word = "yes" || word = "on" then some true
  else if word = "0" || word = "false" || word = "no" || word = "off" then some false
  else none

namespace Settings

def freshContext (s : Settings) : Context :=
  { autoResume := s.autoResume, maxReviewerFeedbackCount := s.maxReviewerFeedbackCount }

def validate (s : Settings) : Except Failure Settings :=
  if s.maxReviewerFeedbackCount = 0 then .error .zeroFeedback else .ok s

def heeding (s : Settings) (word : Option String) : Settings :=
  match word.bind flagWord? with
  | some flag => { s with autoResume := flag }
  | none => s

def under (s : Settings) (autoResume : Bool) (maxFeedback : Option UInt32) :
    Except Failure Settings :=
  let s := { s with autoResume := autoResume || s.autoResume }
  match maxFeedback with
  | none => .ok s
  | some n => { s with maxReviewerFeedbackCount := n }.validate

end Settings

end ControlPlane
