import ControlPlane.Wire.Snapshot

/-!
# Reading events

An event is an object with a `type` and the fields of its kind, or an array that
starts with the type. Only the type is looked at while the text is read; the rest
is read as a whole first and checked after that, so that the type may stand
anywhere.
-/

set_option autoImplicit false

namespace ControlPlane.Decode

open Json (Problem)

def eventKinds : Names EventKind := ⟨EventKind.all, EventKind.tag⟩

def researchDecisions : Names ResearchDecision := ⟨ResearchDecision.all, ResearchDecision.name⟩

def reviewDecisions : Names ReviewDecision := ⟨ReviewDecision.all, ReviewDecision.name⟩

structure Shape where
  fields : List Field
  build : Record → Decoded Event

namespace Shape

def plain (e : Event) : Shape := ⟨[], fun _ => .ok e⟩

def single {α : Type} (name : String) (decode : Decoder α) (make : α → Event) : Shape :=
  ⟨[.needed name decode], fun r => (r.get name decode).map make⟩

def lone {α : Type} (name : String) (decode : Decoder α) (default : α) (make : α → Event) :
    Shape :=
  ⟨[.optional name decode], fun r => (r.getD name decode default).map make⟩

end Shape

def shape : EventKind → Shape
  | .boot => .plain .boot
  | .bdProbeResult => .lone "candidates" candidates [] .bdProbeResult
  | .resumeDecision => .single "resume" bool .resumeDecision
  | .resumePlanLoaded => .lone "epic_id" (orNull string) none .resumePlanLoaded
  | .userInput => .single "text" string .userInput
  | .intakeCompleted =>
    { fields :=
        [.needed "confidence" float, .optional "conflict" bool,
         .optional "epic_id" (orNull string)]
      build := fun r => do
        let confidence ← r.get "confidence" float
        let conflict ← r.getD "conflict" bool false
        let epicId ← r.getD "epic_id" (orNull string) none
        .ok (.intakeCompleted confidence conflict epicId) }
  | .switchResolved =>
    { fields := [.optional "confidence" (orNull float), .optional "epic_id" (orNull string)]
      build := fun r => do
        let confidence ← r.getD "confidence" (orNull float) none
        let epicId ← r.getD "epic_id" (orNull string) none
        .ok (.switchResolved confidence epicId) }
  | .epicSynced => .lone "epic_id" (orNull string) none .epicSynced
  | .planBaselined =>
    { fields := [.needed "confidence" float, .optional "need_plan_review" bool]
      build := fun r => do
        let confidence ← r.get "confidence" float
        let needPlanReview ← r.getD "need_plan_review" bool false
        .ok (.planBaselined confidence needPlanReview) }
  | .planReviewPass => .plain .planReviewPass
  | .planReviewFeedback => .lone "blocking" bool false .planReviewFeedback
  | .observeDefined => .lone "research_expected" (orNull u32) none .observeDefined
  | .researchDispatched => .plain .researchDispatched
  | .researchResult => .single "artifact" artifact .researchResult
  | .researchIngested => .plain .researchIngested
  | .researchEvaluated =>
    { fields := [.optional "decision" researchDecisions.decode, .optional "missing" (orNull u32)]
      build := fun r => do
        let decision ← r.getD "decision" researchDecisions.decode .enoughInfo
        let missing ← r.getD "missing" (orNull u32) none
        .ok (.researchEvaluated decision missing) }
  | .detailDesigned => .plain .detailDesigned
  | .coderHandoffReady => .plain .coderHandoffReady
  | .scheduleDecided =>
    { fields := [.needed "confidence" float, .optional "resource_busy" bool]
      build := fun r => do
        let confidence ← r.get "confidence" float
        let busy ← r.getD "resource_busy" bool false
        .ok (.scheduleDecided confidence busy) }
  | .resourceAvailable => .plain .resourceAvailable
  | .dispatchResult =>
    { fields := [.needed "ok" bool, .optional "error" (orNull string)]
      build := fun r => do
        let ok ← r.get "ok" bool
        let error ← r.getD "error" (orNull string) none
        .ok (.dispatchResult ok error) }
  | .coderResult => .plain .coderResult
  | .reviewResult =>
    { fields :=
        [.optional "decision" reviewDecisions.decode, .optional "claims_without_evidence" u32]
      build := fun r => do
        let decision ← r.getD "decision" reviewDecisions.decode .pass
        let claims ← r.getD "claims_without_evidence" u32 0
        .ok (.reviewResult decision claims) }
  | .replanApplied => .single "confidence" float .replanApplied
  | .requirementChanged => .lone "summary" (orNull string) none .requirementChanged
  | .cancel => .lone "reason" (orNull string) none .cancel
  | .fatalError => .single "error" string .fatalError
  | .heartbeat => .single "agent_id" string .heartbeat
  | .tick => .plain .tick

def eventBody (kind : EventKind) (rest : Draft) : Decoded Event := do
  let s := shape kind
  let r ← record ("struct variant Event::" ++ kind.title) s.fields .value rest
  s.build r

def eventKind : Draft → Decoded EventKind := eventKinds.bare "variant identifier"

def eventMembers (depth : Nat) (kind : Option EventKind) :
    List (Option String × Draft) → Decoded (Option EventKind)
  | [] => .ok kind
  | (none, _) :: _ => .error .malformed
  | (some k, v) :: ms =>
    if k = "type" then
      match kind with
      | some _ => .error (.duplicateField "type")
      | none => do
        let kind ← eventKind v
        eventMembers depth (some kind) ms
    else if v.isSound depth then eventMembers depth kind ms
    else .error .malformed

def event : Decoder Event
  | src, .object ms closed => do
    let inner ← src.enter
    let kind? ← eventMembers inner.depth none ms
    if closed then
      match kind? with
      | none => .error (.missingField "type")
      | some kind => eventBody kind (.object (ms.filter fun m => m.1 ≠ some "type") true)
    else .error .malformed
  | _, .misnamed => .error .malformed
  | src, .array [] closed => do
    let _ ← src.enter
    .error (if closed then .missingField "type" else .malformed)
  | src, .array (tag :: rest) closed => do
    let inner ← src.enter
    let kind ← eventKind tag
    if closed && rest.all (Draft.isSound inner.depth) then eventBody kind (.array rest true)
    else .error .malformed
  | _, d => .error (mismatch "internally tagged enum Event" d)

def events : Decoder (List Event) := list event

end ControlPlane.Decode
