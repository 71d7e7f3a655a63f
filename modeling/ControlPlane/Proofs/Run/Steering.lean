import Mathlib.Data.List.Forall2
import ControlPlane.Proofs.Resume.Order
import ControlPlane.Proofs.Run.Course

/-!
# What steers a run

A run carries names, texts, artifacts and queues along and never looks into them: its
rules read the state, a few numbers and flags of the context, whether a probe has found
anything and whether a claim is without evidence. Two snapshots or events are alike if they
agree on what is read. Runs through events that are alike, from snapshots that are alike,
take the same course (`passages_alike`).
-/

set_option autoImplicit false

namespace ControlPlane

structure Context.Alike (c d : Context) : Prop where
  autoResume : c.autoResume = d.autoResume
  confidence : c.confidence = d.confidence
  reviewerFeedbackCount : c.reviewerFeedbackCount = d.reviewerFeedbackCount
  maxReviewerFeedbackCount : c.maxReviewerFeedbackCount = d.maxReviewerFeedbackCount
  researchExpected : c.researchExpected = d.researchExpected
  researchReceived : c.researchReceived = d.researchReceived

structure Snapshot.Alike (s t : Snapshot) : Prop where
  state : s.state = t.state
  context : s.context.Alike t.context

/-- Events of one kind that differ at most in names, texts and artifacts, in what the
candidates of a probe are, and in how many claims are without evidence. -/
inductive Event.Alike : Event → Event → Prop
  | same (e : Event) : Alike e e
  | bdProbeResult {cs ds : List ResumeCandidate} (empty : cs = [] ↔ ds = []) :
      Alike (.bdProbeResult cs) (.bdProbeResult ds)
  | resumePlanLoaded (i j : Option String) : Alike (.resumePlanLoaded i) (.resumePlanLoaded j)
  | userInput (t u : String) : Alike (.userInput t) (.userInput u)
  | intakeCompleted (confidence : Float) (conflict : Bool) (i j : Option String) :
      Alike (.intakeCompleted confidence conflict i) (.intakeCompleted confidence conflict j)
  | switchResolved (confidence : Option Float) (i j : Option String) :
      Alike (.switchResolved confidence i) (.switchResolved confidence j)
  | epicSynced (i j : Option String) : Alike (.epicSynced i) (.epicSynced j)
  | researchResult (a b : ResearchArtifact) : Alike (.researchResult a) (.researchResult b)
  | dispatchResult (ok : Bool) (t u : Option String) :
      Alike (.dispatchResult ok t) (.dispatchResult ok u)
  | reviewResult (decision : ReviewDecision) {m n : UInt32} (proven : m = 0 ↔ n = 0) :
      Alike (.reviewResult decision m) (.reviewResult decision n)
  | requirementChanged (t u : Option String) :
      Alike (.requirementChanged t) (.requirementChanged u)
  | cancel (t u : Option String) : Alike (.cancel t) (.cancel u)
  | fatalError (t u : String) : Alike (.fatalError t) (.fatalError u)
  | heartbeat (i j : String) : Alike (.heartbeat i) (.heartbeat j)

structure Move.Alike (m n : Move) : Prop where
  snapshot : m.snapshot.Alike n.snapshot
  kinds : m.kinds = n.kinds
  reason : m.reason = n.reason

structure TransitionResult.Alike (r q : TransitionResult) : Prop where
  state : r.state = q.state
  reason : r.reason = q.reason
  changed : r.changed = q.changed
  kinds : r.commands.map (·.kind) = q.commands.map (·.kind)
  snapshot : r.snapshot.Alike q.snapshot

namespace Context.Alike

variable {c d : Context}

theorem isLow (h : c.Alike d) : c.isLow = d.isLow := by
  rw [Context.isLow, Context.isLow, h.confidence]

theorem outstanding (h : c.Alike d) : c.outstanding = d.outstanding := by
  rw [Context.outstanding, Context.outstanding, h.researchExpected, h.researchReceived]

theorem weighed (h : c.Alike d) {x y : Float} (confidence : x = y) :
    Alike { c with confidence := x } { d with confidence := y } :=
  { h with confidence }

theorem counted (h : c.Alike d) {m n : UInt32} (rounds : m = n) :
    Alike { c with reviewerFeedbackCount := m } { d with reviewerFeedbackCount := n } :=
  { h with reviewerFeedbackCount := rounds }

theorem settled (h : c.Alike d) (i j : Option String) : (c.settleOn i).Alike (d.settleOn j) :=
  { h with }

theorem adopted (h : c.Alike d) (i j : Option String) :
    (Rules.adopted c i).Alike (Rules.adopted d j) := by
  rw [Rules.adopted_eq, Rules.adopted_eq]
  exact { h with }

theorem dequeued (h : c.Alike d) :
    Alike { c with resumeQueue := [] } { d with resumeQueue := [] } :=
  { h with }

theorem opened (h : c.Alike d) (expected : UInt32) :
    Alike
      { c with researchExpected := expected, researchReceived := 0, researchArtifacts := [] }
      { d with researchExpected := expected, researchReceived := 0, researchArtifacts := [] } :=
  { h with researchExpected := rfl, researchReceived := rfl }

theorem received (h : c.Alike d) (a b : ResearchArtifact) :
    Alike
      { c with
        researchArtifacts := c.researchArtifacts ++ [a]
        researchReceived := countUp c.researchReceived }
      { d with
        researchArtifacts := d.researchArtifacts ++ [b]
        researchReceived := countUp d.researchReceived } :=
  { h with researchReceived := congrArg countUp h.researchReceived }

theorem failed (h : c.Alike d) (u v : String) :
    Alike { c with lastError := some u } { d with lastError := some v } :=
  { h with }

end Context.Alike

namespace Move.Alike

variable {c d : Context}

theorem asking (h : c.Alike d) (s : State) (reason : String) {k l : Command}
    (kind : k.kind = l.kind) : (Move.asking s c reason k).Alike (Move.asking s d reason l) :=
  ⟨⟨rfl, h⟩, congrArg (fun k => [k]) kind, rfl⟩

theorem silent (h : c.Alike d) (s : State) (reason : String) :
    (Move.silent s c reason).Alike (Move.silent s d reason) :=
  ⟨⟨rfl, h⟩, rfl, rfl⟩

theorem clarification (h : c.Alike d) : (Move.clarification c).Alike (Move.clarification d) :=
  asking h _ _ rfl

theorem epicRecord (h : c.Alike d) (reason : String) :
    (Move.epicRecord c reason).Alike (Move.epicRecord d reason) :=
  asking h _ _ rfl

theorem resumption (h : c.Alike d) (reason : String) :
    (Move.resumption c reason).Alike (Move.resumption d reason) :=
  asking h _ _ rfl

theorem research (h : c.Alike d) (m n : UInt32) (reason : String) :
    (Move.research c m reason).Alike (Move.research d n reason) :=
  asking h _ _ rfl

theorem planning (h : c.Alike d) (reason : String) :
    (Move.planning c reason).Alike (Move.planning d reason) :=
  asking (h.counted rfl) _ _ rfl

theorem observation (h : c.Alike d) (reason : String) :
    (Move.observation c reason).Alike (Move.observation d reason) :=
  asking h _ _ rfl

theorem replanning (h : c.Alike d) (reason key : String) (t u : Option String) :
    (Move.replanning c reason (·.carrying? key t)).Alike
      (Move.replanning d reason (·.carrying? key u)) :=
  asking h _ _ (by simp)

theorem choice {p q : Prop} [Decidable p] [Decidable q] (test : p ↔ q) {m m' n n' : Move}
    (yes : m.Alike n) (no : m'.Alike n') :
    (if p then m else m').Alike (if q then n else n') := by
  by_cases h : q
  · rwa [if_pos (test.mpr h), if_pos h]
  · rwa [if_neg (mt test.mp h), if_neg h]

/-- The two ways that a confidence is weighed. -/
theorem gate (h : c.Alike d) {m n : Move} (clear : m.Alike n) :
    (if c.isLow then Move.clarification c else m).Alike
      (if d.isLow then Move.clarification d else n) :=
  choice (by rw [h.isLow]) (clarification h) clear

end Move.Alike

namespace Rules

open Move.Alike

variable {c d : Context}

theorem probed_alike (h : c.Alike d) {cs ds : List ResumeCandidate} (empty : cs = [] ↔ ds = []) :
    (probed c cs).Alike (probed d ds) := by
  have queued : Context.Alike { c with resumeCandidates := ranked cs, resumeQueue := ranked cs }
    { d with resumeCandidates := ranked ds, resumeQueue := ranked ds } := { h with }
  refine choice ?_ (silent queued _ _) (choice ?_ (resumption queued _) (asking queued _ _ rfl))
  · rw [List.isEmpty_iff, List.isEmpty_iff, ranked_eq_nil, ranked_eq_nil, empty]
  · rw [queued.autoResume]

theorem intakeDone_alike (h : c.Alike d) (confidence : Float) (conflict : Bool)
    (i j : Option String) :
    (intakeDone c confidence conflict i).Alike (intakeDone d confidence conflict j) := by
  have weighed : (intakeContext c confidence conflict i).Alike
      (intakeContext d confidence conflict j) := by
    rw [intakeContext_eq, intakeContext_eq]
    exact { h.weighed rfl with }
  exact gate weighed (choice .rfl (asking weighed _ _ rfl) (epicRecord weighed _))

theorem switchDone_alike (h : c.Alike d) (confidence : Option Float) (i j : Option String) :
    (switchDone c confidence i).Alike (switchDone d confidence j) := by
  have weighed : (switchContext c confidence i).Alike (switchContext d confidence j) :=
    (h.weighed (congrArg confidence.getD h.confidence)).adopted i j
  exact gate weighed (epicRecord weighed _)

theorem planned_alike (h : c.Alike d) (confidence : Float) (needPlanReview : Bool) :
    (planned c confidence needPlanReview).Alike (planned d confidence needPlanReview) := by
  have weighed : Context.Alike { c with confidence } { d with confidence } := h.weighed rfl
  exact gate weighed (choice .rfl (asking weighed _ _ rfl) (observation weighed _))

theorem reviewed_alike (h : c.Alike d) (blocking : Bool) :
    (reviewed c blocking).Alike (reviewed d blocking) := by
  have rounds := congrArg countUp h.reviewerFeedbackCount
  refine choice .rfl (planning h _) (choice ?_ (observation (h.counted rfl) _)
    (asking (h.counted rounds) _ _ rfl))
  rw [h.maxReviewerFeedbackCount, rounds]

theorem roundOpened_alike (h : c.Alike d) (expected : Option UInt32) :
    (roundOpened c expected).Alike (roundOpened d expected) :=
  research (h.opened _) _ _ _

theorem resultReceived_alike (h : c.Alike d) (a b : ResearchArtifact) :
    (resultReceived c a).Alike (resultReceived d b) :=
  asking (h.received a b) _ _ rfl

theorem evaluated_alike (h : c.Alike d) (decision : ResearchDecision) (missing : Option UInt32) :
    (evaluated c decision missing).Alike (evaluated d decision missing) := by
  cases decision with
  | needReplan => exact planning h _
  | enoughInfo => exact asking h _ _ rfl
  | needMoreResults =>
    have slots := congrArg missing.getD h.outstanding
    exact choice (by rw [slots]) (asking h _ _ rfl) (research h _ _ _)

theorem scheduled_alike (h : c.Alike d) (confidence : Float) (busy : Bool) :
    (scheduled c confidence busy).Alike (scheduled d confidence busy) := by
  have weighed : Context.Alike { c with confidence } { d with confidence } := h.weighed rfl
  exact gate weighed (choice .rfl (asking weighed _ _ rfl) (asking weighed _ _ rfl))

theorem dispatched_alike (h : c.Alike d) (ok : Bool) (t u : Option String) :
    (dispatched c ok t).Alike (dispatched d ok u) :=
  choice .rfl (asking h _ _ rfl) (replanning h _ _ t u)

theorem accepted_alike (h : c.Alike d) (decision : ReviewDecision) {m n : UInt32}
    (proven : m = 0 ↔ n = 0) : (accepted c decision m).Alike (accepted d decision n) := by
  refine choice (not_congr proven) (asking h _ _ rfl) ?_
  cases decision <;> exact asking h _ _ rfl

theorem patched_alike (h : c.Alike d) (confidence : Float) :
    (patched c confidence).Alike (patched d confidence) := by
  have weighed : Context.Alike { c with confidence } { d with confidence } := h.weighed rfl
  exact gate weighed (planning weighed _)

/-- A rule that holds in some states only, which the snapshots share. -/
theorem only_alike {p : Prop} [Decidable p] {m n : Move} (h : m.Alike n) :
    Option.Rel Move.Alike (if p then some m else none) (if p then some n else none) := by
  split
  · exact .some h
  · exact .none

variable {s t : Snapshot} {e f : Event}

theorem global_alike (same : s.Alike t) (alike : e.Alike f) :
    Option.Rel Move.Alike (global? s e) (global? t f) := by
  have cancelled (u v : Option String) :
      Option.Rel Move.Alike (global? s (.cancel u)) (global? t (.cancel v)) :=
    .some (asking same.context _ _ (by simp))
  have failed (u v : String) :
      Option.Rel Move.Alike (global? s (.fatalError u)) (global? t (.fatalError v)) :=
    .some (asking (same.context.failed u v) _ _ rfl)
  have replanned (u v : Option String) : Option.Rel Move.Alike
      (global? s (.requirementChanged u)) (global? t (.requirementChanged v)) := by
    rw [global?, global?, same.state]
    split
    · exact .none
    · exact .some (replanning same.context _ _ u v)
  cases alike with
  | cancel u v => exact cancelled u v
  | fatalError u v => exact failed u v
  | requirementChanged u v => exact replanned u v
  | same e =>
    cases e with
    | cancel u => exact cancelled u u
    | fatalError u => exact failed u u
    | requirementChanged u => exact replanned u u
    | _ => exact .none
  | _ => exact .none

theorem local_alike (same : s.Alike t) (alike : e.Alike f) :
    Option.Rel Move.Alike (local? s e) (local? t f) := by
  obtain ⟨st, c⟩ := s
  obtain ⟨st', d⟩ := t
  obtain ⟨rfl, h⟩ : st = st' ∧ c.Alike d := ⟨same.state, same.context⟩
  cases alike with
  | bdProbeResult empty => exact only_alike (probed_alike h empty)
  | resumePlanLoaded i j => exact only_alike (observation (h.settled _ _) _)
  | userInput t u => exact only_alike (asking h _ _ rfl)
  | intakeCompleted confidence conflict i j =>
    exact only_alike (intakeDone_alike h confidence conflict i j)
  | switchResolved confidence i j => exact only_alike (switchDone_alike h confidence i j)
  | epicSynced i j => exact only_alike (planning (h.adopted i j) _)
  | researchResult a b => exact only_alike (resultReceived_alike h a b)
  | dispatchResult ok t u => exact only_alike (dispatched_alike h ok t u)
  | reviewResult decision proven => exact only_alike (accepted_alike h decision proven)
  | requirementChanged | cancel | fatalError | heartbeat => exact .none
  | same e =>
    cases e with
    | bdProbeResult cs => exact only_alike (probed_alike h .rfl)
    | resumeDecision resume =>
      exact only_alike (choice .rfl (resumption h _) (silent (h.dequeued) _ _))
    | resumePlanLoaded i => exact only_alike (observation (h.settled _ _) _)
    | intakeCompleted confidence conflict i =>
      exact only_alike (intakeDone_alike h confidence conflict i i)
    | switchResolved confidence i => exact only_alike (switchDone_alike h confidence i i)
    | epicSynced i => exact only_alike (planning (h.adopted i i) _)
    | planBaselined confidence need => exact only_alike (planned_alike h confidence need)
    | planReviewPass => exact only_alike (observation (h.counted rfl) _)
    | planReviewFeedback blocking => exact only_alike (reviewed_alike h blocking)
    | observeDefined expected => exact only_alike (roundOpened_alike h expected)
    | researchResult a => exact only_alike (resultReceived_alike h a a)
    | researchEvaluated decision missing =>
      exact only_alike (evaluated_alike h decision missing)
    | scheduleDecided confidence busy => exact only_alike (scheduled_alike h confidence busy)
    | dispatchResult ok t => exact only_alike (dispatched_alike h ok t t)
    | reviewResult decision claims => exact only_alike (accepted_alike h decision .rfl)
    | replanApplied confidence => exact only_alike (patched_alike h confidence)
    | requirementChanged | cancel | fatalError | heartbeat | tick => exact .none
    | _ => exact only_alike (asking h _ _ rfl)

theorem rule_alike (same : s.Alike t) (alike : e.Alike f) :
    Option.Rel Move.Alike (rule? s e) (rule? t f) := by
  have first := global_alike same alike
  rw [rule?, rule?]
  cases hs : global? s e with
  | none =>
    cases ht : global? t f with
    | none => exact local_alike same alike
    | some n =>
      rw [hs, ht] at first
      cases first
  | some m =>
    cases ht : global? t f with
    | none =>
      rw [hs, ht] at first
      cases first
    | some n => rwa [hs, ht] at first

end Rules

section Runs

variable {s t : Snapshot}

theorem absorbed_alike (same : s.Alike t) (reason : String) :
    (absorbed s reason).Alike (absorbed t reason) :=
  ⟨same.state, rfl, rfl, rfl, same⟩

theorem taken_alike {e f : Event} {m n : Move} (hs : Turn s e m) (ht : Turn t f n)
    (alike : m.Alike n) : (taken s m).Alike (taken t n) where
  state := alike.snapshot.state
  reason := congrArg some alike.reason
  changed := by
    rw [← transition_of_turn hs, ← transition_of_turn ht, changed_iff.mpr ⟨m, hs⟩,
      changed_iff.mpr ⟨n, ht⟩]
  kinds := alike.kinds
  snapshot := alike.snapshot

theorem transition_alike (same : s.Alike t) {e f : Event} (alike : e.Alike f) :
    (transition s e).Alike (transition t f) := by
  rw [transition, transition, same.state]
  cases live : t.state.isTerminal with
  | true => exact absorbed_alike same _
  | false =>
    have rules := Rules.rule_alike same alike
    cases hs : rule? s e <;> cases ht : rule? t f <;> rw [hs, ht] at rules <;> cases rules
    case none.none => exact absorbed_alike same _
    case some.some moves =>
      exact taken_alike (turn_iff.mpr ⟨same.state ▸ live, hs⟩) (turn_iff.mpr ⟨live, ht⟩) moves

/-- Runs from snapshots that are alike, through events that are alike one by one, come at
every step to the same state, for the same reason and with commands of the same kinds, and
to snapshots that are alike again. -/
theorem passages_alike (same : s.Alike t) {es fs : List Event}
    (alike : List.Forall₂ Event.Alike es fs) :
    List.Forall₂ (fun p q => p.result.Alike q.result) (s.passages es) (t.passages fs) := by
  induction alike generalizing s t with
  | nil => exact .nil
  | cons first _ ih =>
    have here := transition_alike same first
    exact .cons here (ih here.snapshot)

section Resumed

def resuming (epicId : String) : Snapshot :=
  ⟨.idleProbeBd, { autoResume := true, currentEpicId := some epicId }⟩

def findings (found : List ResumeCandidate) (epicId : Option String) : List Event :=
  [.bdProbeResult found, .heartbeat "watcher", .resumePlanLoaded epicId, .observeDefined (some 2)]

theorem findings_alike {cs ds : List ResumeCandidate} (empty : cs = [] ↔ ds = [])
    (i j : Option String) : List.Forall₂ Event.Alike (findings cs i) (findings ds j) :=
  .cons (.bdProbeResult empty) <| .cons (.heartbeat _ _) <| .cons (.resumePlanLoaded i j) <|
  .cons (.same _) .nil

theorem passages_alike_resumed :
    (resuming "epic-1").Alike (resuming "epic-2") ∧
      List.Forall₂ (fun p q => p.result.Alike q.result)
        ((resuming "epic-1").passages
          (findings [⟨"epic-1", 4, "2024-05-01", none⟩, ⟨"epic-7", 1, "", some ["epic-1"]⟩] none))
        ((resuming "epic-2").passages
          (findings [⟨"epic-5", -3, "1714521600000", some []⟩] (some "epic-5"))) := by
  have same : (resuming "epic-1").Alike (resuming "epic-2") :=
    ⟨rfl, rfl, rfl, rfl, rfl, rfl, rfl⟩
  exact ⟨same, passages_alike same (findings_alike (by simp) _ _)⟩

end Resumed

end Runs

end ControlPlane
