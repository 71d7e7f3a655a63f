import ControlPlane.Proofs.Resume.Order
import ControlPlane.Proofs.Run.Course

/-!
# The way to a delivery

From every live state one event leads on towards the delivery, whatever the context holds. It
brings full confidence where one is weighed, so no gate turns it back; it resumes nothing and
lets no review go round again. The state alone says where it leads (`onward_turn`), so a run
that follows these events comes through the same states in every context, and within sixteen
events it is complete.
-/

set_option autoImplicit false

namespace ControlPlane

def fullConfidence : Float := 1.0

theorem fullConfidence_clear : ¬ fullConfidence < confidenceThreshold := by
  decide +kernel

theorem Context.clear_of_full {c : Context} (full : c.confidence = fullConfidence) :
    c.isLow = false := by
  rw [Context.isLow, full]
  exact decide_eq_false fullConfidence_clear

def State.onward : State → Event × State
  | boot => (.boot, idleProbeBd)
  | idleProbeBd => (.bdProbeResult [], idle)
  | resumeAsk => (.resumeDecision false, idle)
  | resumePlan => (.resumePlanLoaded none, observe)
  | idle => (.userInput "", intake)
  | intake => (.intakeCompleted fullConfidence false none, epicSync)
  | askSwitch => (.switchResolved (some fullConfidence) none, epicSync)
  | epicSync => (.epicSynced none, planBaseline)
  | planBaseline => (.planBaselined fullConfidence false, observe)
  | planReview => (.planReviewPass, observe)
  | observe => (.observeDefined none, researchFanout)
  | researchFanout | waitOthers => (.researchResult ⟨"", "", "", none⟩, researchIngest)
  | researchIngest => (.researchIngested, researchEval)
  | researchEval => (.researchEvaluated .enoughInfo none, detailDesign)
  | detailDesign => (.detailDesigned, coderHandoff)
  | coderHandoff => (.coderHandoffReady, schedule)
  | schedule => (.scheduleDecided fullConfidence false, dispatch)
  | queue => (.resourceAvailable, dispatch)
  | dispatch => (.dispatchResult true none, coderExec)
  | coderExec => (.coderResult, reviewAccept)
  | reviewAccept => (.reviewResult .pass 0, complete)
  | replanPatch => (.replanApplied fullConfidence, planBaseline)
  | complete => (.tick, complete)
  | cancelled => (.tick, cancelled)
  | failed => (.tick, failed)

theorem onward_turn {st : State} (live : st.isTerminal = false) (c : Context) :
    ∃ m, Turn ⟨st, c⟩ st.onward.1 m ∧ m.snapshot.state = st.onward.2 := by
  cases st with
  | intake => exact ⟨_, .intakeReady c fullConfidence none (Context.clear_of_full rfl), rfl⟩
  | askSwitch =>
    exact ⟨_, .switchResolved c (some fullConfidence) none (Context.clear_of_full rfl), rfl⟩
  | planBaseline => exact ⟨_, .planBaselined c fullConfidence (Context.clear_of_full rfl), rfl⟩
  | schedule => exact ⟨_, .scheduled c fullConfidence (Context.clear_of_full rfl), rfl⟩
  | replanPatch => exact ⟨_, .patched c fullConfidence (Context.clear_of_full rfl), rfl⟩
  | idleProbeBd => exact ⟨_, .nothingProbed c [] (ranked_eq_nil.mpr rfl), rfl⟩
  | researchFanout | waitOthers => exact ⟨_, .resultReceived (by decide) c _, rfl⟩
  | reviewAccept => exact ⟨_, .deliveryPassed c, rfl⟩
  | complete | cancelled | failed => cases live
  | _ => exact ⟨_, by constructor, rfl⟩

def State.course : Nat → State → List Event
  | 0, _ => []
  | n + 1, st => if st.isTerminal then [] else st.onward.1 :: course n st.onward.2

def State.courseEnd : Nat → State → State
  | 0, st => st
  | n + 1, st => courseEnd n st.onward.2

theorem course_length (n : Nat) (st : State) : (st.course n).length ≤ n := by
  induction n generalizing st with
  | zero => exact Nat.le_refl 0
  | succ n ih =>
    rw [State.course]
    split
    · exact Nat.zero_le _
    · exact Nat.succ_le_succ (ih _)

theorem courseEnd_terminal {st : State} (ended : st.isTerminal = true) (n : Nat) :
    st.courseEnd n = st := by
  have stays : st.onward.2 = st := by
    cases st with
    | complete | cancelled | failed => rfl
    | _ => cases ended
  induction n with
  | zero => rfl
  | succ n ih => rw [State.courseEnd, stays, ih]

/-- The events that lead on are accepted one after the other, and the context does not matter
for where they lead. -/
theorem course_followed (n : Nat) (st : State) (c : Context) :
    (∀ p ∈ (Snapshot.mk st c).passages (st.course n), p.result.changed = true) ∧
      ((Snapshot.mk st c).after (st.course n)).state = st.courseEnd n := by
  induction n generalizing st c with
  | zero => exact ⟨List.forall_mem_nil _, rfl⟩
  | succ n ih =>
    rw [State.course]
    split
    case isTrue ended => exact ⟨List.forall_mem_nil _, (courseEnd_terminal ended (n + 1)).symm⟩
    case isFalse live =>
      obtain ⟨m, h, state⟩ := onward_turn (by simpa using live) c
      obtain ⟨accepted, arrived⟩ := ih st.onward.2 m.context
      have next : Snapshot.next ⟨st, c⟩ st.onward.1 = ⟨st.onward.2, m.context⟩ := by
        rw [next_of_turn h, ← state]
        rfl
      rw [Snapshot.passages, List.forall_mem_cons, Snapshot.after_cons, next]
      exact ⟨⟨changed_iff.mpr ⟨m, h⟩, accepted⟩, arrived⟩

def interruptions : List EventKind := [.cancel, .fatalError, .requirementChanged]

theorem onward_ordinary (st : State) : st.onward.1.kind ∉ interruptions := by
  cases st <;> decide

theorem course_ordinary (n : Nat) (st : State) :
    ∀ e ∈ st.course n, e.kind ∉ interruptions := by
  induction n generalizing st with
  | zero => exact nofun
  | succ n ih =>
    rw [State.course]
    split
    · exact nofun
    · exact List.forall_mem_cons.mpr ⟨onward_ordinary st, ih _⟩

theorem courseEnd_complete : ∀ st ∈ State.all, st.isTerminal = false →
    st.courseEnd 16 = .complete := by
  decide

/-- No live state is a trap: sixteen events at most bring a run from it to its completion. All
of them are accepted, none interrupts the run, and they are the same for every context. -/
theorem completion_within_reach (st : State) (live : st.isTerminal = false) :
    ∃ es : List Event, es.length ≤ 16 ∧ (∀ e ∈ es, e.kind ∉ interruptions) ∧
      ∀ c : Context,
        (∀ p ∈ (Snapshot.mk st c).passages es, p.result.changed = true) ∧
          ((Snapshot.mk st c).after es).state = .complete := by
  refine ⟨st.course 16, course_length 16 st, course_ordinary 16 st, fun c => ?_⟩
  obtain ⟨accepted, arrived⟩ := course_followed 16 st c
  exact ⟨accepted, arrived.trans (courseEnd_complete st st.mem_all live)⟩

/-- A review that may not be given any more feedback, with all that it may count counted. -/
theorem completion_within_reach_exhausted : State.planReview.isTerminal = false ∧
    ∃ es : List Event,
      let s : Snapshot :=
        ⟨.planReview,
          { confidence := -1.0, reviewerFeedbackCount := 4294967295,
            maxReviewerFeedbackCount := 0, researchReceived := 4294967295 }⟩
      (∀ e ∈ es, e.kind ∉ interruptions) ∧ (∀ p ∈ s.passages es, p.result.changed = true) ∧
        (s.after es).state = .complete := by
  obtain ⟨es, -, ordinary, followed⟩ := completion_within_reach .planReview rfl
  exact ⟨rfl, es, ordinary, followed _⟩

end ControlPlane
