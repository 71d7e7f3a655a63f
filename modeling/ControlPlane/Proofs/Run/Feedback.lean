import Mathlib.Data.List.Induction
import ControlPlane.Proofs.Run.Course

/-!
# The bound on feedback

Feedback that does not block is counted, and the count ends a review at the bound. A
review that is left early leaves its count behind; every way back into a review passes
the baseline, where the count is cleared. So each review starts from zero and takes no
more feedback than the bound allows.
-/

set_option autoImplicit false

namespace ControlPlane

variable {s : Snapshot} {e : Event} {m : Move} {bound : UInt32}

def feedbackStates : List State :=
  [.planReview, .replanPatch, .askSwitch, .epicSync, .cancelled, .failed]

structure FeedbackBounded (bound : UInt32) (s : Snapshot) : Prop where
  bound_kept : s.context.maxReviewerFeedbackCount = bound
  below : s.context.reviewerFeedbackCount = 0 ∨ s.context.reviewerFeedbackCount < bound
  found : s.context.reviewerFeedbackCount ≠ 0 → s.state ∈ feedbackStates

theorem turn_bound (h : Turn s e m) :
    m.snapshot.context.maxReviewerFeedbackCount = s.context.maxReviewerFeedbackCount := by
  cases h <;>
    simp [Rules.intakeContext_eq, Rules.switchContext, Rules.adopted_eq, Context.settleOn]

theorem after_bound (s : Snapshot) (es : List Event) :
    (s.after es).context.maxReviewerFeedbackCount = s.context.maxReviewerFeedbackCount :=
  after_keeps (P := fun t => t.context.maxReviewerFeedbackCount =
      s.context.maxReviewerFeedbackCount)
    (fun h ht => (turn_bound h).trans ht) rfl es

/-- A turn counts feedback in a review, clears the count, or leaves it. Where it leaves it,
no state of a left count leads out of these states. -/
theorem turn_feedback (h : Turn s e m) :
    (s.state = .planReview ∧ m.snapshot.state = .planReview ∧
        m.snapshot.context.reviewerFeedbackCount = countUp s.context.reviewerFeedbackCount ∧
        countUp s.context.reviewerFeedbackCount < s.context.maxReviewerFeedbackCount) ∨
      m.snapshot.context.reviewerFeedbackCount = 0 ∨
      m.snapshot.context.reviewerFeedbackCount = s.context.reviewerFeedbackCount ∧
        (s.state ∈ feedbackStates → m.snapshot.state ∈ feedbackStates) := by
  cases h with
  | countedFeedback c more => exact .inl ⟨rfl, rfl, rfl, more⟩
  | resultReceived open_ c artifact =>
    rcases open_ with rfl | rfl <;> simp [feedbackStates]
  | _ =>
    simp [feedbackStates, Rules.intakeContext_eq, Rules.switchContext, Rules.adopted_eq,
      Context.settleOn]

theorem turn_keeps_feedback (h : Turn s e m) (hs : FeedbackBounded bound s) :
    FeedbackBounded bound m.snapshot := by
  have hb : m.snapshot.context.maxReviewerFeedbackCount = bound :=
    (turn_bound h).trans hs.bound_kept
  rcases turn_feedback h with ⟨-, stay, counted, more⟩ | cleared | ⟨kept, leads⟩
  · refine ⟨hb, .inr ?_, fun _ => ?_⟩
    · rw [counted, ← hs.bound_kept]
      exact more
    · rw [stay]
      decide
  · exact ⟨hb, .inl cleared, fun found => absurd cleared found⟩
  · refine ⟨hb, ?_, ?_⟩
    · rw [kept]
      exact hs.below
    · rw [kept]
      exact fun found => leads (hs.found found)

theorem after_keeps_feedback (hs : FeedbackBounded bound s) (es : List Event) :
    FeedbackBounded bound (s.after es) :=
  after_keeps turn_keeps_feedback hs es

/-- A review is entered from the baseline, where no count is left. -/
theorem review_entered (hs : FeedbackBounded bound s) (outside : s.state ≠ .planReview)
    (enters : (s.next e).state = .planReview) :
    (s.next e).context.reviewerFeedbackCount = 0 := by
  rcases next_cases s e with ⟨m, h, hn⟩ | ⟨-, hn⟩
  · rw [hn] at enters ⊢
    cases h with
    | reviewRequired c =>
      exact Decidable.not_not.mp fun found => by simpa [feedbackStates] using hs.found found
    | countedFeedback => exact absurd rfl outside
    | _ => simp at enters
  · rw [hn] at enters
    exact absurd enters outside

def Event.isRemark : Event → Bool
  | .planReviewFeedback false => true
  | _ => false

namespace Snapshot

def Reviewed (s : Snapshot) (es : List Event) : Prop :=
  ∀ p ∈ s.passages es, p.source = .planReview

def remarks (s : Snapshot) (es : List Event) : Nat :=
  (s.passages es).countP fun p => p.event.isRemark && p.result.changed

theorem reviewed_concat (es : List Event) :
    s.Reviewed (es ++ [e]) ↔ s.Reviewed es ∧ (s.after es).state = .planReview := by
  simp [Reviewed, passages_concat, or_imp, forall_and]

theorem remarks_concat (es : List Event) :
    s.remarks (es ++ [e]) =
      s.remarks es +
        if e.isRemark && (transition (s.after es) e).changed then 1 else 0 := by
  rw [remarks, passages_concat, List.countP_append, List.countP_singleton, remarks]

end Snapshot

theorem remark_turn (inside : s.state = .planReview) :
    Turn s (.planReviewFeedback false) (Rules.reviewed s.context false) := by
  obtain ⟨st, c⟩ := s
  subst inside
  exact .reviewed c false

theorem isRemark_iff : e.isRemark = true ↔ e = .planReviewFeedback false := by
  constructor
  · intro h
    unfold Event.isRemark at h
    split at h
    · rfl
    · simp at h
  · rintro rfl
    rfl

/-- What an event of a review that is no remark comes to: nothing, or the end of the review. -/
theorem review_other (inside : s.state = .planReview) (other : e.isRemark = false) :
    s.next e = s ∨ (s.next e).state ≠ .planReview := by
  rcases next_cases s e with ⟨m, h, hn⟩ | ⟨-, hn⟩
  · right
    rw [hn]
    cases h with
    | reviewRequired | countedFeedback => simp [Event.isRemark] at *
    | _ => simp
  · exact .inl hn

theorem remark_counted (inside : s.state = .planReview)
    (more : countUp s.context.reviewerFeedbackCount < s.context.maxReviewerFeedbackCount) :
    s.next (.planReviewFeedback false) =
      ⟨.planReview,
        { s.context with
          reviewerFeedbackCount := countUp s.context.reviewerFeedbackCount }⟩ := by
  rw [next_of_turn (remark_turn inside)]
  simp [Rules.reviewed, UInt32.not_le.mpr more]

theorem remark_last (inside : s.state = .planReview)
    (last : s.context.maxReviewerFeedbackCount ≤ countUp s.context.reviewerFeedbackCount) :
    s.next (.planReviewFeedback false) =
      ⟨.observe, { s.context with reviewerFeedbackCount := 0 }⟩ := by
  rw [next_of_turn (remark_turn inside)]
  simp [Rules.reviewed, last]

def remarkBound (bound : UInt32) : Nat := max 1 bound.toNat

theorem remarkBound_pos (bound : UInt32) : 0 < remarkBound bound :=
  Nat.lt_of_lt_of_le Nat.zero_lt_one (Nat.le_max_left _ _)

theorem countUp_lt {n k : UInt32} : countUp n < k ↔ n.toNat + 1 < remarkBound k := by
  have hk : k.toNat < 4294967296 := k.toNat_lt
  rw [UInt32.lt_iff_toNat_lt, countUp_toNat, remarkBound]
  omega

theorem countUp_of_lt {n k : UInt32} (h : countUp n < k) : (countUp n).toNat = n.toNat + 1 := by
  have hk : k.toNat < 4294967296 := k.toNat_lt
  have hn := UInt32.lt_iff_toNat_lt.mp h
  rw [countUp_toNat] at hn ⊢
  omega

/-- As long as a review goes on that began without a count, the count is the number of its
remarks, and there is room for one more. -/
theorem review_remarks (begun : s.context.reviewerFeedbackCount = 0) (es : List Event)
    (inside : s.Reviewed es) :
    s.remarks es ≤ remarkBound s.context.maxReviewerFeedbackCount ∧
      ((s.after es).state = .planReview →
        (s.after es).context.reviewerFeedbackCount.toNat = s.remarks es ∧
          s.remarks es < remarkBound s.context.maxReviewerFeedbackCount) := by
  -- The event at the end comes in the state to which the others have led.
  induction es using List.reverseRecOn with
  | nil =>
    have room := remarkBound_pos s.context.maxReviewerFeedbackCount
    simp [Snapshot.remarks, Snapshot.passages, begun, room]
  | append_singleton es e ih =>
    obtain ⟨before, here⟩ := (Snapshot.reviewed_concat es).mp inside
    obtain ⟨count, room⟩ := (ih before).2 here
    have bound := after_bound s es
    rw [Snapshot.remarks_concat, Snapshot.after_concat]
    cases remark : e.isRemark with
    | false =>
      have room' := Nat.le_of_lt room
      rcases review_other here remark with same | out
      · rw [same]
        simp [count, room, room']
      · simp [out, room']
    | true =>
      obtain rfl := isRemark_iff.mp remark
      have accepted := changed_iff.mpr ⟨_, remark_turn here⟩
      by_cases more : countUp (s.after es).context.reviewerFeedbackCount <
          (s.after es).context.maxReviewerFeedbackCount
      · have more' := countUp_lt.mp more
        rw [bound, count] at more'
        rw [remark_counted here more]
        simp [accepted, countUp_of_lt more, count, more', Nat.le_of_lt more']
      · rw [remark_last here (UInt32.not_lt.mp more)]
        have room' : s.remarks es + 1 ≤ _ := room
        simp [accepted, room']

theorem review_stay (begun : s.context.reviewerFeedbackCount = 0) (es : List Event)
    (inside : s.Reviewed es) (here : (s.after es).state = .planReview) :
    let t := (s.after es).next (.planReviewFeedback false)
    (s.remarks es + 1 < remarkBound s.context.maxReviewerFeedbackCount →
        t.state = .planReview) ∧
      (s.remarks es + 1 = remarkBound s.context.maxReviewerFeedbackCount →
        t.state = .observe ∧ t.context.reviewerFeedbackCount = 0) := by
  intro t
  have count := ((review_remarks begun es inside).2 here).1
  have room : countUp (s.after es).context.reviewerFeedbackCount <
        (s.after es).context.maxReviewerFeedbackCount ↔
      s.remarks es + 1 < remarkBound s.context.maxReviewerFeedbackCount := by
    rw [countUp_lt, count, after_bound]
  constructor
  · intro more
    simp [t, remark_counted here (room.mpr more)]
  · intro last
    have full := fun more => Nat.ne_of_lt (room.mp more) last
    simp [t, remark_last here (UInt32.not_lt.mp full)]

def Machine.EntersReview (m : Machine) (es : List Event) : Prop :=
  (m.after es).state = .planReview ∧ (es ≠ [] → (m.after es.dropLast).state ≠ .planReview)

theorem feedback_begun (begun : s.context.reviewerFeedbackCount = 0) :
    FeedbackBounded s.context.maxReviewerFeedbackCount s :=
  ⟨rfl, .inl begun, fun found => absurd begun found⟩

theorem entered_uncounted (begun : s.context.reviewerFeedbackCount = 0) (es : List Event)
    (enters : (Machine.resume s).EntersReview es) :
    (s.after es).context.reviewerFeedbackCount = 0 := by
  obtain ⟨inside, outside⟩ := enters
  rcases List.eq_nil_or_concat es with rfl | ⟨before, e, rfl⟩
  · exact begun
  · have outside' : (s.after before).state ≠ .planReview := by simpa using outside
    rw [Machine.after_state, Machine.resume_snapshot] at inside
    rw [List.concat_eq_append, Snapshot.after_concat] at inside ⊢
    exact review_entered (after_keeps_feedback (feedback_begun begun) before) outside' inside

/-- A run that begins without a count keeps it below the bound and in the states where it
may be left. A review is entered without a count. It accepts at most as many remarks as the
bound allows, one at least; the last of these leads on to the observation with the count
cleared, and each one before it leaves the run in the review. -/
theorem feedback_bounded (st : State) (c : Context) (begun : c.reviewerFeedbackCount = 0)
    (es : List Event) :
    let m := (Machine.resume ⟨st, c⟩).after es
    let bound := remarkBound c.maxReviewerFeedbackCount
    FeedbackBounded c.maxReviewerFeedbackCount m.snapshot ∧
      (∀ e, m.state ≠ .planReview → (m.dispatch e).result.state = .planReview →
        (m.dispatch e).result.context.reviewerFeedbackCount = 0) ∧
      ((Machine.resume ⟨st, c⟩).EntersReview es → ∀ stay, m.snapshot.Reviewed stay →
        m.snapshot.remarks stay ≤ bound ∧
          ((m.after stay).state = .planReview →
            let r := ((m.after stay).dispatch (.planReviewFeedback false)).result
            m.snapshot.remarks stay < bound ∧ r.changed = true ∧
              (m.snapshot.remarks stay + 1 < bound → r.state = .planReview) ∧
              (m.snapshot.remarks stay + 1 = bound →
                r.state = .observe ∧ r.context.reviewerFeedbackCount = 0))) := by
  intro m bound
  have reached : m.snapshot = Snapshot.after ⟨st, c⟩ es := Machine.after_snapshot _ es
  have kept : FeedbackBounded c.maxReviewerFeedbackCount m.snapshot := by
    rw [reached]
    exact after_keeps_feedback (s := ⟨st, c⟩) (feedback_begun begun) es
  refine ⟨kept, fun e outside enters => review_entered kept outside enters, ?_⟩
  intro entered stay inside
  have uncounted : m.snapshot.context.reviewerFeedbackCount = 0 := by
    rw [reached]
    exact entered_uncounted begun es entered
  have most := review_remarks uncounted stay inside
  rw [kept.bound_kept] at most
  refine ⟨most.1, fun here => ?_⟩
  rw [Machine.after_state] at here
  have next := review_stay uncounted stay inside here
  rw [kept.bound_kept] at next
  refine ⟨(most.2 here).2, ?_, ?_⟩
  · rw [Machine.dispatch_result, Machine.after_snapshot m stay]
    exact changed_iff.mpr ⟨_, remark_turn here⟩
  · rw [Machine.dispatch_result, Machine.after_snapshot m stay]
    exact next

/-- A review that is entered again after one that was left early, and its second and last
remark. -/
theorem feedback_bounded_reentered :
    let c : Context := { maxReviewerFeedbackCount := 2 }
    let es : List Event :=
      [.planReviewFeedback false, .requirementChanged none, .replanApplied 0.5,
       .switchResolved (some 0.9) none, .epicSynced none, .planBaselined 0.9 true]
    let m := (Machine.resume ⟨.planReview, c⟩).after es
    let stay : List Event := [.tick, .planReviewFeedback false]
    c.reviewerFeedbackCount = 0 ∧ (Machine.resume ⟨.planReview, c⟩).EntersReview es ∧
      m.snapshot.Reviewed stay ∧ (m.after stay).state = .planReview ∧
      m.snapshot.remarks stay + 1 = remarkBound 2 ∧
      ((m.after stay).dispatch (.planReviewFeedback false)).result.state = .observe := by
  intro c es m stay
  have enters : (Machine.resume ⟨.planReview, c⟩).EntersReview es :=
    ⟨by decide, fun _ => by decide⟩
  have inside : m.snapshot.Reviewed stay := by
    unfold Snapshot.Reviewed
    decide
  have here : (m.after stay).state = .planReview := by decide
  have last : m.snapshot.remarks stay + 1 = remarkBound 2 := by decide
  have stays := (feedback_bounded .planReview c rfl es).2.2 enters stay inside
  exact ⟨rfl, enters, inside, here, last, ((stays.2 here).2.2.2 last).1⟩

end ControlPlane
