import Mathlib.Data.List.Induction
import ControlPlane.Drive.Demo
import ControlPlane.Proofs.Run.Commands
import ControlPlane.Proofs.Run.Course

/-!
# No step of the pipeline is skipped

The stations from the observation to the delivery stand in a line. A turn may lead back
along the line as far as it likes, but forward by one station only, and then to the very
state that stands there. So a run that is at some station has passed all those before it,
one after the other, since it was last in front of the line. After a setback the baseline
stands in front as well.
-/

set_option autoImplicit false

namespace ControlPlane

variable {s : Snapshot} {e : Event} {m : Move}

def preparation : List State :=
  [.observe, .researchFanout, .researchIngest, .researchEval, .detailDesign, .coderHandoff,
   .schedule]

def delivery : List State := [.dispatch, .coderExec, .reviewAccept, .complete]

def stations : List State := preparation ++ delivery

def earlyStates : List State :=
  [.boot, .idleProbeBd, .resumeAsk, .resumePlan, .idle, .intake, .askSwitch, .epicSync,
   .planBaseline, .planReview, .observe, .replanPatch]

def openingStates : List State :=
  [.boot, .idleProbeBd, .resumeAsk, .resumePlan, .idle, .intake]

theorem Snapshot.visited_sublist (s : Snapshot) (es : List Event) (e : Event) :
    (s.visited es).Sublist (s.visited (es ++ [e])) := by
  rw [visited_concat]
  split
  · exact List.Sublist.refl _
  · exact List.sublist_append_left _ _

namespace State

/-- How many stations a run in a state has come to. Those who wait for others or for room are
still at the station before. -/
def stage : State → Nat
  | observe => 1
  | researchFanout | waitOthers => 2
  | researchIngest => 3
  | researchEval => 4
  | detailDesign => 5
  | coderHandoff => 6
  | schedule | queue => 7
  | dispatch => 8
  | coderExec => 9
  | reviewAccept => 10
  | complete => 11
  | _ => 0

def replannedStage (st : State) : Nat :=
  if st = planBaseline ∨ st = planReview then 1 else if st.stage = 0 then 0 else st.stage + 1

end State

structure Climbs (route : List State) (stage : State → Nat) (inside : State → Prop) : Prop where
  stays : ∀ {s : Snapshot} {e : Event} {m : Move}, Turn s e m → inside s.state →
    inside m.snapshot.state
  next : ∀ {s : Snapshot} {e : Event} {m : Move}, Turn s e m → inside s.state →
    stage m.snapshot.state ≤ stage s.state ∨
      stage m.snapshot.state = stage s.state + 1 ∧
        route[stage s.state]? = some m.snapshot.state

namespace Climbs

variable {route : List State} {stage : State → Nat} {inside : State → Prop}

/-- What has been passed still has, wherever the next event leads. -/
theorem visited_next (h : Climbs route stage inside) {es : List Event}
    (here : inside (s.after es).state)
    (passed : (route.take (stage (s.after es).state)).Sublist (s.visited es)) (e : Event) :
    (route.take (stage (s.after (es ++ [e])).state)).Sublist (s.visited (es ++ [e])) := by
  rw [Snapshot.after_concat]
  rcases next_cases (s.after es) e with ⟨m, turn, hn⟩ | ⟨-, same⟩
  · rw [hn]
    rcases h.next turn here with back | ⟨onward, station⟩
    · have shorter := (List.take_prefix_take_left (l := route) back).sublist
      exact (shorter.trans passed).trans (s.visited_sublist es e)
    · have moved : ((s.after es).next e).state ≠ (s.after es).state := by
        intro stays
        rw [hn] at stays
        rw [stays] at onward
        omega
      rw [onward, List.take_add_one, station, Snapshot.visited_concat, if_neg moved, hn]
      exact passed.append (List.Sublist.refl _)
  · rw [same]
    exact passed.trans (s.visited_sublist es e)

/-- Along a run, the line up to the station that has been come to is among the visited states. -/
theorem visited (h : Climbs route stage inside) (here : inside s.state)
    (start : (route.take (stage s.state)).Sublist [s.state]) (es : List Event) :
    (route.take (stage (s.after es).state)).Sublist (s.visited es) := by
  have reached : ∀ fs, inside (s.after fs).state := fun fs =>
    after_keeps (P := fun t => inside t.state) (fun turn ht => h.stays turn ht) here fs
  -- The last event is split off, for the line grows at its end.
  induction es using List.reverseRecOn with
  | nil => exact start
  | append_singleton es e ih => exact h.visited_next (reached es) ih e

end Climbs

theorem climbs_stations : Climbs stations State.stage fun _ => True where
  stays _ _ := trivial
  next h _ := by
    cases h with
    | resultReceived open_ =>
      rcases open_ with rfl | rfl <;> simp [State.stage, stations, preparation]
    | _ => simp [State.stage, stations, preparation, delivery]

theorem climbs_replanned :
    Climbs (.planBaseline :: stations) State.replannedStage (· ∉ openingStates) where
  stays h outside := by
    cases h with
    | resultReceived open_ =>
      simp [openingStates]
    | _ => simp_all [openingStates]
  next h outside := by
    cases h with
    | resultReceived open_ =>
      rcases open_ with rfl | rfl <;>
        simp [State.replannedStage, State.stage, stations, preparation]
    | _ =>
      simp_all [openingStates, State.replannedStage, State.stage, stations, preparation,
        delivery]

inductive Setback : Event → Prop
  | requirementChanged (summary : Option String) : Setback (.requirementChanged summary)
  | dispatchFailed (error : Option String) : Setback (.dispatchResult false error)
  | reviewReplan : Setback (.reviewResult .replan 0)
  | researchReplan (missing : Option UInt32) : Setback (.researchEvaluated .needReplan missing)

theorem setback_state (h : Turn s e m) (setback : Setback e) :
    m.snapshot.state = .replanPatch ∨ m.snapshot.state = .planBaseline := by
  cases setback with
  | requirementChanged =>
    cases h with
    | requirementChanged => exact .inl rfl
  | dispatchFailed =>
    cases h with
    | dispatchFailed => exact .inl rfl
  | reviewReplan =>
    cases h with
    | evidenceMissing c decision claims unproven => exact absurd rfl unproven
    | reviewReplan => exact .inl rfl
  | researchReplan =>
    cases h with
    | needReplan => exact .inr rfl

/-- The coder is called on the way into the dispatch only. -/
theorem coder_called (s : Snapshot) (e : Event)
    (called : .dispatchCoder ∈ (transition s e).commands.map (·.kind)) :
    (s.next e).state = .dispatch := by
  rcases transition_cases s e with ⟨m, h, taken_⟩ | ⟨-, reason, absorbed_⟩
  · rw [taken_] at called
    have asked := turn_kinds h _ called
    rw [next_of_turn h]
    cases st : m.snapshot.state <;> simp_all [State.asks]
  · rw [absorbed_] at called
    cases called

def Machine.visitedSince (late early : Machine) : List State :=
  late.history.drop early.history.length ++ [late.state]

theorem visitedSince_after (m : Machine) (es : List Event) :
    (m.after es).visitedSince m = m.snapshot.visited es := by
  rw [Machine.visitedSince, Machine.after_history, List.drop_left, Machine.after_state,
    Snapshot.visited]

theorem visited_stations (s : Snapshot) (early : s.state ∈ earlyStates) (es : List Event) :
    (stations.take (s.after es).state.stage).Sublist (s.visited es) := by
  apply climbs_stations.visited trivial
  revert early
  generalize s.state = st
  revert st
  decide

theorem visited_replanned (s : Snapshot)
    (back : s.state = .replanPatch ∨ s.state = .askSwitch ∨ s.state = .planBaseline)
    (es : List Event) :
    ((State.planBaseline :: stations).take (s.after es).state.replannedStage).Sublist
      (s.visited es) := by
  apply climbs_replanned.visited
  · rcases back with h | h | h <;> rw [h] <;> decide
  · rcases back with h | h | h <;> rw [h] <;> decide

/-- After a setback that was accepted the coder is not called before all of the preparation. -/
theorem coder_replanned (early : Machine) (e : Event) (setback : Setback e)
    (accepted : (early.dispatch e).result.changed = true) (fs : List Event) (f : Event) :
    let replanned := (early.dispatch e).machine
    .dispatchCoder ∈ ((replanned.after fs).dispatch f).result.commands.map (·.kind) →
      (State.planBaseline :: preparation ++ [State.dispatch]).Sublist
        (((replanned.after fs).dispatch f).machine.visitedSince replanned) := by
  intro replanned called
  obtain ⟨m, turn⟩ := changed_iff.mp accepted
  have next : replanned.snapshot = m.snapshot := next_of_turn turn
  have back : replanned.state = .replanPatch ∨ replanned.state = .planBaseline := by
    rw [Machine.state, next]
    exact setback_state turn setback
  have reached := coder_called (replanned.after fs).snapshot f called
  have last : ((replanned.after fs).dispatch f).machine = replanned.after (fs ++ [f]) :=
    (Machine.after_append replanned fs [f]).symm
  have passed := visited_replanned replanned.snapshot (by
    rcases back with h | h
    · exact .inl h
    · exact .inr (.inr h)) (fs ++ [f])
  rw [Machine.after_snapshot, ← Snapshot.after_concat] at reached
  rw [reached] at passed
  rw [last, visitedSince_after]
  exact passed

/-- Between a point of a run in front of the line and a later one in the dispatch, the run
visits all of the preparation in order, and on the way to completion all of the delivery as
well. From a patch of the plan or a question about the epic the baseline comes before that;
and after a setback that was accepted the coder is not called before the run has visited the
baseline and all of the preparation again. -/
theorem pipeline_visited (s : Snapshot) (es fs : List Event) :
    let early := (Machine.resume s).after es
    let late := early.after fs
    (early.state ∈ earlyStates →
      (late.state = .dispatch → (preparation ++ [State.dispatch]).Sublist (late.visitedSince early)) ∧
        (late.state = .complete →
          (preparation ++ delivery).Sublist (late.visitedSince early))) ∧
      (early.state = .replanPatch ∨ early.state = .askSwitch →
        (late.state = .dispatch →
          (State.planBaseline :: preparation ++ [State.dispatch]).Sublist (late.visitedSince early)) ∧
        (late.state = .complete →
          (State.planBaseline :: preparation ++ delivery).Sublist (late.visitedSince early))) ∧
      ∀ e, Setback e → (early.dispatch e).result.changed = true →
        let replanned := (early.dispatch e).machine
        ∀ f, .dispatchCoder ∈ ((replanned.after fs).dispatch f).result.commands.map (·.kind) →
          (State.planBaseline :: preparation ++ [State.dispatch]).Sublist
            (((replanned.after fs).dispatch f).machine.visitedSince replanned) := by
  intro early late
  have here : late.state = (early.snapshot.after fs).state := Machine.after_state early fs
  have seen : late.visitedSince early = early.snapshot.visited fs := visitedSince_after early fs
  rw [seen]
  refine ⟨fun front => ?_, fun back => ?_,
    fun e setback accepted => coder_replanned early e setback accepted fs⟩
  · have passed := visited_stations early.snapshot front fs
    rw [← here] at passed
    refine ⟨fun reached => ?_, fun reached => ?_⟩ <;>
      · rw [reached] at passed
        exact passed
  · have passed := visited_replanned early.snapshot (by
      rcases back with h | h
      · exact .inl h
      · exact .inr (.inl h)) fs
    rw [← here] at passed
    refine ⟨fun reached => ?_, fun reached => ?_⟩ <;>
      · rw [reached] at passed
        exact passed

/-- A patched plan that is delivered, and a requirement that changes on the way: the coder is
called a second time. -/
theorem pipeline_visited_twice :
    let s : Snapshot := ⟨.replanPatch, {}⟩
    let prepared : List Event :=
      [.replanApplied 0.9, .planBaselined 0.9 false, .observeDefined none,
       .researchResult (Demo.artifact "researcher-1"), .researchIngested,
       .researchEvaluated .enoughInfo none, .detailDesigned, .coderHandoffReady]
    let delivered : List Event :=
      [.scheduleDecided 0.9 false, .dispatchResult true none, .coderResult, .reviewResult .pass 0]
    let early := Machine.resume s
    let late := early.after (prepared ++ delivered)
    let replanned :=
      (((Machine.resume s).after prepared).dispatch (.requirementChanged none)).machine
    let again := ((replanned.after prepared).dispatch (.scheduleDecided 0.9 false)).machine
    early.state = .replanPatch ∧ late.state = .complete ∧
      (State.planBaseline :: preparation ++ delivery).Sublist (late.visitedSince early) ∧
      (State.planBaseline :: preparation ++ [State.dispatch]).Sublist
        (again.visitedSince replanned) := by
  intro s prepared delivered early late replanned again
  have complete : late.state = .complete := by decide
  have direct := (pipeline_visited s [] (prepared ++ delivered)).2.1 (.inl rfl)
  have later := (pipeline_visited s prepared prepared).2.2 (.requirementChanged none)
    (.requirementChanged none) (by decide) (.scheduleDecided 0.9 false) (by decide)
  exact ⟨rfl, complete, direct.2 complete, later⟩

end ControlPlane
