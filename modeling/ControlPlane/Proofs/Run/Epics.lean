import Mathlib.Data.List.Induction
import ControlPlane.Proofs.Run.Commands
import ControlPlane.Proofs.Run.Pipeline

/-!
# Which epic a run works on

The current epic is the last one that an accepted event has named, and it is never given up
without another one. An epic is pending from the intake that found the conflict until a switch
or a sync names an epic. What a run asks for tells the epics as they are after the event.
-/

set_option autoImplicit false

namespace ControlPlane

variable {s : Snapshot} {e : Event} {m : Move}

namespace Passage

/-- The epic that an event names for the run to work on, if it was accepted. A plan that is
loaded belongs to the first epic of the queue unless it says otherwise. -/
def named? (p : Passage) : Option String :=
  if p.result.changed then
    match p.event with
    | .intakeCompleted _ false epicId | .switchResolved _ epicId | .epicSynced epicId => epicId
    | .resumePlanLoaded epicId => epicId <|> p.result.context.resumeQueue.head?.map (·.epicId)
    | _ => none
  else none

def settles (p : Passage) : Bool :=
  p.result.changed &&
    match p.event with
    | .switchResolved _ epicId | .epicSynced epicId => epicId.isSome
    | _ => false

end Passage

theorem turn_current (h : Turn s e m) :
    m.context.currentEpicId =
      (Passage.named? ⟨s.state, e, taken s m⟩ <|> s.context.currentEpicId) := by
  rw [Passage.named?, if_pos (taken_changed h)]
  cases h with
  | intakeUnclear c confidence conflict epicId =>
    change (Rules.intakeContext c confidence conflict epicId).currentEpicId = _
    rw [Rules.intakeContext_eq]
    cases conflict <;> rfl
  | switchUnclear c confidence epicId | switchResolved c confidence epicId
  | epicSynced c epicId =>
    change (Rules.adopted _ epicId).currentEpicId = _
    rw [Rules.adopted_eq]
  | _ => rfl

theorem next_current (s : Snapshot) (e : Event) :
    (s.next e).context.currentEpicId =
      (Passage.named? ⟨s.state, e, transition s e⟩ <|> s.context.currentEpicId) := by
  rcases transition_cases s e with ⟨m, h, taken_⟩ | ⟨-, reason, absorbed_⟩
  · rw [Snapshot.next, taken_]
    exact turn_current h
  · rw [Snapshot.next, absorbed_, Passage.named?, if_neg (by simp [absorbed])]
    rfl

/-- The current epic is the last one named, or the one from the start if none was. -/
theorem after_current (s : Snapshot) (es : List Event) :
    (s.after es).context.currentEpicId =
      (((s.passages es).filterMap (·.named?)).getLast? <|> s.context.currentEpicId) := by
  induction es generalizing s with
  | nil => rfl
  | cons e es ih =>
    rw [Snapshot.after_cons, ih, next_current, Snapshot.passages, List.filterMap_cons]
    cases Passage.named? ⟨s.state, e, transition s e⟩ with
    | none => rfl
    | some id =>
      rw [List.getLast?_cons]
      cases ((s.next e).passages es |>.filterMap (·.named?)).getLast? <;> rfl

/-- An epic becomes pending at the intake that supplies it, and stays so until one is settled. -/
theorem turn_pending (h : Turn s e m) {id : String} (pending : m.context.pendingEpicId = some id) :
    (∃ confidence, e = .intakeCompleted confidence true (some id)) ∨
      s.context.pendingEpicId = some id ∧ Passage.settles ⟨s.state, e, taken s m⟩ = false := by
  cases h with
  | intakeUnclear c confidence conflict epicId =>
    change (Rules.intakeContext c confidence conflict epicId).pendingEpicId = _ at pending
    rw [Rules.intakeContext_eq] at pending
    cases conflict with
    | true => exact .inl ⟨confidence, congrArg _ pending⟩
    | false => exact .inr ⟨pending, Bool.and_false _⟩
  | intakeConflict c confidence epicId => exact .inl ⟨confidence, congrArg _ pending⟩
  | switchUnclear c confidence epicId | switchResolved c confidence epicId
  | epicSynced c epicId =>
    change (Rules.adopted _ epicId).pendingEpicId = _ at pending
    rw [Rules.adopted_eq] at pending
    cases epicId with
    | none => exact .inr ⟨pending, Bool.and_false _⟩
    | some epicId => cases pending
  | resumePlanLoaded => cases pending
  | _ => exact .inr ⟨pending, Bool.and_false _⟩

/-- Behind the opening an epic stays pending until one is settled. -/
theorem turn_pending_stays (h : Turn s e m) (outside : s.state ∉ openingStates) {id : String}
    (pending : s.context.pendingEpicId = some id)
    (unsettled : Passage.settles ⟨s.state, e, taken s m⟩ = false) :
    m.context.pendingEpicId = some id := by
  rw [Passage.settles, taken_changed h, Bool.true_and] at unsettled
  cases h with
  | resumePlanLoaded | intakeUnclear | intakeConflict | intakeReady =>
    -- Another intake or a loaded plan would replace it, but both belong to the opening.
    exact absurd (by simp [openingStates]) outside
  | switchUnclear c confidence epicId | switchResolved c confidence epicId
  | epicSynced c epicId =>
    change (Rules.adopted _ epicId).pendingEpicId = _
    rw [Rules.adopted_eq]
    cases epicId with
    | none => exact pending
    | some epicId => cases unsettled
  | _ => exact pending

theorem after_pending_stays (outside : s.state ∉ openingStates) {id : String}
    (pending : s.context.pendingEpicId = some id) (es : List Event)
    (unsettled : ∀ p ∈ s.passages es, p.settles = false) :
    (s.after es).context.pendingEpicId = some id := by
  induction es generalizing s with
  | nil => exact pending
  | cons e es ih =>
    obtain ⟨first, later⟩ := List.forall_mem_cons.mp unsettled
    rcases next_cases s e with ⟨m, h, next⟩ | ⟨-, same⟩
    · rw [transition_of_turn h] at first
      rw [next] at later
      rw [Snapshot.after_cons, next]
      exact ih (climbs_replanned.stays h outside) (turn_pending_stays h outside pending first) later
    · rw [same] at later
      rw [Snapshot.after_cons, same]
      exact ih outside pending later

def Snapshot.Undecided (s : Snapshot) (es : List Event) (id : String) : Prop :=
  ∃ before confidence later,
    es = before ++ .intakeCompleted confidence true (some id) :: later ∧
    let intake := transition (s.after before) (.intakeCompleted confidence true (some id))
    intake.changed = true ∧ ∀ p ∈ intake.snapshot.passages later, p.settles = false

theorem undecided_concat {es : List Event} {id : String} (h : s.Undecided es id)
    (unsettled : Passage.settles ⟨(s.after es).state, e, transition (s.after es) e⟩ = false) :
    s.Undecided (es ++ [e]) id := by
  obtain ⟨before, confidence, later, rfl, accepted, open_⟩ := h
  refine ⟨before, confidence, later ++ [e], ?_, accepted, ?_⟩
  · rw [List.append_assoc, List.cons_append]
  · rw [Snapshot.after_append, Snapshot.after_cons] at unsettled
    rw [Snapshot.passages_concat, List.forall_mem_append, List.forall_mem_singleton]
    exact ⟨open_, unsettled⟩

theorem undecided_of_pending (clean : s.context.pendingEpicId = none) (es : List Event)
    {id : String} (pending : (s.after es).context.pendingEpicId = some id) :
    s.Undecided es id := by
  induction es using List.reverseRecOn with
  | nil =>
    rw [Snapshot.after_nil, clean] at pending
    cases pending
  | append_singleton es e ih =>
    rw [Snapshot.after_concat] at pending
    rcases transition_cases (s.after es) e with ⟨m, h, taken_⟩ | ⟨-, reason, absorbed_⟩
    · -- either this is the intake, or the epic was pending before and this settles nothing
      rw [next_of_turn h] at pending
      rcases turn_pending h pending with ⟨confidence, rfl⟩ | ⟨before, unsettled⟩
      · exact ⟨es, confidence, [], rfl, changed_iff.mpr ⟨m, h⟩, by simp [Snapshot.passages]⟩
      · exact undecided_concat (ih before) (taken_ ▸ unsettled)
    · rw [Snapshot.next, absorbed_, absorbed_snapshot] at pending
      exact undecided_concat (ih pending) (by rw [absorbed_]; rfl)

theorem pending_of_undecided {es : List Event} {id : String} (h : s.Undecided es id) :
    (s.after es).context.pendingEpicId = some id := by
  obtain ⟨before, confidence, later, rfl, accepted, unsettled⟩ := h
  obtain ⟨m, h⟩ := changed_iff.mp accepted
  rw [transition_of_turn h] at unsettled
  rw [Snapshot.after_append, Snapshot.after_cons, next_of_turn h]
  have raised : m.snapshot.state ∉ openingStates ∧ m.snapshot.context.pendingEpicId = some id := by
    generalize s.after before = here at h
    cases h with
    | intakeUnclear c | intakeConflict c => exact ⟨by simp [openingStates], rfl⟩
  exact after_pending_stays raised.1 raised.2 later unsettled

/-- What is asked for about the epics tells what the new context says of them. -/
theorem turn_tells_epics (h : Turn s e m) {k : Command} (hk : k ∈ m.commands) :
    (k.kind = .bdUpsertEpicAndTasks →
      k.payload = some [("epic_id", .nullable .string m.context.currentEpicId)]) ∧
    (k.kind = .askSwitchOrMerge →
      k.payload = some [("current_epic_id", .nullable .string m.context.currentEpicId),
        ("pending_epic_id", .nullable .string m.context.pendingEpicId)]) := by
  have asked := turn_asks h hk
  cases h with
  | intakeReady | switchResolved =>
    obtain rfl := List.mem_singleton.mp hk
    exact ⟨fun _ => rfl, nofun⟩
  | intakeConflict =>
    obtain rfl := List.mem_singleton.mp hk
    exact ⟨nofun, fun _ => rfl⟩
  | intakeUnclear | switchUnclear | planUnclear | scheduleUnclear | patchUnclear =>
    obtain rfl := List.mem_singleton.mp hk
    exact ⟨nofun, nofun⟩
  | _ =>
    constructor <;> intro kind <;> rw [kind] at asked <;> simp [State.asks] at asked

/-- In a fresh run the current epic is the last one that an accepted event has named, and once
there is one there always will be. An epic is pending exactly if an accepted intake found a
conflict with it and nothing has settled it since. Whatever is recorded or asked about the
epics tells the two as they are after the event. -/
theorem epics_tracked (settings : Settings) (es : List Event) :
    let start : Snapshot := ⟨.boot, settings.freshContext⟩
    let s := start.after es
    s.context.currentEpicId = ((start.passages es).filterMap (·.named?)).getLast? ∧
      (s.context.currentEpicId.isSome = true → ∀ more,
        (start.after (es ++ more)).context.currentEpicId.isSome = true) ∧
      (∀ id, s.context.pendingEpicId = some id ↔ start.Undecided es id) ∧
      ∀ p ∈ start.passages es, ∀ k ∈ p.result.commands,
        (k.kind = .bdUpsertEpicAndTasks →
          k.payload = some [("epic_id", .nullable .string p.result.context.currentEpicId)]) ∧
        (k.kind = .askSwitchOrMerge →
          k.payload = some
            [("current_epic_id", .nullable .string p.result.context.currentEpicId),
             ("pending_epic_id", .nullable .string p.result.context.pendingEpicId)]) := by
  intro start s
  refine ⟨?_, fun chosen more => ?_, fun id => ⟨?_, pending_of_undecided⟩, fun p there k hk => ?_⟩
  · rw [after_current]
    cases ((start.passages es).filterMap (·.named?)).getLast? <;> rfl
  · rw [Snapshot.after_append, after_current]
    change s.context.currentEpicId.isSome = true at chosen
    cases ((s.passages more).filterMap (·.named?)).getLast? with
    | none => exact chosen
    | some id => rfl
  · exact undecided_of_pending rfl es
  · obtain ⟨before, e, later, rfl, rfl⟩ := start.mem_passages there
    rcases transition_cases (start.after before) e with ⟨m, h, taken_⟩ | ⟨-, reason, absorbed_⟩
    · rw [taken_] at hk ⊢
      exact turn_tells_epics h hk
    · rw [absorbed_] at hk
      cases hk

/-- An epic that is in conflict stays pending if the switch names none. -/
example :
    let asked := Snapshot.next ⟨.intake, { currentEpicId := some "epic-1" }⟩
      (.intakeCompleted 0.9 true (some "epic-2"))
    let kept := (asked.next (.switchResolved none none)).context
    let switched := (asked.next (.switchResolved none (some "epic-2"))).context
    kept.currentEpicId = some "epic-1" ∧ kept.pendingEpicId = some "epic-2" ∧
      switched.currentEpicId = some "epic-2" ∧ switched.pendingEpicId = none := by
  decide

end ControlPlane
