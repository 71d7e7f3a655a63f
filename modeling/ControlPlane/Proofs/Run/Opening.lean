import ControlPlane.Proofs.Drive.Driven
import ControlPlane.Proofs.Run.Ending
import ControlPlane.Proofs.Run.Pipeline

/-!
# The opening of a run

Every turn out of an opening state shortens what lies ahead of the run in the opening, and
nothing lies ahead of a run that has left it. So an opening state is visited once at most,
and what is asked for on the way into one is asked for once, however often the events of the
opening are delivered again.
-/

set_option autoImplicit false

namespace ControlPlane

variable {s : Snapshot} {e : Event} {m : Move}

namespace State

def ahead : State → List State
  | boot => [idleProbeBd, resumeAsk, resumePlan, idle, intake]
  | idleProbeBd => [resumeAsk, resumePlan, idle, intake]
  | resumeAsk => [resumePlan, idle, intake]
  | idle => [intake]
  | _ => []

theorem not_mem_ahead (st : State) : st ∉ st.ahead := by
  cases st <;> decide

structure LeadsTo (a b : State) : Prop where
  into : b ∈ openingStates → b ∈ a.ahead
  beyond : b.ahead ⊆ a.ahead

theorem LeadsTo.trans {a b c : State} (ab : a.LeadsTo b) (bc : b.LeadsTo c) : a.LeadsTo c where
  into opening := ab.beyond (bc.into opening)
  beyond := List.Subset.trans bc.beyond ab.beyond

instance : Trans LeadsTo LeadsTo LeadsTo := ⟨LeadsTo.trans⟩

theorem not_leadsTo_self {st : State} (opening : st ∈ openingStates) : ¬ st.LeadsTo st :=
  fun h => st.not_mem_ahead (h.into opening)

end State

theorem turn_leads (h : Turn s e m) : s.state.LeadsTo m.snapshot.state := by
  cases h <;> exact ⟨by simp [openingStates, State.ahead], by simp [State.ahead]⟩

theorem visited_leads (s : Snapshot) (es : List Event) :
    (s.visited es).Pairwise State.LeadsTo :=
  (visited_isChain (fun h _ => turn_leads h) s es).pairwise

theorem visited_once {st : State} (opening : st ∈ openingStates) (s : Snapshot)
    (es : List Event) : (s.visited es).count st ≤ 1 := by
  by_contra twice
  have pair : (List.replicate 2 st).Sublist (s.visited es) :=
    List.replicate_sublist_iff.mpr (by omega)
  have leads := (visited_leads s es).sublist pair
  exact State.not_leadsTo_self opening (List.rel_of_pairwise_cons leads List.mem_cons_self)

/-- A state that has been left in the opening is not among those that are visited later. -/
theorem left_behind {st : State} (opening : st ∈ openingStates) (s : Snapshot)
    (es more : List Event) (left : st ∈ s.left es) : st ∉ (s.after es).visited more := by
  intro again
  have once := visited_once opening s (es ++ more)
  have first := List.count_pos_iff.mpr left
  have second := List.count_pos_iff.mpr again
  rw [Snapshot.visited_append, List.count_append] at once
  omega

/-- A run resumes an epic or takes in a new one. -/
theorem resumed_or_taken_in (s : Snapshot) (es : List Event)
    (resumed : State.resumePlan ∈ s.visited es) : State.intake ∉ s.visited es := by
  intro takenIn
  let either (a b : State) : Prop := a.LeadsTo b ∨ b.LeadsTo a
  have : Std.Symm either := ⟨fun _ _ => Or.symm⟩
  have all : (s.visited es).Pairwise either := (visited_leads s es).imp Or.inl
  rcases all.forall resumed takenIn (by decide) with h | h
  · exact absurd (h.into (by decide)) (by decide)
  · exact absurd (h.into (by decide)) (by decide)

def CommandKind.opens? : CommandKind → Option State
  | probeBdResumable => some .idleProbeBd
  | askResume => some .resumeAsk
  | loadResumeQueue => some .resumePlan
  | parseIntake => some .intake
  | _ => none

def openingCommands : List CommandKind :=
  [.probeBdResumable, .askResume, .loadResumeQueue, .parseIntake]

theorem opens_opening : ∀ k ∈ openingCommands, ∃ st ∈ openingStates, k.opens? = some st := by
  decide

theorem asked_on_entry : ∀ st ∈ State.all, ∀ k ∈ st.asks, ∀ t ∈ k.opens?, st = t := by
  decide

variable {k : CommandKind} {st : State}

/-- A command of the opening is issued by an event that leads into its state from another one. -/
theorem next_opens (opening : st ∈ openingStates) (opens : k.opens? = some st) (s : Snapshot)
    (e : Event) :
    ((transition s e).commands.map (·.kind)).count k ≤
      if (s.next e).state ≠ s.state ∧ (s.next e).state = st then 1 else 0 := by
  rcases transition_cases s e with ⟨m, h, taken_⟩ | ⟨-, reason, absorbed_⟩
  · rw [taken_, next_of_turn h]
    by_cases asked : k ∈ m.kinds
    · have enters : m.snapshot.state = st :=
        asked_on_entry _ (State.mem_all _) k (turn_kinds h k asked) st opens
      have moved : m.snapshot.state ≠ s.state := by
        intro stays
        have leads := turn_leads h
        rw [stays] at leads
        exact State.not_leadsTo_self (by rwa [← stays, enters]) leads
      rw [if_pos ⟨moved, enters⟩]
      exact List.count_le_length.trans (turn_single h)
    · have unasked : (m.commands.map (·.kind)).count k = 0 := List.count_eq_zero.mpr asked
      exact unasked.trans_le (Nat.zero_le _)
  · rw [absorbed_]
    exact Nat.zero_le _

theorem commands_concat (s : Snapshot) (es : List Event) (e : Event) :
    s.commands (es ++ [e]) = s.commands es ++ (transition (s.after es) e).commands := by
  simp [Snapshot.commands, Snapshot.passages_concat]

theorem commands_opens (opening : st ∈ openingStates) (opens : k.opens? = some st)
    (s : Snapshot) (es : List Event) :
    ((s.commands es).map (·.kind)).count k ≤ (s.visited es).count st := by
  induction es using List.reverseRecOn with
  | nil => exact Nat.zero_le _
  | append_singleton es e ih =>
    have last := next_opens opening opens (s.after es) e
    rw [commands_concat, List.map_append, List.count_append, Snapshot.visited_concat]
    split
    -- An event that stays in its state issues no such command and adds no visit.
    case isTrue stays =>
      rw [if_neg fun both => both.1 stays] at last
      omega
    case isFalse moved =>
      rw [List.count_append, List.count_singleton]
      simp only [moved, ne_eq, not_false_eq_true, true_and, beq_iff_eq] at last ⊢
      omega

/-- Whatever a run starts from and whatever it is given, it is in each opening state once at
most and does not come back to one that it has left; it does not both resume an epic and take
in a new one. So each command of the opening is issued once at most. -/
theorem opening_passed_once {σ : Type} (keeper : Option (Keeper (StateM σ))) (start : Snapshot)
    (es : List Event) (world : σ) :
    let report := ((drive keeper start es).run world).1
    (∀ st ∈ openingStates,
      report.visited.count st ≤ 1 ∧
        (st ∈ report.machine.history →
          ∀ more, st ∉ (report.machine.after more).visitedSince report.machine)) ∧
      (State.resumePlan ∈ report.visited → State.intake ∉ report.visited) ∧
      ∀ k ∈ openingCommands,
        ((report.passages.flatMap (·.result.commands)).map (·.kind)).count k ≤ 1 := by
  intro report
  have visited : report.visited = start.visited es := drive_visited keeper start es world
  have machine : report.machine = (Machine.resume start).after es :=
    drive_machine keeper start es world
  have passages : report.passages = start.passages es := drive_passages keeper start es world
  refine ⟨fun st opening => ⟨?_, fun left more => ?_⟩, ?_, fun k opens => ?_⟩
  · rw [visited]
    exact visited_once opening start es
  · rw [machine, Machine.after_history] at left
    rw [visitedSince_after, machine, Machine.after_snapshot]
    exact left_behind opening start es more left
  · rw [visited]
    exact resumed_or_taken_in start es
  · obtain ⟨st, opening, enters⟩ := opens_opening k opens
    rw [passages]
    exact (commands_opens opening enters start es).trans (visited_once opening start es)

/-- Events of the opening that come too early, twice or too late. -/
example :
    Snapshot.visited ⟨.boot, {}⟩
      [.userInput "early", .boot, .boot, .bdProbeResult [], .resumeDecision true,
       .userInput "goal", .boot, .userInput "again", .requirementChanged none, .boot,
       .userInput "late"] = [.boot, .idleProbeBd, .idle, .intake, .replanPatch] := by
  decide +kernel

end ControlPlane
