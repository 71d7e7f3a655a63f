import Mathlib.Data.List.DropRight
import ControlPlane.Proofs.Run.Commands
import ControlPlane.Proofs.Run.Course
import ControlPlane.Settings.Basic

/-!
# Rounds of research

A round of research is opened with the number of results that it expects, and collects
the artifacts of the results that are accepted until the next one is opened. The list, the
counter and the expectation are tied to what has happened in the run, and the states from
the first result to the delivery are reached with a result at hand only.
-/

set_option autoImplicit false

namespace ControlPlane

variable {s : Snapshot} {e : Event} {m : Move}

/-- A turn opens a round, takes in a result, or leaves the round as it is. -/
theorem turn_round (h : Turn s e m) :
    (∃ expected, e = .observeDefined expected ∧ m.snapshot.context.researchArtifacts = [] ∧
        m.snapshot.context.researchReceived = 0) ∨
      (∃ artifact, e = .researchResult artifact ∧
        m.snapshot.context.researchArtifacts = s.context.researchArtifacts ++ [artifact] ∧
        m.snapshot.context.researchReceived = countUp s.context.researchReceived) ∨
      (∀ expected, e ≠ .observeDefined expected) ∧ (∀ artifact, e ≠ .researchResult artifact) ∧
        m.snapshot.context.researchArtifacts = s.context.researchArtifacts ∧
        m.snapshot.context.researchReceived = s.context.researchReceived := by
  cases h with
  | roundOpened c expected => exact .inl ⟨expected, rfl, rfl, rfl⟩
  | resultReceived _ c artifact => exact .inr (.inl ⟨artifact, rfl, rfl, rfl⟩)
  | _ =>
    simp [Rules.intakeContext_eq, Rules.switchContext, Rules.adopted_eq, Context.settleOn]

namespace Passage

def opensRound (p : Passage) : Bool :=
  p.result.changed &&
    match p.event with
    | .observeDefined _ => true
    | _ => false

def artifact? (p : Passage) : Option ResearchArtifact :=
  match p.event with
  | .researchResult artifact => if p.result.changed then some artifact else none
  | _ => none

end Passage

def currentRound (ps : List Passage) : List Passage := ps.rtakeWhile fun p => !p.opensRound

def collected (ps : List Passage) : List ResearchArtifact :=
  (currentRound ps).filterMap Passage.artifact?

theorem collected_opening {p : Passage} (ps : List Passage) (h : p.opensRound = true) :
    collected (ps ++ [p]) = [] := by
  rw [collected, currentRound, List.rtakeWhile_concat_neg]
  · rfl
  · simp [h]

theorem collected_concat {p : Passage} (ps : List Passage) (h : p.opensRound = false) :
    collected (ps ++ [p]) = collected ps ++ p.artifact?.toList := by
  rw [collected, currentRound, List.rtakeWhile_concat_pos, List.filterMap_append]
  · cases ha : p.artifact? <;> simp [collected, currentRound, ha]
  · simp [h]

/-- What the passage of an event says about the round is what happens to the context. -/
theorem passage_round (s : Snapshot) (e : Event) :
    let p : Passage := ⟨s.state, e, transition s e⟩
    (p.opensRound = true ∧ (s.next e).context.researchArtifacts = [] ∧
        (s.next e).context.researchReceived = 0) ∨
      (p.opensRound = false ∧ ∃ artifact, p.artifact? = some artifact ∧
        (s.next e).context.researchArtifacts = s.context.researchArtifacts ++ [artifact] ∧
        (s.next e).context.researchReceived = countUp s.context.researchReceived) ∨
      p.opensRound = false ∧ p.artifact? = none ∧
        (s.next e).context.researchArtifacts = s.context.researchArtifacts ∧
        (s.next e).context.researchReceived = s.context.researchReceived := by
  intro p
  rcases next_cases s e with ⟨m, h, hn⟩ | ⟨refuses, hn⟩
  · have accepted : (transition s e).changed = true := changed_iff.mpr ⟨m, h⟩
    rw [hn]
    rcases turn_round h with ⟨expected, rfl, opened⟩ | ⟨artifact, rfl, taken_⟩ |
      ⟨noOpening, noResult, same⟩
    · exact .inl ⟨by simp [Passage.opensRound, accepted, p], opened⟩
    · refine .inr (.inl ⟨by simp [Passage.opensRound, p], artifact, ?_, taken_⟩)
      simp [Passage.artifact?, accepted, p]
    · refine .inr (.inr ⟨?_, ?_, same⟩)
      · unfold Passage.opensRound
        split
        · exact absurd ‹_› (noOpening _)
        · simp
      · unfold Passage.artifact?
        split
        · exact absurd ‹_› (noResult _)
        · rfl
  · have refused : (transition s e).changed = false := by
      rw [← Bool.not_eq_true, changed_iff]
      exact fun ⟨m, h⟩ => refuses m h
    rw [hn]
    refine .inr (.inr ⟨by simp [Passage.opensRound, refused, p], ?_, rfl, rfl⟩)
    unfold Passage.artifact?
    split <;> simp [refused, p]

/-- The list of artifacts is what was collected in the current round, and the counter is
its length as long as it can be. -/
theorem after_round (fresh : s.context.researchArtifacts = [])
    (zero : s.context.researchReceived = 0) (es : List Event) :
    (s.after es).context.researchArtifacts = collected (s.passages es) ∧
      (s.after es).context.researchReceived.toNat =
        min (s.after es).context.researchArtifacts.length 4294967295 := by
  induction es using List.reverseRecOn with
  | nil => simp [fresh, zero, collected, currentRound, Snapshot.passages]
  | append_singleton es e ih =>
    obtain ⟨list, count⟩ := ih
    rw [Snapshot.passages_concat, Snapshot.after_concat]
    rcases passage_round (s.after es) e with ⟨opens, artifacts, received⟩ |
      ⟨opens, artifact, found, artifacts, received⟩ | ⟨opens, found, artifacts, received⟩
    · rw [collected_opening _ opens, artifacts, received]
      simp
    · rw [collected_concat _ opens, found, artifacts, received, list]
      refine ⟨rfl, ?_⟩
      rw [countUp_toNat, count, list]
      simp
      omega
    · rw [collected_concat _ opens, found, artifacts, received, list]
      refine ⟨by simp, ?_⟩
      rw [count, list]

def awaitingStates : List State := [.researchFanout, .waitOthers]

def suppliedStates : List State :=
  [.researchIngest, .researchEval, .detailDesign, .coderHandoff, .schedule, .queue, .dispatch,
   .coderExec, .reviewAccept, .complete]

structure Supplied (s : Snapshot) : Prop where
  awaiting : s.state ∈ awaitingStates → s.context.researchExpected ≠ 0
  supplied : s.state ∈ suppliedStates →
    s.context.researchExpected ≠ 0 ∧ s.context.researchArtifacts ≠ []

theorem turn_keeps_supplied (h : Turn s e m) (hs : Supplied s) : Supplied m.snapshot := by
  obtain ⟨awaiting, supplied⟩ := hs
  cases h with
  | resultReceived open_ c artifact =>
    refine ⟨by simp [awaitingStates], fun _ => ?_⟩
    have expected := awaiting (by rcases open_ with rfl | rfl <;> simp [awaitingStates])
    simpa using expected
  | roundOpened c expected =>
    refine ⟨fun _ => ?_, by simp [suppliedStates]⟩
    simp only [Rules.roundOpened_snapshot]
    split
    · decide
    · assumption
  | _ => constructor <;> simp_all [awaitingStates, suppliedStates]

theorem after_supplied (hs : Supplied s) (es : List Event) : Supplied (s.after es) :=
  after_keeps turn_keeps_supplied hs es

theorem turn_dispatches (h : Turn s e m) {k : Command} (hk : k ∈ m.commands)
    (kind : k.kind = .dispatchResearchAgents) :
    ∃ slots : UInt32, slots ≠ 0 ∧ k.get? "slots" = some (.int slots.toNat) := by
  have asked := turn_asks h hk
  rw [kind] at asked
  cases h with
  | roundOpened c expected =>
    obtain rfl := List.mem_singleton.mp hk
    refine ⟨if expected.getD 1 = 0 then 1 else expected.getD 1, ?_, ?_⟩
    · split
      · decide
      · assumption
    · rw [Command.get?_carrying]
      rfl
  | refanned c missing lacking =>
    obtain rfl := List.mem_singleton.mp hk
    refine ⟨missing.getD c.outstanding, lacking, ?_⟩
    rw [Command.get?_carrying]
    rfl
  | _ => simp [State.asks] at asked

/-- A result is handed on with the numbers of the new context and the last of its
artifacts. -/
theorem turn_ingests (h : Turn s e m) {k : Command} (hk : k ∈ m.commands)
    (kind : k.kind = .ingestResearchArtifacts) :
    k.get? "received" = some (.int m.context.researchReceived.toNat) ∧
      k.get? "expected" = some (.int m.context.researchExpected.toNat) ∧
      ∃ artifact, m.context.researchArtifacts.getLast? = some artifact ∧
        k.get? "artifact" = some artifact.toJson.sorted := by
  have asked := turn_asks h hk
  rw [kind] at asked
  cases h with
  | resultReceived open_ c artifact =>
    obtain rfl := List.mem_singleton.mp hk
    simp [Command.get?_carrying, Rules.resultReceived, Move.asking]
  | _ => simp [State.asks] at asked

theorem one_le_of_ne_zero {n : UInt32} (h : n ≠ 0) : 1 ≤ n := by
  rw [UInt32.le_iff_toNat_le]
  have pos : n.toNat ≠ 0 := fun zero => h (UInt32.toNat_inj.mp zero)
  simp
  omega

/-- In a fresh run the artifacts are those of the results accepted in the current round, the
counter is their number as long as it can be, and every state that builds on a round has
what it needs. Research is asked of one agent at least, and a result is handed on with the
numbers and the last artifact of the new context. -/
theorem research_accounted (settings : Settings) (es : List Event) :
    let start : Snapshot := ⟨.boot, settings.freshContext⟩
    let m := (Machine.resume start).after es
    let c := m.snapshot.context
    c.researchArtifacts = collected (start.passages es) ∧
      c.researchReceived.toNat = min c.researchArtifacts.length 4294967295 ∧
      (m.state ∈ awaitingStates → 1 ≤ c.researchExpected) ∧
      (m.state ∈ suppliedStates → 1 ≤ c.researchExpected ∧ c.researchArtifacts ≠ []) ∧
      ∀ e, let r := (m.dispatch e).result
        ∀ k ∈ r.commands,
          (k.kind = .dispatchResearchAgents →
            ∃ slots : UInt32, 1 ≤ slots ∧ k.get? "slots" = some (.int slots.toNat)) ∧
          (k.kind = .ingestResearchArtifacts →
            k.get? "received" = some (.int r.context.researchReceived.toNat) ∧
            k.get? "expected" = some (.int r.context.researchExpected.toNat) ∧
            ∃ artifact, r.context.researchArtifacts.getLast? = some artifact ∧
              k.get? "artifact" = some artifact.toJson.sorted) := by
  intro start m c
  have reached : m.snapshot = start.after es := Machine.after_snapshot _ es
  have round := after_round (s := start) rfl rfl es
  have supplied : Supplied m.snapshot := by
    rw [reached]
    exact after_supplied ⟨by simp [start, awaitingStates], by simp [start, suppliedStates]⟩ es
  rw [← reached] at round
  refine ⟨round.1, round.2, fun awaits => one_le_of_ne_zero (supplied.awaiting awaits), ?_, ?_⟩
  · intro behind
    obtain ⟨expected, held⟩ := supplied.supplied behind
    exact ⟨one_le_of_ne_zero expected, held⟩
  · intro e r k hk
    rcases transition_cases m.snapshot e with ⟨move, h, taken_⟩ | ⟨-, reason, absorbed_⟩
    · have hr : r = taken m.snapshot move := taken_
      rw [hr] at hk ⊢
      refine ⟨fun kind => ?_, fun kind => turn_ingests h hk kind⟩
      obtain ⟨slots, asked, found⟩ := turn_dispatches h hk kind
      exact ⟨slots, one_le_of_ne_zero asked, found⟩
    · have hr : r = absorbed m.snapshot reason := absorbed_
      rw [hr] at hk
      cases hk

end ControlPlane
