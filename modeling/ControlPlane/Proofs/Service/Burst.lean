import ControlPlane.Drive.Demo
import ControlPlane.Proofs.Run.Research
import ControlPlane.Proofs.Service.Order

/-!
# Results that arrive at once

An open round takes in one result and then turns to it: until it has been ingested and
evaluated, further results are refused and their senders are told so. So of results that
reach a run back to back the first one is kept and no other. Results that each wait until
the run awaits results again are all kept.
-/

set_option autoImplicit false

namespace ControlPlane

variable {s : Snapshot}

namespace Snapshot

def withResult (s : Snapshot) (artifact : ResearchArtifact) : Snapshot :=
  ⟨.researchIngest,
    { s.context with
      researchArtifacts := s.context.researchArtifacts ++ [artifact]
      researchReceived := countUp s.context.researchReceived }⟩

end Snapshot

theorem result_turn (awaits : s.state ∈ awaitingStates) (artifact : ResearchArtifact) :
    Turn s (.researchResult artifact) (Rules.resultReceived s.context artifact) := by
  obtain ⟨st, c⟩ := s
  exact .resultReceived (by simpa [awaitingStates] using awaits) c artifact

theorem result_taken (awaits : s.state ∈ awaitingStates) (artifact : ResearchArtifact) :
    s.next (.researchResult artifact) = s.withResult artifact :=
  next_of_turn (result_turn awaits artifact)

theorem result_refused (busy : s.state = .researchIngest) (artifact : ResearchArtifact) :
    transition s (.researchResult artifact) =
      absorbed s "invalid_event_for_research_ingest" := by
  obtain ⟨st, c⟩ := s
  subst busy
  rfl

theorem results_refused (busy : s.state = .researchIngest) (results : List ResearchArtifact) :
    s.after (results.map .researchResult) = s := by
  induction results with
  | nil => rfl
  | cons artifact results ih =>
    have same : s.next (.researchResult artifact) = s := by
      rw [Snapshot.next, result_refused busy, absorbed_snapshot]
    rw [List.map_cons, Snapshot.after_cons, same, ih]

theorem burst_after (awaits : s.state ∈ awaitingStates) (first : ResearchArtifact)
    (others : List ResearchArtifact) :
    s.after ((first :: others).map .researchResult) = s.withResult first := by
  rw [List.map_cons, Snapshot.after_cons, result_taken awaits, results_refused rfl]

/-- The first of a burst of results opens the round's ingestion, and each of the others
arrives in the middle of it. -/
theorem burst_answer (awaits : s.state ∈ awaitingStates) {before after : List Event}
    {artifact first : ResearchArtifact} {others : List ResearchArtifact}
    (split : before ++ .researchResult artifact :: after =
      (first :: others).map Event.researchResult) :
    if before = [] then
      artifact = first ∧ (transition s (.researchResult artifact)).changed = true ∧
        (transition s (.researchResult artifact)).snapshot = s.withResult first
    else transition (s.after before) (.researchResult artifact) =
      absorbed (s.withResult first) "invalid_event_for_research_ingest" := by
  cases before with
  | nil =>
    obtain ⟨heads, -⟩ := List.cons.inj split
    cases heads
    exact ⟨rfl, changed_iff.mpr ⟨_, result_turn awaits artifact⟩, result_taken awaits artifact⟩
  | cons e before =>
    obtain ⟨rfl, rest⟩ := List.cons.inj split
    obtain ⟨earlier, -, -, rfl, -⟩ := List.map_eq_append_iff.mp rest.symm
    rw [if_neg (List.cons_ne_nil _ _), ← List.map_cons (f := Event.researchResult),
      burst_after awaits, result_refused rfl]

def waited (artifact : ResearchArtifact) (missing : Option UInt32) : List Event :=
  [.researchResult artifact, .researchIngested, .researchEvaluated .needMoreResults missing]

theorem waited_after (awaits : s.state ∈ awaitingStates) (artifact : ResearchArtifact)
    (missing : Option UInt32) :
    (s.after (waited artifact missing)).state ∈ awaitingStates ∧
      (s.after (waited artifact missing)).context = (s.withResult artifact).context := by
  have ingested : (s.withResult artifact).next .researchIngested =
      ⟨.researchEval, (s.withResult artifact).context⟩ := next_of_turn (.researchIngested _)
  rw [waited, Snapshot.after_cons, result_taken awaits, Snapshot.after_cons, ingested,
    Snapshot.after_cons, Snapshot.after_nil]
  generalize (s.withResult artifact).context = c
  by_cases allIn : missing.getD c.outstanding = 0
  · rw [next_of_turn (.resultsPending c missing allIn)]
    simp [awaitingStates]
  · rw [next_of_turn (.refanned c missing allIn)]
    simp [awaitingStates]

theorem all_waited_after (awaits : s.state ∈ awaitingStates)
    (results : List (ResearchArtifact × Option UInt32)) :
    let t := s.after (results.flatMap fun r => waited r.1 r.2)
    t.state ∈ awaitingStates ∧
      t.context.researchArtifacts = s.context.researchArtifacts ++ results.map Prod.fst ∧
      t.context.researchReceived.toNat =
        min (s.context.researchReceived.toNat + results.length) 4294967295 := by
  induction results generalizing s with
  | nil =>
    have bound : s.context.researchReceived.toNat < 4294967296 := UInt32.toNat_lt _
    simp [awaits]
    omega
  | cons r results ih =>
    obtain ⟨again, context⟩ := waited_after awaits r.1 r.2
    obtain ⟨state, artifacts, received⟩ := ih again
    rw [List.flatMap_cons, Snapshot.after_append]
    refine ⟨state, ?_, ?_⟩
    · rw [artifacts, context]
      simp [Snapshot.withResult]
    · rw [received, context]
      simp only [Snapshot.withResult, countUp_toNat, List.length_cons]
      omega

namespace Service

variable {σ : Type} {keeper : Option (Keeper (StateM σ))} {v w : Service σ} {start : Machine}

/-- A reply that has been heard is the answer to its letter at the place at which the run has
taken it. -/
theorem heard_at (inv : Orderly start v) {before after : List Letter} {l : Letter}
    (place : v.taken = before ++ l :: after) {c : Client} (hc : c ∈ v.clients) {r : Reply}
    (heard : (l, r) ∈ c.heard) :
    r = l.request.answer (start.snapshot.after (eventsOf before)) := by
  obtain ⟨earlier, later, entered, answered⟩ := (inv.sound c hc).right l r heard
  have here : v.entered = before ++ l :: (after ++ v.session.box.inside) := by
    rw [inv.inside, place, List.append_assoc, List.cons_append]
  have nodup : (before ++ l :: (after ++ v.session.box.inside)).Nodup := by
    rw [← here]
    exact inv.tickets_nodup.of_map
  have absent := (List.nodup_cons.mp (List.nodup_middle.mp nodup)).1
  rw [List.mem_append, not_or] at absent
  obtain ⟨rfl, -, -⟩ :=
    (List.append_cons_inj_of_notMem absent.1 absent.2).mp (here.symm.trans entered)
  exact answered

theorem Orderly.machine_snapshot (inv : Orderly start v) :
    v.session.machine.snapshot = start.snapshot.after (eventsOf v.taken) := by
  rw [inv.machine, Machine.after_snapshot]

theorem snapshot_since (invv : Orderly start v) (invw : Orderly start w) {es : List Event}
    (since : eventsOf w.taken = eventsOf v.taken ++ es) :
    w.session.machine.snapshot = v.session.machine.snapshot.after es := by
  rw [invw.machine_snapshot, since, Snapshot.after_append, ← invv.machine_snapshot]

/-- Of results that reach an open round back to back, whoever sends them and in whatever
order they arrive, the first one is taken in. The others find the run busy with it: each of
their senders hears that nothing has changed, and the run stays as it is. Results that each
wait until the run awaits them again are all taken in. -/
theorem first_result_kept (keeper : Option (Keeper (StateM σ))) (start : Machine)
    (plans : List (List Request)) (world : σ) (v w : Service σ)
    (reached : Reaches keeper (opened start plans world) v) (later : Reaches keeper v w)
    (awaits : v.session.machine.state ∈ awaitingStates) :
    let s := v.session.machine.snapshot
    let t := w.session.machine.snapshot
    (∀ first others,
      eventsOf w.taken = eventsOf v.taken ++ (first :: others).map Event.researchResult →
        t = s.withResult first ∧
        ∀ before l after, w.taken = v.taken ++ before ++ l :: after →
          ∀ artifact, l.request = .dispatch (.researchResult artifact) →
            ∀ c ∈ w.clients, ∀ r, (l, r) ∈ c.heard →
              if eventsOf before = [] then
                artifact = first ∧ ∃ q, r = .result q ∧ q.changed = true ∧ q.snapshot = t
              else r = .result (absorbed t "invalid_event_for_research_ingest")) ∧
      ∀ results : List (ResearchArtifact × Option UInt32),
        eventsOf w.taken = eventsOf v.taken ++ results.flatMap (fun r => waited r.1 r.2) →
          t.state ∈ awaitingStates ∧
            t.context.researchArtifacts =
              s.context.researchArtifacts ++ results.map Prod.fst ∧
            t.context.researchReceived.toNat =
              min (s.context.researchReceived.toNat + results.length) 4294967295 := by
  intro s t
  have invv : Orderly start v := (Orderly.opened start plans world).run reached
  have invw : Orderly start w := invv.run later
  refine ⟨fun first others since => ?_, fun results since => ?_⟩
  · have moved : t = s.withResult first := by
      rw [← burst_after awaits first others]
      exact snapshot_since invv invw since
    refine ⟨moved, fun before l after place artifact asks c hc r heard => ?_⟩
    have answered := heard_at invw place hc heard
    have split : eventsOf before ++ .researchResult artifact :: eventsOf after =
        (first :: others).map Event.researchResult := by
      have whole := since
      rw [place, eventsOf_append, eventsOf_append, eventsOf_cons, asks, List.append_assoc] at whole
      exact List.append_cancel_left whole
    have answer := burst_answer awaits split
    rw [eventsOf_append, Snapshot.after_append, ← invv.machine_snapshot, asks] at answered
    rw [answered, moved]
    split_ifs at answer ⊢ with leads
    · rw [leads]
      exact ⟨answer.1, _, rfl, answer.2⟩
    · exact congrArg Reply.result answer
  · have moved : t = s.after _ := snapshot_since invv invw since
    rw [moved]
    exact all_waited_after awaits results

section Together

def twoAgents : Service Unit :=
  opened (.resume ⟨.researchFanout, { researchExpected := 2 }⟩)
    [[.dispatch (.researchResult (Demo.artifact "a"))],
      [.dispatch (.researchResult (Demo.artifact "b"))]] ()

theorem sent_together : ∃ w : Service Unit, Reaches none twoAgents w ∧
    w.taken = [⟨0, .dispatch (.researchResult (Demo.artifact "a"))⟩,
      ⟨1, .dispatch (.researchResult (Demo.artifact "b"))⟩] ∧
    (∃ c ∈ w.clients, ∃ r,
      (⟨1, .dispatch (.researchResult (Demo.artifact "b"))⟩, r) ∈ c.heard) ∧
    w.session.machine.snapshot.context.researchArtifacts = [Demo.artifact "a"] ∧
    w.session.machine.snapshot.context.researchReceived = 1 :=
  ⟨_,
    .head (.wake _) <|
    .head (.call (i := 0) rfl rfl rfl rfl) <|
    .head (.enter (i := 0) rfl rfl (by decide)) <|
    .head (.call (i := 1) rfl rfl rfl rfl) <|
    .head (.enter (i := 1) rfl rfl (by decide)) <|
    .head (.process rfl rfl rfl) <|
    .head (.reply (i := 0) rfl rfl rfl) <|
    .head (.process rfl rfl rfl) <|
    .head (.reply (i := 1) rfl rfl rfl) .refl,
    rfl, ⟨_, .tail _ (.head _), _, .head _⟩, rfl, rfl⟩

/-- One of two results that are sent together is kept and counted, the other is neither. -/
theorem second_result_refused : ∃ w : Service Unit, Reaches none twoAgents w ∧
    twoAgents.session.machine.state ∈ awaitingStates ∧
    eventsOf w.taken = eventsOf twoAgents.taken ++
      [Demo.artifact "a", Demo.artifact "b"].map Event.researchResult ∧
    (Demo.artifact "a").agentId ≠ (Demo.artifact "b").agentId ∧
    Demo.artifact "b" ∉ w.session.machine.snapshot.context.researchArtifacts ∧
    w.session.machine.snapshot.context.researchReceived = 1 := by
  obtain ⟨w, reached, taken, -, kept, received⟩ := sent_together
  refine ⟨w, reached, by decide, ?_, by decide, ?_, received⟩
  · rw [taken]
    rfl
  · rw [kept]
    decide

/-- The agent whose result came second hears that it has changed nothing. -/
theorem first_result_kept_together : ∃ w : Service Unit, Reaches none twoAgents w ∧
    w.session.machine.snapshot =
      twoAgents.session.machine.snapshot.withResult (Demo.artifact "a") ∧
    ∃ c ∈ w.clients, ∃ l, (l, .result (absorbed w.session.machine.snapshot
      "invalid_event_for_research_ingest")) ∈ c.heard := by
  obtain ⟨w, reached, taken, ⟨c, hc, r, heard⟩, -⟩ := sent_together
  have burst : eventsOf w.taken = eventsOf twoAgents.taken ++
      [Demo.artifact "a", Demo.artifact "b"].map Event.researchResult := by
    rw [taken]
    rfl
  obtain ⟨kept, replies⟩ :=
    (first_result_kept none _ _ () twoAgents w .refl reached (by decide)).1 _ [_] burst
  have refused := replies [_] _ [] taken _ rfl c hc r heard
  split_ifs at refused with alone
  · cases alone
  · exact ⟨w, reached, kept, c, hc, _, refused ▸ heard⟩

end Together

end Service

end ControlPlane
