import ControlPlane.Program
import ControlPlane.Proofs.Drive.Driven
import ControlPlane.Proofs.Storage.Disk

/-!
# A restart is not noticed

A process that is given events starts from the snapshot that the one before it has kept.
After every event the disk resumes where the run is: an event that changes nothing keeps
nothing, and one that changes the run keeps its snapshot. So two processes, one after the
other, do what one process would have done with all the events.
-/

set_option autoImplicit false

namespace ControlPlane

variable {settings : Settings} {path : String} {d d' : Disk} {s : Snapshot}

theorem Settings.start_run (kept : settings.snapshotPath = some path) (d : Disk) :
    (settings.start Disk.system none).run d =
      if d.holds (.ofText path) then (Disk.system.load path).run d
      else (.ok ⟨.boot, settings.freshContext⟩, d) := by
  obtain ⟨autoResume, most, snapshotPath, filter⟩ := settings
  cases kept
  change StateT.run (m := Id) (if d.holds (.ofText path) = true then _ else _) d = _
  split <;> rfl

def Resumes (settings : Settings) (d : Disk) (s : Snapshot) : Prop :=
  (settings.start Disk.system none).run d = (.ok s, d)

theorem resumes_saved (kept : settings.snapshotPath = some path)
    (saved : (Disk.system.save path s).run d = (true, d'))
    (back : Json.ReadsBack (.float s.context.confidence)) : Resumes settings d' s := by
  obtain ⟨holds, loaded⟩ := Disk.load_saved saved back
  rw [Resumes, Settings.start_run kept, if_pos holds]
  exact loaded

/-- A process starts where there is no file, or one that can be loaded. -/
theorem resumes_fit (kept : settings.snapshotPath = some path)
    (fit : d.holds (.ofText path) = false ∨ ∃ s, ((Disk.system.load path).run d).1 = .ok s) :
    ∃ s, Resumes settings d s := by
  simp only [Resumes, Settings.start_run kept]
  cases holds : d.holds (.ofText path) with
  | false => exact ⟨_, rfl⟩
  | true =>
    obtain ⟨s, loaded⟩ := fit.resolve_left (by simp [holds])
    rw [Disk.load_run] at loaded ⊢
    exact ⟨s, Prod.ext loaded rfl⟩

def AllKept (log : List LogEntry) : Prop := ∀ entry ∈ log, entry.isLoss = false

instance (log : List LogEntry) : Decidable (AllKept log) :=
  inferInstanceAs (Decidable (∀ entry ∈ log, entry.isLoss = false))

theorem resumes_handled (kept : settings.snapshotPath = some path) {machine : Machine} {e : Event}
    (resumes : Resumes settings d machine.snapshot)
    (all : AllKept ((machine.handle (settings.keeper? Disk.system) e).run d).1.log)
    (back : (transition machine.snapshot e).changed = true →
      Json.ReadsBack (.float (transition machine.snapshot e).context.confidence)) :
    Resumes settings ((machine.handle (settings.keeper? Disk.system) e).run d).2
      (machine.snapshot.next e) := by
  have keeper : settings.keeper? Disk.system = some ⟨path, Disk.system.save path⟩ := by
    rw [Settings.keeper?, kept]
    rfl
  rw [keeper, handle_run] at all ⊢
  dsimp only at all ⊢
  rw [Machine.dispatch_result] at all ⊢
  cases changed : (transition machine.snapshot e).changed with
  | false =>
    rw [next_unchanged changed, keep_unchanged]
    exact resumes
  | true =>
    rw [changed, keep_changed] at all
    rw [keep_changed]
    have done : ((Disk.system.save path (machine.dispatch e).machine.snapshot).run d).1 = true := by
      by_contra failed
      have lost : LogEntry.isLoss (.snapshotNotPersisted path) = false := by
        refine all _ (List.mem_append_right _ ?_)
        dsimp only
        rw [if_neg failed]
        exact List.mem_singleton_self _
      cases lost
    exact resumes_saved kept (Prod.ext done rfl) (back changed)

theorem resumes_taken (kept : settings.snapshotPath = some path) (es : List Event)
    {machine : Machine} (resumes : Resumes settings d machine.snapshot)
    (all : AllKept ((takeAll (settings.keeper? Disk.system) machine es).run d).1.2.2)
    (back : ∀ p ∈ machine.snapshot.passages es, p.result.changed = true →
      Json.ReadsBack (.float p.result.context.confidence)) :
    Resumes settings ((takeAll (settings.keeper? Disk.system) machine es).run d).2
      (machine.snapshot.after es) := by
  induction es generalizing d machine with
  | nil => exact resumes
  | cons e es ih =>
    rw [takeAll_cons] at all ⊢
    rw [Snapshot.passages, List.forall_mem_cons] at back
    dsimp only at all ⊢
    have here := resumes_handled kept resumes
      (fun entry there => all entry (List.mem_append_left _ there)) back.1
    exact ih here (fun entry there => all entry (List.mem_append_right _ there)) back.2

def process (settings : Settings) (es : List Event) : StateM Disk (Except Failure Report) :=
  Surroundings.play ⟨Disk.system, none, false⟩ settings none es

theorem process_run (resumes : Resumes settings d s) (es : List Event) :
    (process settings es).run d =
      let driven := (drive (settings.keeper? Disk.system) s es).run d
      (.ok driven.1, driven.2) := by
  rw [process, Surroundings.play, StateT.run_bind]
  dsimp only
  rw [resumes]
  rfl

/-- A process that is restarted between two lists of events does what it would have done
with all of them at once. -/
theorem restart_unnoticed (settings : Settings) (path : String)
    (kept : settings.snapshotPath = some path) (d : Disk)
    (fit : d.holds (.ofText path) = false ∨ ∃ s, ((Disk.system.load path).run d).1 = .ok s)
    (before later : List Event) :
    ∃ first d', (process settings before).run d = (.ok first, d') ∧
      (AllKept first.log →
        (∀ p ∈ first.passages, p.result.changed = true →
          Json.ReadsBack (.float p.result.context.confidence)) →
        ∃ second whole, ((process settings later).run d').1 = .ok second ∧
          ((process settings (before ++ later)).run d).1 = .ok whole ∧
          second.snapshot = whole.snapshot ∧
          first.passages ++ second.passages = whole.passages ∧
          first.dispatched + second.dispatched = whole.dispatched ∧
          first.absorbed + second.absorbed = whole.absorbed ∧
          second.visited.head? = first.visited.getLast? ∧
          first.visited.dropLast ++ second.visited = whole.visited) := by
  obtain ⟨s, resumes⟩ := resumes_fit kept fit
  refine ⟨_, _, process_run resumes before, fun all back => ?_⟩
  -- the second process starts where the first one has come to
  have resumed : Resumes settings ((drive (settings.keeper? Disk.system) s before).run d).2
      (s.after before) := by
    have begins : Resumes settings d (Machine.resume s).snapshot := resumes
    refine resumes_taken kept before begins (fun entry there => ?_) ?_
    · exact all entry (List.mem_append_left _ (List.mem_cons_of_mem _ there))
    · rwa [drive_passages] at back
  have passages := s.passages_append before later
  refine ⟨_, _, congrArg Prod.fst (process_run resumed later),
    congrArg Prod.fst (process_run resumes (before ++ later)), ?_⟩
  simp only [Report.dispatched, Report.absorbed, drive_passages, drive_snapshot, drive_visited]
  refine ⟨(s.after_append before later).symm, passages.symm, ?_, ?_, ?_, ?_⟩
  · rw [passages, List.length_append]
  · rw [passages, List.countP_append]
  · rw [Snapshot.visited_head, Snapshot.visited, List.getLast?_concat]
  · have ended : (s.visited before).dropLast = s.left before := List.dropLast_concat
    rw [Snapshot.visited_append, ended]

section Delivery

def keeping : Settings := { snapshotPath := some "runs/run.json" }

def intake : List Event := Demo.events.take 4 ++ [.tick]

theorem intake_confidence : Json.ReadsBack (.float 0.9) :=
  Json.tenths_readsBack (d := 9) (by decide) (by decide +kernel) rfl

/-- A delivery that is broken off after the intake and taken up again. -/
theorem restart_unnoticed_delivery : ∃ first d second whole,
    (process keeping intake).run Disk.empty = (.ok first, d) ∧
      ((process keeping (Demo.events.drop 4)).run d).1 = .ok second ∧
      ((process keeping (intake ++ Demo.events.drop 4)).run Disk.empty).1 = .ok whole ∧
      second.snapshot = whole.snapshot ∧ first.passages ++ second.passages = whole.passages ∧
      first.visited.dropLast ++ second.visited = whole.visited := by
  obtain ⟨first, d, ran, same⟩ := restart_unnoticed keeping "runs/run.json" rfl Disk.empty
    (.inl (by decide +kernel)) intake (Demo.events.drop 4)
  have begins : Resumes keeping Disk.empty ⟨.boot, keeping.freshContext⟩ :=
    (Settings.start_run rfl Disk.empty).trans (if_neg (by decide +kernel))
  have report : Except.ok (ε := Failure) ((drive (keeping.keeper? Disk.system)
      ⟨.boot, keeping.freshContext⟩ intake).run Disk.empty).1 = .ok first :=
    congrArg Prod.fst ((process_run begins intake).symm.trans ran)
  have all : AllKept first.log := by
    rw [← Except.ok.inj report]
    decide +kernel
  have back : ∀ p ∈ first.passages, p.result.changed = true →
      Json.ReadsBack (.float p.result.context.confidence) := by
    rw [← Except.ok.inj report, drive_passages]
    have confidences : ∀ p ∈ Snapshot.passages ⟨.boot, keeping.freshContext⟩ intake,
        p.result.context.confidence = 0.0 ∨ p.result.context.confidence = 0.9 := by
      decide +kernel
    intro p hp _
    rcases confidences p hp with zero | intake
    · rw [zero]
      exact Json.zero_readsBack
    · rw [intake]
      exact intake_confidence
  obtain ⟨second, whole, later, once, snapshot, passages, -, -, -, visited⟩ := same all back
  exact ⟨first, d, second, whole, ran, later, once, snapshot, passages, visited⟩

end Delivery

end ControlPlane
