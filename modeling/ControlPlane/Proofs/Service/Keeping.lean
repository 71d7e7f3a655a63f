import ControlPlane.Proofs.Drive.Driven
import ControlPlane.Proofs.Service.Serving
import ControlPlane.Proofs.Storage.Mishaps

/-!
# Keeping snapshots disturbs nothing

A session with a keeper answers, moves on and logs as one without, but for an entry for
each snapshot that could not be saved. What it does to the world is to save, in their
order, the snapshots of the events that have changed the run (`ask_saves`). On a disk where
any operation may go wrong the file of the snapshots is then the last one that could be
saved, or as it was at the start (`saves_disturb_nothing`).
-/

set_option autoImplicit false

namespace ControlPlane

section Runs

def Snapshot.told (s : Snapshot) (es : List Event) : List LogEntry :=
  (s.passages es).flatMap fun p => logOf p.source p.event p.result

def Snapshot.saves (s : Snapshot) (es : List Event) : List Snapshot :=
  ((s.passages es).filter (·.result.changed)).map (·.result.snapshot)

theorem saves_cons (s : Snapshot) (e : Event) (es : List Event) :
    s.saves (e :: es) =
      (if (transition s e).changed then [s.next e] else []) ++ (s.next e).saves es := by
  rw [Snapshot.saves, Snapshot.passages, List.filter_cons]
  cases (transition s e).changed <;> rfl

theorem saves_append (s : Snapshot) (es fs : List Event) :
    s.saves (es ++ fs) = s.saves es ++ (s.after es).saves fs := by
  simp only [Snapshot.saves, Snapshot.passages_append, List.filter_append, List.map_append]

theorem told_append (s : Snapshot) (es fs : List Event) :
    s.told (es ++ fs) = s.told es ++ (s.after es).told fs := by
  simp only [Snapshot.told, Snapshot.passages_append, List.flatMap_append]

theorem after_saves (s : Snapshot) (es : List Event) :
    s.after es = ((s.saves es).getLast?).getD s := by
  induction es generalizing s with
  | nil => rfl
  | cons e es ih =>
    rw [saves_cons, Snapshot.after_cons, ih]
    cases changed : (transition s e).changed with
    | false => simp [next_unchanged changed]
    | true => simp [List.getLast?_cons]

theorem logOf_noLoss (st : State) (e : Event) (r : TransitionResult) :
    ∀ entry ∈ logOf st e r, entry.isLoss = false := by
  rw [logOf]
  split
  · simp [LogEntry.isLoss]
  · split
    · simp [LogEntry.isLoss]
    · split <;> simp [LogEntry.isLoss]

theorem told_noLoss (s : Snapshot) (es : List Event) :
    ∀ entry ∈ s.told es, entry.isLoss = false := by
  intro entry there
  obtain ⟨p, -, told⟩ := List.mem_flatMap.mp there
  exact logOf_noLoss _ _ _ entry told

end Runs

section Keepers

variable {σ : Type} (keeper : Option (Keeper (StateM σ)))

namespace Keeper

def saveAll (ss : List Snapshot) : StateM σ (List Bool) :=
  match keeper with
  | some k => ss.mapM k.save
  | none => pure []

def losses (outcomes : List Bool) : List LogEntry :=
  match keeper with
  | some k => List.replicate (outcomes.count false) (.snapshotNotPersisted k.path)
  | none => []

theorem saveAll_append (ss ts : List Snapshot) (world : σ) :
    (saveAll keeper (ss ++ ts)).run world =
      let first := (saveAll keeper ss).run world
      let rest := (saveAll keeper ts).run first.2
      (first.1 ++ rest.1, rest.2) := by
  cases keeper with
  | none => rfl
  | some k =>
    simp only [saveAll, List.mapM_append]
    rfl

theorem losses_append (as bs : List Bool) :
    losses keeper (as ++ bs) = losses keeper as ++ losses keeper bs := by
  cases keeper with
  | none => rfl
  | some k => simp only [losses, List.count_append, List.replicate_append_replicate]

theorem losses_isLoss (outcomes : List Bool) :
    ∀ entry ∈ losses keeper outcomes, entry.isLoss = true := by
  intro entry there
  cases keeper with
  | none => cases there
  | some k =>
    rw [List.eq_of_mem_replicate there]
    rfl

end Keeper

open Keeper

/-- After one event there is at most one snapshot to be saved, and one entry if it is lost. -/
theorem keep_saves (s : Snapshot) (e : Event) (world : σ) :
    (Keeper.keep keeper (transition s e).changed (s.next e)).run world =
      let saved := (saveAll keeper (s.saves [e])).run world
      (losses keeper saved.1, saved.2) := by
  rw [saves_cons]
  cases (transition s e).changed with
  | false =>
    rw [keep_unchanged]
    cases keeper <;> rfl
  | true =>
    cases keeper with
    | none => rfl
    | some k =>
      rw [keep_changed, if_pos rfl, List.singleton_append, saveAll, mapM_cons_run]
      generalize (k.save (s.next e)).run world = first
      obtain ⟨done, later⟩ := first
      cases done <;> rfl

/-- Serving a request saves what it has changed, and nothing if it has changed nothing. -/
theorem serve_saves (machine : Machine) (r : Request) (world : σ) :
    let served := (serve keeper machine r).run world
    let saved := (saveAll keeper (machine.snapshot.saves r.event?.toList)).run world
    served.2 = saved.2 ∧
      served.1.log = machine.snapshot.told r.event?.toList ++ losses keeper saved.1 := by
  cases r with
  | snapshot => cases keeper <;> exact ⟨rfl, rfl⟩
  | dispatch e =>
    have kept := keep_saves keeper machine.snapshot e world
    have told : machine.snapshot.told [e] = (machine.dispatch e).log := List.append_nil _
    dsimp only [Request.event?, Option.toList]
    rw [told]
    refine ⟨congrArg Prod.snd kept, ?_⟩
    exact congrArg ((machine.dispatch e).log ++ ·) (congrArg Prod.fst kept)

/-- Of what is logged about served requests the losses come from saves that have failed, and
the rest is told by the events alone. -/
theorem serve_log (machine : Machine) (r : Request) (world : σ) :
    let served := (serve keeper machine r).run world
    let saved := (saveAll keeper (machine.snapshot.saves r.event?.toList)).run world
    served.1.log.filter (·.isLoss) = losses keeper saved.1 ∧
      served.1.log.filter (!·.isLoss) = machine.snapshot.told r.event?.toList := by
  intro served saved
  have told := told_noLoss machine.snapshot r.event?.toList
  have lost := losses_isLoss keeper saved.1
  have log : served.1.log = machine.snapshot.told r.event?.toList ++ losses keeper saved.1 :=
    (serve_saves keeper machine r world).2
  rw [log, List.filter_append, List.filter_append]
  constructor
  · rw [List.filter_eq_nil_iff.mpr (by simpa using told), List.filter_eq_self.mpr lost]
    rfl
  · rw [List.filter_eq_self.mpr (by simpa using told),
      List.filter_eq_nil_iff.mpr (by simpa using lost)]
    exact List.append_nil _

namespace Session

/-- Emptying the mailbox saves what the events in it change, in their order. -/
theorem drain_saves {s : Session} (h : s.box.Packed) (world : σ) :
    let drained := (s.drain keeper).run world
    let events := eventsOf s.box.letters
    let saved := (saveAll keeper (s.machine.snapshot.saves events)).run world
    drained.2 = saved.2 ∧
      drained.1.2.log.filter (·.isLoss) =
        s.log.filter (·.isLoss) ++ losses keeper saved.1 ∧
      drained.1.2.log.filter (!·.isLoss) =
        s.log.filter (!·.isLoss) ++ s.machine.snapshot.told events := by
  induction s using Session.drain.induct generalizing world with
  | case1 s ht =>
    rw [drain_empty keeper ht, Mailbox.take_none h ht]
    cases keeper <;>
      exact ⟨rfl, (List.append_nil _).symm, (List.append_nil _).symm⟩
  | case2 s l box ht ih =>
    have later := ih ((serve keeper s.machine l.request).run world).1 (h.take ht)
      ((serve keeper s.machine l.request).run world).2
    have here := serve_saves keeper s.machine l.request world
    have log := serve_log keeper s.machine l.request world
    simp only [advance_machine, advance_box, serve_machine, Machine.after_snapshot] at later
    obtain ⟨world', lost, told⟩ := later
    rw [drain_letter keeper ht, Mailbox.take_letters ht, eventsOf_cons]
    dsimp only
    rw [saves_append, told_append, saveAll_append]
    dsimp only
    rw [losses_append, ← here.1, ← log.1, ← log.2, lost, told, advance, List.filter_append,
      List.filter_append, List.append_assoc, List.append_assoc]
    exact ⟨world', rfl, rfl⟩

theorem posted_log (s : Session) (requests : List Request) :
    (requests.foldl post s).log = s.log := by
  induction requests generalizing s with
  | nil => rfl
  | cons r rs ih => exact ih (s.post r)

/-- Whatever is done to keep snapshots, the answers, the machine and what is told about the
events are given by the run alone. -/
theorem ask_saves (machine : Machine) (requests : List Request) (world : σ) :
    let asked := ((start machine).ask keeper requests).run world
    let events := requests.filterMap Request.event?
    let saved := (saveAll keeper (machine.snapshot.saves events)).run world
    asked.1.1 = .ok (answers machine.snapshot requests) ∧
      asked.1.2.machine = machine.after events ∧
      asked.2 = saved.2 ∧
      asked.1.2.log.filter (·.isLoss) = losses keeper saved.1 ∧
      asked.1.2.log.filter (!·.isLoss) =
        .sessionStarted machine.state :: machine.snapshot.told events := by
  have packed : (start machine).wake.box.Packed := fun waiting => absurd rfl waiting
  obtain ⟨packed, same, letters⟩ := posted packed requests
  have events : eventsOf (requests.foldl post (start machine).wake).box.letters =
      requests.filterMap Request.event? := by
    change List.filterMap (Request.event? ∘ Letter.request) _ = _
    rw [← List.filterMap_map, letters]
    rfl
  have served := drain_deliveries keeper packed world
  have saved := drain_saves keeper packed world
  rw [same, wake_machine, events] at served saved
  rw [posted_log] at saved
  obtain ⟨world', lost, told⟩ := saved
  refine ⟨ask_answers keeper rfl rfl requests world, ?_⟩
  rw [ask_run keeper rfl]
  exact ⟨served.2, world', lost, told⟩

end Session

end Keepers

section Disks

def FrailDisk.keeper (path : String) : Keeper (StateM FrailDisk) := ⟨path, system.save path⟩

/-- Failures to save never disturb a run. With a keeper it gives the answers that it gives
without, its machine comes to the same snapshot and history, and it logs the same but for
one loss for each save that failed. It saves after the events that have changed the run and
at no other time. At the place of the snapshots is the last one that could be saved, whole,
and until one could be saved the file that was there before; so it is the snapshot of the
machine if there has been a change and no failure. The requests may end anywhere, and so all
of this is true at every point of a longer run as well. -/
theorem saves_disturb_nothing (path : String) (machine : Machine) (requests : List Request)
    (w : FrailDisk) :
    let place := Location.ofText path
    let ask := fun keeper : Option (Keeper (StateM FrailDisk)) =>
      ((Session.start machine).ask keeper requests).run w
    let bare := ask none
    let kept := ask (some (FrailDisk.keeper path))
    let saves := machine.snapshot.saves (requests.filterMap Request.event?)
    let tried := (saves.mapM (FrailDisk.keeper path).save).run w
    kept.1.1 = bare.1.1 ∧
    kept.1.2.machine = bare.1.2.machine ∧
    kept.1.2.log.filter (!·.isLoss) = bare.1.2.log ∧
    kept.1.2.log.filter (·.isLoss) =
      List.replicate (tried.1.count false) (.snapshotNotPersisted path) ∧
    kept.2 = tried.2 ∧
    (FrailDisk.lastSaved (saves.zip tried.1) = none →
      kept.2.disk.fileAt place = w.disk.fileAt place ∧
        ∀ text, w.disk.read place = some text → kept.2.disk.read place = some text) ∧
    (∀ s, FrailDisk.lastSaved (saves.zip tried.1) = some s →
      kept.2.disk.fileAt place = some (some s.toJson.pretty) ∧
        kept.2.disk.read place = some s.toJson.pretty) ∧
    (saves ≠ [] → (∀ done ∈ tried.1, done = true) →
      kept.2.disk.fileAt place = some (some kept.1.2.machine.snapshot.toJson.pretty) ∧
        kept.2.disk.read place = some kept.1.2.machine.snapshot.toJson.pretty) := by
  intro place ask bare kept saves tried
  obtain ⟨freeReplies, freeMachine, -, freeLost, freeTold⟩ :=
    Session.ask_saves none machine requests w
  obtain ⟨replies, same, disk, lost, told⟩ :=
    Session.ask_saves (some (FrailDisk.keeper path)) machine requests w
  have freeLog : bare.1.2.log.filter (!·.isLoss) = bare.1.2.log := by
    have lossless := List.filter_eq_nil_iff.mp freeLost
    exact List.filter_eq_self.mpr (by simpa using lossless)
  have world : kept.2 = tried.2 := disk
  have left : FrailDisk.Leaves path w.disk kept.2.disk
      (FrailDisk.lastSaved (saves.zip tried.1)) := world ▸ FrailDisk.saves_leave w path saves
  have saved : ∀ s, FrailDisk.lastSaved (saves.zip tried.1) = some s →
      kept.2.disk.fileAt place = some (some s.toJson.pretty) ∧
        kept.2.disk.read place = some s.toJson.pretty := by
    intro s last
    rw [last] at left
    exact ⟨(Disk.read_some left).2, left⟩
  refine ⟨replies.trans freeReplies.symm, same.trans freeMachine.symm,
    told.trans (freeTold.symm.trans freeLog), lost, world, fun unsaved => ?_, saved,
    fun changes all => ?_⟩
  · rw [unsaved] at left
    exact ⟨left.file, fun text => left.read⟩
  · obtain ⟨s, last⟩ := Option.ne_none_iff_exists'.mp (List.getLast?_eq_none_iff.not.mpr changes)
    have current : kept.1.2.machine.snapshot = s := by
      rw [same, Machine.after_snapshot, after_saves]
      exact congrArg (Option.getD · _) last
    rw [current]
    exact saved s ((FrailDisk.lastSaved_all (mapM_run_length _ saves w) all).trans last)

def interrupted : FrailDisk := ⟨Disk.empty, [none, none, some {}]⟩

def probing : List Request :=
  [.dispatch .boot, .dispatch .tick, .dispatch (.bdProbeResult []), .snapshot]

/-- The first of two snapshots is lost, and the second one is kept. -/
theorem saves_disturb_nothing_interrupted :
    let keeper := FrailDisk.keeper "runs/run.json"
    let kept := ((Session.start (.resume ⟨.boot, {}⟩)).ask (some keeper) probing).run interrupted
    kept.1.2.log.filter (·.isLoss) = [.snapshotNotPersisted "runs/run.json"] ∧
      ∃ s : Snapshot, s.state = .idle ∧
        kept.2.disk.read (.ofText "runs/run.json") = some s.toJson.pretty := by
  intro keeper kept
  obtain ⟨-, -, -, lost, -, -, saved, -⟩ :=
    saves_disturb_nothing "runs/run.json" (.resume ⟨.boot, {}⟩) probing interrupted
  have ends : (FrailDisk.lastSaved ((Snapshot.saves ⟨.boot, {}⟩
      (probing.filterMap Request.event?)).zip [false, true])).map (·.state) = some .idle := by
    decide +kernel
  have outcomes : (((Snapshot.saves ⟨.boot, {}⟩ (probing.filterMap Request.event?)).mapM
      keeper.save).run interrupted).1 = [false, true] := by
    decide +kernel
  obtain ⟨s, last, idle⟩ := Option.map_eq_some_iff.mp ends
  rw [← outcomes] at last
  refine ⟨?_, s, idle, (saved s last).2⟩
  exact lost.trans (congrArg (List.replicate · _) (congrArg (List.count false) outcomes))

end Disks

end ControlPlane
