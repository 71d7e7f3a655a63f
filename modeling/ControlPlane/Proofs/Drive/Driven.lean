import ControlPlane.Proofs.Run.Course

/-!
# What driving a run gives

The report of a run that is driven through a list of events tells what transitions make of
them, wherever and whether snapshots are kept.
-/

set_option autoImplicit false

namespace ControlPlane

def LogEntry.isLoss : LogEntry → Bool
  | .snapshotNotPersisted _ => true
  | _ => false

variable {σ : Type} (keeper : Option (Keeper (StateM σ)))

theorem keep_changed (k : Keeper (StateM σ)) (s : Snapshot) (world : σ) :
    (Keeper.keep (some k) true s).run world =
      (if ((k.save s).run world).1 then [] else [.snapshotNotPersisted k.path],
        ((k.save s).run world).2) := by
  change StateT.run (m := Id) (if ((k.save s).run world).1 = true then _ else _)
    ((k.save s).run world).2 = _
  split <;> rfl

theorem keep_unchanged (s : Snapshot) (world : σ) :
    (Keeper.keep keeper false s).run world = ([], world) := by
  cases keeper <;> rfl

theorem handle_run (machine : Machine) (e : Event) (world : σ) :
    (machine.handle keeper e).run world =
      let d := machine.dispatch e
      let kept := (Keeper.keep keeper d.result.changed d.machine.snapshot).run world
      ({ d with log := d.log ++ kept.1 }, kept.2) := rfl

theorem takeAll_cons (machine : Machine) (e : Event) (es : List Event) (world : σ) :
    (takeAll keeper machine (e :: es)).run world =
      let d := (machine.handle keeper e).run world
      let rest := (takeAll keeper d.1.machine es).run d.2
      ((⟨machine.state, e, d.1.result⟩ :: rest.1.1, rest.1.2.1, d.1.log ++ rest.1.2.2), rest.2) :=
  rfl

theorem takeAll_passages (machine : Machine) (es : List Event) (world : σ) :
    ((takeAll keeper machine es).run world).1.1 = machine.snapshot.passages es := by
  induction es generalizing machine world with
  | nil => rfl
  | cons e es ih =>
    rw [takeAll_cons]
    dsimp only
    rw [ih]
    rfl

theorem takeAll_machine (machine : Machine) (es : List Event) (world : σ) :
    ((takeAll keeper machine es).run world).1.2.1 = machine.after es := by
  induction es generalizing machine world with
  | nil => rfl
  | cons e es ih =>
    rw [takeAll_cons]
    exact ih _ _

theorem drive_run (start : Snapshot) (es : List Event) (world : σ) :
    (drive keeper start es).run world =
      let all := (takeAll keeper (.resume start) es).run world
      (⟨all.1.1, all.1.2.1, .sessionStarted start.state :: all.1.2.2
        ++ [.sessionStopped all.1.2.1.state]⟩, all.2) := rfl

theorem drive_passages (start : Snapshot) (es : List Event) (world : σ) :
    ((drive keeper start es).run world).1.passages = start.passages es :=
  takeAll_passages keeper (.resume start) es world

theorem drive_machine (start : Snapshot) (es : List Event) (world : σ) :
    ((drive keeper start es).run world).1.machine = (Machine.resume start).after es :=
  takeAll_machine keeper (.resume start) es world

theorem drive_snapshot (start : Snapshot) (es : List Event) (world : σ) :
    ((drive keeper start es).run world).1.snapshot = start.after es := by
  rw [Report.snapshot, drive_machine, Machine.after_snapshot, Machine.resume_snapshot]

theorem drive_visited (start : Snapshot) (es : List Event) (world : σ) :
    ((drive keeper start es).run world).1.visited = start.visited es := by
  rw [Report.visited, drive_machine, Machine.after_history, Machine.after_state]
  rfl

end ControlPlane
