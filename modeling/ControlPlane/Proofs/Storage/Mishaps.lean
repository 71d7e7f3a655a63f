import ControlPlane.Proofs.Storage.Disk

/-!
# Saving with mishaps

Any operation on a disk may go wrong, and it may leave something behind then: some of the
folders that it was to make, or part of a text under the name that it was to write. A save
goes wrong with the first of its operations that does. The file at the place of the
snapshot is touched by none of them but the last, which puts the whole new text there. So a
save that fails spares that file, and one that succeeds replaces it (`save_cases`).

A save that is broken off between two operations leaves what it would leave if the next
operation went wrong and left nothing behind.
-/

set_option autoImplicit false

namespace ControlPlane

structure Mishap where
  /-- The parts of the path that had been followed when folders were to be made. -/
  parts : Nat := 0
  /-- What is in the file that was to be written, if it has been touched. -/
  residue : Option (Option String) := none

structure FrailDisk where
  disk : Disk
  ahead : List (Option Mishap)

namespace Disk

def abandon (d : Disk) (l : Location) (m : Mishap) : Disk :=
  (d.makeAlong (d.start l) (l.parts.take m.parts)).2

def spoil (d : Disk) (l : Location) (m : Mishap) : Disk :=
  match d.fileSlot? l, m.residue with
  | some key, some text => d.put key (.file text)
  | _, _ => d

end Disk

namespace FrailDisk

def attempt (act : Disk → Bool × Disk) (wreck : Disk → Mishap → Disk) (w : FrailDisk) :
    Bool × FrailDisk :=
  match w.ahead with
  | [] => ((act w.disk).1, ⟨(act w.disk).2, []⟩)
  | none :: later => ((act w.disk).1, ⟨(act w.disk).2, later⟩)
  | some mishap :: later => (false, ⟨wreck w.disk mishap, later⟩)

def system : FileSystem (StateM FrailDisk) where
  holds l := do return (← get).disk.holds l
  read l := do return (← get).disk.read l
  makeFolders l := modifyGet <| attempt (·.makeFolders l) fun d m => d.abandon l m
  write l text := modifyGet <| attempt (·.write l text) fun d m => d.spoil l m
  rename source target := modifyGet <| attempt (·.rename source target) fun d _ => d

theorem attempt_cases (act : Disk → Bool × Disk) (wreck : Disk → Mishap → Disk)
    (w : FrailDisk) :
    (∃ m, (attempt act wreck w).1 = false ∧ (attempt act wreck w).2.disk = wreck w.disk m) ∨
      (attempt act wreck w).1 = (act w.disk).1 ∧
        (attempt act wreck w).2.disk = (act w.disk).2 := by
  obtain ⟨d, ahead⟩ := w
  cases ahead with
  | nil => exact .inr ⟨rfl, rfl⟩
  | cons next later =>
    cases next with
    | none => exact .inr ⟨rfl, rfl⟩
    | some m => exact .inl ⟨m, rfl, rfl⟩

end FrailDisk

namespace Location

/-- The name of the scratch file has another extension, whatever the name is. -/
theorem stem_apart (name : List Char) : stem name ++ ".json.tmp".toList ≠ name := by
  rw [stem]
  split
  · simp
  case h_2 c before rest =>
    split
    · simp
    · intro same
      have parts : name.reverse = name.reverse.takeWhile (· ≠ '.') ++ c :: before := by
        rw [← rest, List.takeWhile_append_dropWhile]
      have whole : name =
          before.reverse ++ c :: (name.reverse.takeWhile (· ≠ '.')).reverse := by
        have reversed := congrArg List.reverse parts
        simpa using reversed
      have extension : ".json.tmp".toList = c :: (name.reverse.takeWhile (· ≠ '.')).reverse :=
        List.append_cancel_left (same.trans whole)
      have dot : '.' ∈ name.reverse.takeWhile (· ≠ '.') := by
        rw [← List.mem_reverse, ← (List.cons.inj extension).2]
        decide
      simpa using List.mem_takeWhile_imp dot

/-- A file can be written at the scratch place only if the path ends in a name, and then its
name is another one in the same folder. -/
theorem scratch_parts {l : Location} {m : String}
    (last : l.scratch.parts.getLast? = some (.name m)) :
    ∃ n, m ≠ n ∧ l.parts = l.parts.dropLast ++ [.name n] ∧
      l.scratch.parts = l.parts.dropLast ++ [.name m] ∧ l.scratch.absolute = l.absolute := by
  unfold scratch at last ⊢
  split at last
  case h_1 n width here =>
    obtain ⟨before, steps⟩ := List.getLast?_eq_some_iff.mp here
    have parts : l.parts = before.map (·.part) ++ [.name n] := by rw [Location.parts, steps]; simp
    simp only [Location.parts, withSteps, steps, List.dropLast_concat, List.map_append,
      List.map_cons, List.map_nil, List.getLast?_concat, Option.some.injEq] at last ⊢
    refine ⟨n, ?_, rfl, by rw [last], trivial⟩
    rintro rfl
    change (if _ then Part.up else Part.name _) = _ at last
    split at last
    · cases last
    · apply stem_apart m.toList
      simpa using congrArg String.toList (Part.name.inj last)
  case h_2 other =>
    rw [Location.parts, List.getLast?_map, Option.map_eq_some_iff] at last
    obtain ⟨⟨part, width⟩, step, rfl⟩ := last
    exact absurd step (other m width)

end Location

namespace Disk

section Files

def lead (key : Key) : Part → Key
  | .here => key
  | .up => key.dropLast
  | .name n => key ++ [n]

inductive FirstPart (d : Disk) (key : Key) : Part → Prop
  | onward {p : Part} (walk : ∀ ps, d.walk key (p :: ps) = d.walk (lead key p) ps)
      (make : ∀ ps, d.makeAlong key (p :: ps) = d.makeAlong (lead key p) ps)
      (there : ∀ n, p = .name n → (d.entry? (key ++ [n])).isSome = true) : FirstPart d key p
  | missing {n : String} (absent : d.entry? (key ++ [n]) = none)
      (walk : ∀ ps, d.walk key (.name n :: ps) = .missing)
      (make : ∀ ps, d.makeAlong key (.name n :: ps) =
        (d.put (key ++ [n]) .folder).makeAlong (key ++ [n]) ps) : FirstPart d key (.name n)
  | blocked {p : Part} (walk : ∀ ps, d.walk key (p :: ps) = .blocked)
      (make : ∀ ps, d.makeAlong key (p :: ps) = (false, d)) : FirstPart d key p

theorem makeAlong_cons (d : Disk) (key : Key) (p : Part) (ps : List Part) :
    d.makeAlong key (p :: ps) =
      if d.isFolder key then
        match p with
        | .here => d.makeAlong key ps
        | .up => d.makeAlong key.dropLast ps
        | .name n =>
          if !Location.canBeName n then (false, d)
          else if (d.entry? (key ++ [n])).isSome then d.makeAlong (key ++ [n]) ps
          else (d.put (key ++ [n]) .folder).makeAlong (key ++ [n]) ps
      else (false, d) := by
  cases p <;> rfl

theorem first_part (d : Disk) (key : Key) (p : Part) : FirstPart d key p := by
  by_cases folder : d.isFolder key = true
  · cases p with
    | here =>
      exact .onward (by simp [walk_cons, folder, lead]) (by simp [makeAlong_cons, folder, lead])
        nofun
    | up =>
      exact .onward (by simp [walk_cons, folder, lead]) (by simp [makeAlong_cons, folder, lead])
        nofun
    | name n =>
      by_cases usable : Location.canBeName n = true
      · cases there : d.entry? (key ++ [n]) with
        | none =>
          exact .missing there (by simp [walk_cons, folder, usable, there])
            (by simp [makeAlong_cons, folder, usable, there])
        | some e =>
          refine .onward (by simp [walk_cons, folder, usable, there, lead])
            (by simp [makeAlong_cons, folder, usable, there, lead]) ?_
          rintro _ ⟨⟩
          rw [there]
          rfl
      · exact .blocked (by simp [walk_cons, folder, usable])
          (by simp [makeAlong_cons, folder, usable])
  · exact .blocked (by simp [walk_cons, folder]) (by simp [makeAlong_cons, folder])

def named (d : Disk) (l : Location) : Key := l.parts.foldl lead (d.start l)

def file? (d : Disk) (key : Key) : Option (Option String) :=
  match d.entry? key with
  | some (.file text) => some text
  | _ => none

def fileAt (d : Disk) (l : Location) : Option (Option String) := d.file? (d.named l)

variable {d d' : Disk} {l : Location}

theorem file?_eq_some {key : Key} {text : Option String} :
    d.file? key = some text ↔ d.entry? key = some (.file text) := by
  rw [file?]
  split
  case h_1 here => simp [here]
  case h_2 noFile =>
    constructor
    · exact nofun
    · intro here
      exact absurd here (noFile text)

theorem file?_folder {key : Key} (folder : d.isFolder key = true) : d.file? key = none := by
  rw [file?, isFolder_iff.mp folder]

theorem file?_put_other {key k : Key} (other : k ≠ key) (e : Entry) :
    file? (d.put key e) k = d.file? k := by
  rw [file?, file?, entry?_put_other d other]

theorem walk_named {key k : Key} {ps : List Part} (arrived : d.walk key ps = .arrived k) :
    k = ps.foldl lead key := by
  induction ps generalizing key with
  | nil =>
    cases arrived
    rfl
  | cons p ps ih =>
    cases first_part d key p with
    | onward walk =>
      rw [walk] at arrived
      exact ih arrived
    | missing _ walk => cases (walk ps).symm.trans arrived
    | blocked walk => cases (walk ps).symm.trans arrived

theorem find_arrived {key : Key} (found : d.find l = .arrived key) :
    l.isUsable = true ∧ l.isEmpty = false ∧ d.walk (d.start l) l.parts = .arrived key ∧
      (l.folderOnly = true → d.isFolder key = true) := by
  rw [find] at found
  split at found
  case isTrue => cases found
  case isFalse usable =>
    split at found
    case isTrue => cases found
    case isFalse filled =>
      split at found
      case h_1 k arrived =>
        split at found
        case isTrue => cases found
        case isFalse fits =>
          cases found
          exact ⟨by simpa using usable, by simpa using filled, arrived, by simpa using fits⟩
      case h_2 other => exact absurd found (other key)

/-- What can be read at a place is what the file there holds. -/
theorem read_some {text : String} (here : d.read l = some text) :
    d.find l = .arrived (d.named l) ∧ d.fileAt l = some (some text) := by
  rw [read] at here
  split at here
  case h_2 => cases here
  case h_1 key found =>
    obtain ⟨-, -, arrived, -⟩ := find_arrived found
    obtain rfl : key = d.named l := walk_named arrived
    split at here
    case h_2 => cases here
    case h_1 entry =>
      subst here
      exact ⟨found, file?_eq_some.mpr entry⟩

end Files

section Spared

structure Spares (l : Location) (d d' : Disk) : Prop where
  keeps : Keeps d d'
  file : d'.fileAt l = d.fileAt l

variable {d d' : Disk} {l : Location}

theorem Keeps.refl (d : Disk) : Keeps d d := ⟨id, rfl⟩

theorem Keeps.named (h : Keeps d d') (l : Location) : d'.named l = d.named l := by
  rw [Disk.named, Disk.named, Disk.start, Disk.start, h.home]

namespace Spares

theorem refl (l : Location) (d : Disk) : Spares l d d := ⟨.refl d, rfl⟩

theorem trans {d'' : Disk} (h : Spares l d d') (h' : Spares l d' d'') : Spares l d d'' :=
  ⟨h.keeps.trans h'.keeps, h'.file.trans h.file⟩

theorem read (h : Spares l d d') {text : String} (here : d.read l = some text) :
    d'.read l = some text := by
  obtain ⟨found, file⟩ := read_some here
  obtain ⟨usable, given, arrived, fits⟩ := find_arrived found
  have entry : d'.entry? (d.named l) = some (.file (some text)) := by
    rw [← file?_eq_some, ← h.keeps.named, ← file]
    exact h.file
  have noFolder : l.folderOnly = false := by
    cases folder : l.folderOnly with
    | false => rfl
    | true =>
      rw [fileAt, file?_folder (fits folder)] at file
      cases file
  have start : d'.start l = d.start l := by rw [Disk.start, Disk.start, h.keeps.home]
  have whole : d'.walk (d'.start l) l.parts = .arrived (d.named l) := by
    rw [start]
    exact h.keeps.walk arrived (by rw [entry]; rfl)
  simp [Disk.read, find, usable, given, whole, noFolder, entry]

end Spares

theorem put_spares {key : Key} {e : Entry} (noFolder : d.isFolder key = false)
    (elsewhere : d.named l ≠ key) : Spares l d (d.put key e) where
  keeps := keeps_put noFolder e
  file := file?_put_other elsewhere e

/-- A folder that is made where there was nothing takes the place of no file. -/
theorem put_folder_spares {key : Key} (absent : d.entry? key = none) :
    Spares l d (d.put key .folder) := by
  have noFolder : d.isFolder key = false := by simp [isFolder, absent]
  by_cases here : d.named l = key
  · refine ⟨keeps_put noFolder _, ?_⟩
    have made : isFolder (d.put key .folder) key = true :=
      isFolder_iff.mpr (entry?_put d (below_root noFolder) .folder)
    change file? (d.put key .folder) (d.named l) = d.file? (d.named l)
    rw [here, file?_folder made, file?, absent]
  · exact put_spares noFolder here

theorem makeAlong_spares (l : Location) (d : Disk) (key : Key) (ps : List Part) :
    Spares l d (d.makeAlong key ps).2 := by
  induction ps generalizing d key with
  | nil => exact .refl l d
  | cons p ps ih =>
    cases first_part d key p with
    | onward _ make =>
      rw [make]
      exact ih d _
    | missing absent _ make =>
      rw [make]
      exact (put_folder_spares absent).trans (ih _ _)
    | blocked _ make =>
      rw [make]
      exact .refl l d

theorem makeFolders_spares (l folder : Location) (d : Disk) :
    Spares l d (d.makeFolders folder).2 := by
  rw [makeFolders]
  split
  · exact makeAlong_spares l d _ _
  · exact .refl l d

/-- The scratch file is another one than the file at the place. -/
theorem scratch_elsewhere {key : Key} (slot : d.fileSlot? l.scratch = some key) :
    d.named l ≠ key := by
  obtain ⟨above, m, -, -, parts, arrived, -, -, rfl, -⟩ := fileSlot?_some slot
  have last : l.scratch.parts.getLast? = some (.name m) := by rw [parts, List.getLast?_concat]
  obtain ⟨n, apart, place, scratch, absolute⟩ := Location.scratch_parts last
  have start : d.start l.scratch = d.start l := by rw [Disk.start, Disk.start, absolute]
  have folder : above = l.parts.dropLast.foldl lead (d.start l) := by
    rw [walk_named arrived, start, scratch, List.dropLast_concat]
  rw [folder, named, place, List.foldl_append, List.dropLast_concat]
  intro same
  have names := List.append_cancel_left same
  exact apart (List.cons.inj names).1.symm

theorem spoil_spares (l : Location) (d : Disk) (m : Mishap) : Spares l d (d.spoil l.scratch m) := by
  rw [spoil]
  split
  case h_1 key text slot _ => exact put_spares (fileSlot?_free slot) (scratch_elsewhere slot)
  case h_2 => exact .refl l d

theorem write_spares (l : Location) (d : Disk) (text : String) :
    Spares l d (d.write l.scratch text).2 := by
  rw [write]
  split
  case h_1 key slot => exact put_spares (fileSlot?_free slot) (scratch_elsewhere slot)
  case h_2 => exact .refl l d

theorem rename_false {source target : Location} (failed : (d.rename source target).1 = false) :
    (d.rename source target).2 = d := by
  rw [rename] at failed ⊢
  split at failed
  case h_1 =>
    split at failed
    · cases failed
    · rfl
  case h_2 => rfl

end Spared

end Disk

theorem mapM_cons_run {σ α β : Type} (act : α → StateM σ β) (a : α) (as : List α) (w : σ) :
    ((a :: as).mapM act).run w =
      let first := (act a).run w
      let rest := (as.mapM act).run first.2
      (first.1 :: rest.1, rest.2) := by
  rw [List.mapM_cons]
  rfl

theorem mapM_run_length {σ α β : Type} (act : α → StateM σ β) (as : List α) (w : σ) :
    ((as.mapM act).run w).1.length = as.length := by
  induction as generalizing w with
  | nil => rfl
  | cons a as ih =>
    rw [mapM_cons_run]
    exact congrArg (· + 1) (ih _)

namespace FrailDisk

open Disk (Spares)

variable (w : FrailDisk)

theorem makeFolders_spares (l folder : Location) :
    Spares l w.disk ((system.makeFolders folder).run w).2.disk := by
  rcases attempt_cases (·.makeFolders folder) (·.abandon folder ·) w with ⟨m, -, left⟩ | ⟨-, left⟩
  · exact left ▸ Disk.makeAlong_spares l w.disk _ _
  · exact left ▸ Disk.makeFolders_spares l folder w.disk

theorem write_spares (l : Location) (text : String) :
    Spares l w.disk ((system.write l.scratch text).run w).2.disk := by
  rcases attempt_cases (·.write l.scratch text) (·.spoil l.scratch ·) w
    with ⟨m, -, left⟩ | ⟨-, left⟩
  · exact left ▸ Disk.spoil_spares l w.disk m
  · exact left ▸ Disk.write_spares l w.disk text

theorem prepare_spares (l place : Location) :
    Spares l w.disk (system.prepare place w).2.disk := by
  rw [FileSystem.prepare]
  split
  · split
    · exact .refl l w.disk
    · exact makeFolders_spares w l _
  · exact .refl l w.disk

theorem write_done {l : Location} {text : String}
    (done : ((system.write l text).run w).1 = true) :
    w.disk.write l text = (true, ((system.write l text).run w).2.disk) := by
  rcases attempt_cases (·.write l text) (·.spoil l ·) w with ⟨m, failed, -⟩ | ⟨same, left⟩
  · exact absurd (failed.symm.trans done) Bool.false_ne_true
  · exact Prod.ext (same.symm.trans done) left.symm

/-- A move of a file that fails moves nothing. -/
theorem rename_cases (source target : Location) :
    let moved := (system.rename source target).run w
    (moved.1 = false ∧ moved.2.disk = w.disk) ∨
      (moved.1 = true ∧ w.disk.rename source target = (true, moved.2.disk)) := by
  rcases attempt_cases (·.rename source target) (fun d _ => d) w with
    ⟨m, failed, left⟩ | ⟨same, left⟩
  · exact .inl ⟨failed, left⟩
  · cases done : (w.disk.rename source target).1 with
    | false => exact .inl ⟨same.trans done, left.trans (Disk.rename_false done)⟩
    | true => exact .inr ⟨same.trans done, Prod.ext done left.symm⟩

/-- A text takes its place as a whole or leaves the place as it was. -/
theorem replace_cases (l : Location) (text : String) :
    let put := system.replace l text w
    (put.1 = false ∧ Spares l w.disk put.2.disk) ∨
      (put.1 = true ∧ put.2.disk.read l = some text) := by
  have spared := write_spares w l text
  intro put
  cases written : ((system.write l.scratch text).run w).1 with
  | false =>
    have stops : put = (false, ((system.write l.scratch text).run w).2) :=
      if_neg (by simp [written])
    rw [stops]
    exact .inl ⟨rfl, spared⟩
  | true =>
    have next : put = (system.rename l.scratch l).run ((system.write l.scratch text).run w).2 :=
      if_pos written
    rw [next]
    rcases rename_cases ((system.write l.scratch text).run w).2 l.scratch l with
      ⟨failed, left⟩ | ⟨done, moved⟩
    · exact .inl ⟨failed, left ▸ spared⟩
    · have whole : Disk.system.replace l text w.disk = (true, _) :=
        (if_pos (congrArg Prod.fst (write_done w written))).trans
          ((congrArg (fun r => r.2.rename l.scratch l) (write_done w written)).trans moved)
      exact .inr ⟨done, (Disk.replace_true whole).2⟩

/-- A save that goes wrong spares the file at its place, and one that does not leaves the
snapshot there. -/
theorem save_cases (path : String) (s : Snapshot) :
    let saved := (system.save path s).run w
    (saved.1 = false ∧ Spares (.ofText path) w.disk saved.2.disk) ∨
      (saved.1 = true ∧ saved.2.disk.read (.ofText path) = some s.toJson.pretty) := by
  have spared := prepare_spares w (.ofText path) (.ofText path)
  rw [FileSystem.save_run]
  dsimp only
  split
  case isFalse => exact .inl ⟨rfl, spared⟩
  case isTrue =>
    rcases replace_cases (system.prepare (.ofText path) w).2 (.ofText path) s.toJson.pretty with
      ⟨failed, after⟩ | done
    · exact .inl ⟨failed, spared.trans after⟩
    · exact .inr done

/-- What a row of saves makes of the disk: the place of the snapshots holds the last one
that could be saved, and as long as none could be, what it held before. -/
def Leaves (path : String) (before after : Disk) : Option Snapshot → Prop
  | none => Spares (.ofText path) before after
  | some s => after.read (.ofText path) = some s.toJson.pretty

def lastSaved (saves : List (Snapshot × Bool)) : Option Snapshot :=
  ((saves.filter (·.2)).getLast?).map (·.1)

theorem lastSaved_cons (s : Snapshot) (done : Bool) (rest : List (Snapshot × Bool)) :
    lastSaved ((s, done) :: rest) = (lastSaved rest <|> if done then some s else none) := by
  cases done with
  | false => simp [lastSaved]
  | true =>
    simp only [lastSaved, List.filter_cons, if_true, List.getLast?_cons]
    cases (rest.filter (·.2)).getLast? <;> rfl

theorem lastSaved_all {ss : List Snapshot} {outcomes : List Bool}
    (each : outcomes.length = ss.length) (all : ∀ done ∈ outcomes, done = true) :
    lastSaved (ss.zip outcomes) = ss.getLast? := by
  have kept : (ss.zip outcomes).filter (·.2) = ss.zip outcomes :=
    List.filter_eq_self.mpr fun trial there => all _ (List.of_mem_zip there).2
  rw [lastSaved, kept, ← List.getLast?_map, List.map_fst_zip each.ge]

theorem saves_leave (path : String) (ss : List Snapshot) :
    let saves := (ss.mapM (system.save path)).run w
    Leaves path w.disk saves.2.disk (lastSaved (ss.zip saves.1)) := by
  induction ss generalizing w with
  | nil => exact .refl _ w.disk
  | cons s ss ih =>
    have here := save_cases w path s
    rw [mapM_cons_run]
    generalize (system.save path s).run w = first at here
    obtain ⟨done, v⟩ := first
    have later := ih v
    dsimp only [List.zip_cons_cons] at here later ⊢
    rw [lastSaved_cons]
    cases last : lastSaved (ss.zip ((ss.mapM (system.save path)).run v).1) with
    | some t =>
      -- a later save has succeeded, and what this one has left does not matter
      rw [last] at later
      exact later
    | none =>
      rw [last] at later
      rcases here with ⟨rfl, spared⟩ | ⟨rfl, kept⟩
      · exact spared.trans later
      · exact later.read kept

end FrailDisk

end ControlPlane
