import ControlPlane.Proofs.Wire.Snapshots
import ControlPlane.Storage.Disk

/-!
# What a saved snapshot leaves on a disk

A file that has been written stands where its path leads, and a file that has been renamed
stands where its new path leads. So the place of a snapshot that was saved holds the text
of it, and the snapshot is loaded from there, given that its confidence reads back.
-/

set_option autoImplicit false

namespace ControlPlane

namespace FileSystem

variable {σ : Type} (fs : FileSystem (StateM σ))

def prepare (l : Location) (w : σ) : Bool × σ :=
  match l.parent? with
  | some folder => if folder.isEmpty then (true, w) else (fs.makeFolders folder).run w
  | none => (true, w)

def replace (l : Location) (text : String) (w : σ) : Bool × σ :=
  let written := (fs.write l.scratch text).run w
  if written.1 then (fs.rename l.scratch l).run written.2 else (false, written.2)

/-- A save comes to its next step unless one has gone wrong. -/
theorem save_run (path : String) (s : Snapshot) (w : σ) :
    (fs.save path s).run w =
      let made := fs.prepare (.ofText path) w
      if made.1 then fs.replace (.ofText path) s.toJson.pretty made.2 else (false, made.2) := by
  have placed : ∀ w : σ, StateT.run (m := Id)
      (do
        if ← fs.write (Location.ofText path).scratch s.toJson.pretty then
          fs.rename (Location.ofText path).scratch (.ofText path)
        else pure false) w = fs.replace (.ofText path) s.toJson.pretty w := by
    intro w
    rw [replace]
    change StateT.run (m := Id) (if ((fs.write _ _).run w).1 = true then _ else _)
      ((fs.write _ _).run w).2 = _
    split <;> rfl
  rw [FileSystem.save]
  dsimp only
  rw [prepare]
  cases (Location.ofText path).parent? with
  | none => exact placed w
  | some folder =>
    by_cases empty : folder.isEmpty = true
    · simp only [empty, if_true]
      exact placed w
    · simp only [empty, Bool.false_eq_true, if_false]
      change StateT.run (m := Id) (if ((fs.makeFolders folder).run w).1 = true then _ else _)
        ((fs.makeFolders folder).run w).2 = _
      split
      · exact placed _
      · rfl

end FileSystem

namespace Disk

section Entries

theorem lookup_filter {key k : Key} (other : k ≠ key) (entries : List (Key × Entry)) :
    (entries.filter (·.1 ≠ key)).lookup k = entries.lookup k := by
  induction entries with
  | nil => rfl
  | cons m ms ih =>
    obtain ⟨n, e⟩ := m
    simp only [ne_eq, decide_not] at ih
    by_cases gone : n = key
    · subst gone
      have apart : (k == n) = false := by simpa using other
      simp [List.lookup_cons, apart, ih]
    · simp [List.lookup_cons, gone, ih]

theorem entry?_put (d : Disk) {key : Key} (below : key ≠ []) (e : Entry) :
    entry? (d.put key e) key = some e := by
  simp [put, below, entry?]

theorem entry?_put_other (d : Disk) {key k : Key} (other : k ≠ key) (e : Entry) :
    entry? (d.put key e) k = d.entry? k := by
  have apart : (k == key) = false := by simpa using other
  unfold entry?
  rw [put, List.lookup_cons, apart, lookup_filter other]

theorem entry?_remove (d : Disk) {key k : Key} (other : k ≠ key) :
    entry? (d.remove key) k = d.entry? k := by
  unfold entry?
  rw [remove, lookup_filter other]

theorem lookup_removed (key : Key) (entries : List (Key × Entry)) :
    (entries.filter (·.1 ≠ key)).lookup key = none := by
  rw [List.lookup_eq_none_iff]
  intro m hm
  have other := of_decide_eq_true (List.mem_filter.mp hm).2
  simpa using other.symm

theorem entry?_removed (d : Disk) {key : Key} (below : key ≠ []) :
    entry? (d.remove key) key = none := by
  unfold entry?
  rw [if_neg below, remove, lookup_removed]

theorem isFolder_iff {d : Disk} {key : Key} :
    d.isFolder key = true ↔ d.entry? key = some .folder := decide_eq_true_iff

theorem isSome_folder {d : Disk} {key : Key} (folder : d.isFolder key = true) :
    (d.entry? key).isSome = true := by
  rw [isFolder_iff.mp folder]
  rfl

theorem below_root {d : Disk} {key : Key} (noFolder : d.isFolder key = false) : key ≠ [] := by
  rintro rfl
  cases noFolder

theorem isFolder_remove {d : Disk} (key : Key) {k : Key} (noFolder : d.isFolder k = false) :
    (d.remove key).isFolder k = false := by
  by_cases same : k = key
  · subst same
    simp [isFolder, entry?_removed d (below_root noFolder)]
  · rwa [isFolder, entry?_remove d same]

end Entries

section Walks

variable {d d' : Disk}

structure Keeps (d d' : Disk) : Prop where
  folders : ∀ {key}, d.isFolder key = true → d'.isFolder key = true
  home : d'.home = d.home

theorem Keeps.trans {d'' : Disk} (h : Keeps d d') (h' : Keeps d' d'') : Keeps d d'' where
  folders folder := h'.folders (h.folders folder)
  home := h'.home.trans h.home

theorem keeps_put {key : Key} (noFolder : d.isFolder key = false) (e : Entry) :
    Keeps d (d.put key e) where
  folders {k} folder := by
    have other : k ≠ key := by
      rintro rfl
      rw [noFolder] at folder
      cases folder
    rw [isFolder_iff] at folder ⊢
    rwa [entry?_put_other d other]
  home := rfl

theorem keeps_remove {key : Key} (noFolder : d.isFolder key = false) :
    Keeps d (d.remove key) where
  folders {k} folder := by
    have other : k ≠ key := by
      rintro rfl
      rw [noFolder] at folder
      cases folder
    rw [isFolder_iff] at folder ⊢
    rwa [entry?_remove d other]
  home := rfl

theorem walk_cons (d : Disk) (key : Key) (p : Part) (ps : List Part) :
    d.walk key (p :: ps) =
      if d.isFolder key then
        match p with
        | .here => d.walk key ps
        | .up => d.walk key.dropLast ps
        | .name n =>
          if !Location.canBeName n then .blocked
          else if (d.entry? (key ++ [n])).isSome then d.walk (key ++ [n]) ps
          else .missing
      else .blocked := by
  cases p <;> rfl

theorem walk_append (d : Disk) (key : Key) (ps qs : List Part) :
    d.walk key (ps ++ qs) =
      match d.walk key ps with
      | .arrived k => d.walk k qs
      | w => w := by
  induction ps generalizing key with
  | nil => rfl
  | cons p ps ih =>
    rw [List.cons_append, walk_cons, walk_cons]
    split
    · cases p with
      | here => exact ih key
      | up => exact ih key.dropLast
      | name n =>
        dsimp only
        split
        · rfl
        · split
          · exact ih (key ++ [n])
          · rfl
    · rfl

theorem walk_start {key k : Key} {ps : List Part} (arrived : d.walk key ps = .arrived k) :
    key = k ∨ d.isFolder key = true := by
  cases ps with
  | nil =>
    cases arrived
    exact .inl rfl
  | cons p ps =>
    rw [walk_cons] at arrived
    split at arrived
    · exact .inr ‹_›
    · cases arrived

/-- A path leads where it did, as long as the folders and what it leads to are there. -/
theorem Keeps.walk (h : Keeps d d') {key k : Key} {ps : List Part}
    (arrived : d.walk key ps = .arrived k) (there : (d'.entry? k).isSome = true) :
    d'.walk key ps = .arrived k := by
  induction ps generalizing key with
  | nil => exact arrived
  | cons p ps ih =>
    rw [walk_cons] at arrived ⊢
    split at arrived
    case isFalse => cases arrived
    case isTrue folder =>
      rw [if_pos (h.folders folder)]
      cases p with
      | here => exact ih arrived
      | up => exact ih arrived
      | name n =>
        dsimp only at arrived ⊢
        split at arrived
        case isTrue => cases arrived
        case isFalse usable =>
          split at arrived
          case isFalse => cases arrived
          case isTrue =>
            -- what the path passes is a folder, unless it is the end of the path
            have next : (d'.entry? (key ++ [n])).isSome = true := by
              rcases walk_start arrived with rfl | folder
              · exact there
              · exact isSome_folder (h.folders folder)
            rw [if_neg usable, if_pos next]
            exact ih arrived

end Walks

section Save

theorem slot_arrived {d : Disk} {l : Location} {key : Key} (here : d.slot l = .arrived key) :
    l.isUsable = true ∧ ∃ above n, l.parts.getLast? = some (.name n) ∧
      d.walk (d.start l) l.parts.dropLast = .arrived above ∧ d.isFolder above = true ∧
      Location.canBeName n = true ∧ key = above ++ [n] := by
  rw [slot] at here
  split at here
  case isTrue => cases here
  case isFalse usable =>
    refine ⟨by simpa using usable, ?_⟩
    split at here
    case h_1 n last =>
      split at here
      case h_1 above arrived =>
        split at here
        case isTrue sound =>
          rw [Bool.and_eq_true] at sound
          cases here
          exact ⟨above, n, last, arrived, sound.1, sound.2, rfl⟩
        case isFalse => cases here
      case h_2 other => exact absurd here (other key)
    case h_2 => split at here <;> cases here

/-- The key of a file that may be written is the name of the path's last part, in the folder
to which the other parts lead. -/
theorem fileSlot?_some {d : Disk} {l : Location} {key : Key} (slot : d.fileSlot? l = some key) :
    ∃ above n, l.isUsable = true ∧ l.folderOnly = false ∧ l.parts = l.parts.dropLast ++ [.name n] ∧
      d.walk (d.start l) l.parts.dropLast = .arrived above ∧ d.isFolder above = true ∧
      Location.canBeName n = true ∧ key = above ++ [n] ∧ d.isFolder key = false := by
  rw [fileSlot?] at slot
  split at slot
  case isTrue => cases slot
  case isFalse noFolder =>
    split at slot
    case h_2 => cases slot
    case h_1 k here =>
      split at slot
      case isTrue => cases slot
      case isFalse free =>
        cases slot
        obtain ⟨usable, above, n, last, arrived, folder, name, rfl⟩ := slot_arrived here
        refine ⟨above, n, usable, by simpa using noFolder, ?_, arrived, folder, name, rfl,
          by simpa using free⟩
        obtain ⟨before, parts⟩ := List.getLast?_eq_some_iff.mp last
        rw [parts, List.dropLast_concat]

theorem fileSlot?_free {d : Disk} {l : Location} {key : Key} (slot : d.fileSlot? l = some key) :
    d.isFolder key = false := by
  obtain ⟨-, -, -, -, -, -, -, -, -, free⟩ := fileSlot?_some slot
  exact free

/-- What is at the key of a file is found by its path, as long as the folders stay. -/
theorem find_slot {d d' : Disk} {l : Location} {key : Key} (slot : d.fileSlot? l = some key)
    (keeps : Keeps d d') {text : Option String} (there : d'.entry? key = some (.file text)) :
    d'.find l = .arrived key := by
  obtain ⟨above, n, usable, noFolder, parts, arrived, folder, name, rfl, -⟩ := fileSlot?_some slot
  have start : d'.start l = d.start l := by
    rw [Disk.start, Disk.start, keeps.home]
  have filled : l.isEmpty = false := by
    have steps : l.steps ≠ [] := by
      intro stepless
      rw [Location.parts, stepless] at parts
      exact List.cons_ne_nil _ _ parts.symm
    simp [Location.isEmpty, steps]
  have whole : d'.walk (d'.start l) l.parts = .arrived (above ++ [n]) := by
    rw [parts, walk_append, start, keeps.walk arrived (isSome_folder (keeps.folders folder))]
    dsimp only
    rw [walk_cons, if_pos (keeps.folders folder)]
    simp [name, there, Disk.walk]
  simp [find, usable, filled, whole, noFolder]

theorem write_true {d d' : Disk} {l : Location} {text : String}
    (written : d.write l text = (true, d')) :
    ∃ key, d.fileSlot? l = some key ∧ d' = d.put key (.file (some text)) := by
  rw [write] at written
  split at written
  case h_1 key slot =>
    cases written
    exact ⟨key, slot, rfl⟩
  case h_2 => cases written

theorem rename_true {d d' : Disk} {source target : Location}
    (moved : d.rename source target = (true, d')) :
    ∃ old new text, d.find source = .arrived old ∧ d.fileSlot? target = some new ∧
      d.entry? old = some (.file text) ∧ d' = (d.remove old).put new (.file text) := by
  rw [rename] at moved
  split at moved
  case h_1 old new found slot =>
    split at moved
    case h_1 text there =>
      cases moved
      exact ⟨old, new, text, found, slot, there, rfl⟩
    case h_2 => cases moved
  case h_2 => cases moved

/-- A text that has been put in its place is what is read there. -/
theorem replace_true {d d' : Disk} {l : Location} {text : String}
    (done : system.replace l text d = (true, d')) :
    d'.holds l = true ∧ d'.read l = some text := by
  rw [FileSystem.replace] at done
  split at done
  case isFalse => cases done
  case isTrue written =>
    change (d.write l.scratch text).1 = true at written
    change (d.write l.scratch text).2.rename l.scratch l = _ at done
    have whole : d.write l.scratch text = (true, (d.write l.scratch text).snd) :=
      Prod.ext written rfl
    obtain ⟨first, slot, scratch⟩ := write_true whole
    obtain ⟨old, new, kept, found, place, there, rfl⟩ := rename_true done
    rw [scratch] at found place there ⊢
    have free := fileSlot?_free slot
    have inFirst := entry?_put d (below_root free) (.file (some text))
    have foundFirst := find_slot slot (keeps_put free _) inFirst
    obtain rfl : first = old := by
      rw [foundFirst] at found
      cases found
      rfl
    obtain rfl : some text = kept := by
      rw [inFirst] at there
      cases there
      rfl
    have noFolder : (d.put first (.file (some text))).isFolder first = false := by
      simp [isFolder, inFirst]
    have moved := isFolder_remove first (fileSlot?_free place)
    have inNew := entry?_put ((d.put first (.file (some text))).remove first)
      (below_root moved) (.file (some text))
    have foundNew := find_slot place
      ((keeps_remove noFolder).trans (keeps_put moved (.file (some text)))) inNew
    simp [holds, read, foundNew, inNew]

end Save

section Load

/-- What is loaded is decided by the text at the place, and the disk is left as it is. -/
theorem load_run (path : String) (d : Disk) :
    (Disk.system.load path).run d =
      (if d.holds (.ofText path) then
        match d.read (.ofText path) with
        | none => .error .file
        | some text => (Decode.decodeText Decode.snapshot text).mapError .json
      else .error (.snapshotMissing path), d) := by
  rw [FileSystem.load]
  change StateT.run (m := Id) (if d.holds (.ofText path) = true then _ else _) d = _
  split
  · rw [FileSystem.readAs]
    change StateT.run (m := Id)
      (match d.read (.ofText path) with | none => _ | some text => _) d = _
    split
    · rfl
    · split
      case h_1 s decoded =>
        rw [decoded]
        rfl
      case h_2 problem decoded =>
        rw [decoded]
        rfl
  · rfl

theorem load_saved {path : String} {s : Snapshot} {d d' : Disk}
    (saved : (Disk.system.save path s).run d = (true, d'))
    (back : Json.ReadsBack (.float s.context.confidence)) :
    d'.holds (.ofText path) = true ∧ (Disk.system.load path).run d' = (.ok s, d') := by
  rw [FileSystem.save_run] at saved
  dsimp only at saved
  split at saved
  case isFalse => cases saved
  case isTrue =>
    obtain ⟨holds, text⟩ := replace_true saved
    rw [load_run, if_pos holds, text]
    dsimp only
    rw [Decode.snapshot_pretty back]
    exact ⟨holds, rfl⟩

end Load

end Disk

end ControlPlane
