import Mathlib.Data.List.Induction
import ControlPlane.Proofs.Storage.Mishaps

/-!
# A save is all or nothing

A save makes the folders above its place as far as they are missing, writes the scratch file
and renames it, and whatever goes wrong, it does not do more than that (`save_stages`). The
scratch file is never the file at the place. So a save that fails leaves what is at the place as
it was, and one that succeeds puts the whole new text there.

What is missing on the way to a place is made there. A path that leads out of a missing folder
again with a dot pair may so come to something that was not there before, and even make it: of
`a/../a` the folder `a` has to be made before its neighbours can be reached.
-/

set_option autoImplicit false

namespace ControlPlane

namespace Location

/-- The scratch path ends beside the place, in another name or with a dot pair. -/
theorem scratch_ends {l : Location} {n : String} (last : l.parts.getLast? = some (.name n)) :
    l.scratch.absolute = l.absolute ∧
      (l.scratch.parts = l.parts.dropLast ++ [.up] ∨
        ∃ m, m ≠ n ∧ l.scratch.parts = l.parts.dropLast ++ [.name m]) := by
  obtain ⟨width, step⟩ : ∃ width, l.steps.getLast? = some ⟨.name n, width⟩ := by
    rw [parts, List.getLast?_map, Option.map_eq_some_iff] at last
    obtain ⟨⟨part, width⟩, step, rfl⟩ := last
    exact ⟨width, step⟩
  rw [scratch, step]
  refine ⟨rfl, ?_⟩
  simp only [parts, withSteps, List.map_append, List.map_cons, List.map_nil, Step.toPart]
  split
  · exact .inl (by rw [List.map_dropLast])
  · refine .inr ⟨_, ?_, by rw [List.map_dropLast]⟩
    intro same
    exact stem_apart n.toList (by simpa using congrArg String.toList same)

end Location

namespace Disk

variable {d d' : Disk} {l : Location} {key k : Key} {p : Part} {ps : List Part}

def IsTree (d : Disk) : Prop :=
  ∀ key n, (d.entry? (key ++ [n])).isSome = true → d.isFolder key = true

/-- The path to a location leads with a dot pair out of a folder that is missing. -/
def Backtracks (d : Disk) (l : Location) : Prop :=
  ∃ before after, l.parts.dropLast = before ++ after ∧
    d.walk (d.start l) before = .missing ∧ Part.up ∈ after

structure Made (d d' : Disk) (key : Key) (ps : List Part) (k : Key) : Prop where
  absent : d.entry? k = none
  there : d'.entry? k = some .folder
  onWay : ∃ m, k = (ps.take m).foldl lead key

section Ways

theorem Made.earlier (h : Made d d' (lead key p) ps k) : Made d d' key (p :: ps) k := by
  obtain ⟨absent, there, m, way⟩ := h
  exact ⟨absent, there, m + 1, way⟩

theorem walk_take {m : Nat} (missing : d.walk key (ps.take m) = .missing) :
    d.walk key ps = .missing := by
  rw [← List.take_append_drop m ps, walk_append, missing]

theorem makeAlong_whole (whole : d.walk key ps ≠ .missing) : (d.makeAlong key ps).2 = d := by
  induction ps generalizing key with
  | nil => rfl
  | cons p ps ih =>
    cases first_part d key p with
    | onward walk make =>
      rw [walk] at whole
      rw [make]
      exact ih whole
    | missing _ walk => exact absurd (walk ps) whole
    | blocked _ make => rw [make]

theorem makeAlong_made (other : Disk.entry? (d.makeAlong key ps).2 k ≠ d.entry? k) :
    Made d (d.makeAlong key ps).2 key ps k := by
  induction ps generalizing d key with
  | nil => exact absurd rfl other
  | cons p ps ih =>
    cases first_part d key p with
    | blocked _ make => exact absurd (by rw [make]) other
    | onward _ make =>
      rw [make] at other ⊢
      exact (ih other).earlier
    | @missing n absent _ make =>
      rw [make] at other ⊢
      have made := entry?_put d (List.concat_ne_nil n key) .folder
      by_cases first : k = key ++ [n]
      · subst first
        refine ⟨absent, ?_, 1, rfl⟩
        by_contra gone
        have absent := (ih (fun same => gone (same.trans made))).absent
        rw [made] at absent
        cases absent
      · have same := entry?_put_other d first .folder
        rw [← same] at other
        obtain ⟨absent, there, way⟩ := (ih other).earlier (p := .name n)
        exact ⟨same ▸ absent, there, way⟩

theorem walk_concat {n : String} (arrived : d.walk key (ps ++ [.name n]) = .arrived k) :
    ∃ above, d.walk key ps = .arrived above ∧ k = above ++ [n] ∧ (d.entry? k).isSome = true := by
  rw [walk_append] at arrived
  split at arrived
  case h_2 other => exact absurd arrived (other k)
  case h_1 above reached =>
    refine ⟨above, reached, ?_⟩
    cases first_part d above (.name n) with
    | onward walk _ there =>
      rw [walk] at arrived
      cases arrived
      exact ⟨rfl, there n rfl⟩
    | missing _ walk => cases (walk []).symm.trans arrived
    | blocked walk => cases (walk []).symm.trans arrived

theorem fileSlot?_named (slot : d.fileSlot? l = some key) : key = d.named l := by
  obtain ⟨above, n, -, -, parts, arrived, -, -, rfl, -⟩ := fileSlot?_some slot
  rw [named, parts, List.foldl_append, ← walk_named arrived]
  rfl

end Ways

section Stages

def Scratched (l : Location) (d d' : Disk) : Prop :=
  d' = d ∨ ∃ key text, d.fileSlot? l.scratch = some key ∧ d' = d.put key (.file text)

theorem Scratched.keeps (h : Scratched l d d') : Keeps d d' := by
  rcases h with rfl | ⟨key, text, slot, rfl⟩
  · exact .refl d'
  · exact keeps_put (fileSlot?_free slot) _

theorem Scratched.elsewhere (h : Scratched l d d') (other : k ≠ d.named l.scratch) :
    d'.entry? k = d.entry? k := by
  rcases h with rfl | ⟨key, text, slot, rfl⟩
  · rfl
  · exact entry?_put_other d (fileSlot?_named slot ▸ other) _

theorem rename_elsewhere {source target : Location}
    (moved : d.rename source target = (true, d')) (notSource : k ≠ d.named source)
    (notTarget : k ≠ d.named target) : d'.entry? k = d.entry? k := by
  obtain ⟨old, new, text, found, slot, -, rfl⟩ := rename_true moved
  obtain ⟨-, -, arrived, -⟩ := find_arrived found
  have oldKey : old = d.named source := walk_named arrived
  have newKey : new = d.named target := fileSlot?_named slot
  rw [entry?_put_other _ (newKey ▸ notTarget), entry?_remove d (oldKey ▸ notSource)]

end Stages

section Paths

variable {n : String}

theorem named_last (last : l.parts.getLast? = some (.name n)) :
    d.named l = l.parts.dropLast.foldl lead (d.start l) ++ [n] := by
  obtain ⟨before, parts⟩ := List.getLast?_eq_some_iff.mp last
  rw [named, parts, List.foldl_append, List.dropLast_concat]
  rfl

theorem find_named (last : l.parts.getLast? = some (.name n)) (found : d.find l = .arrived k) :
    k = d.named l ∧ (d.entry? k).isSome = true ∧
      ∃ above, d.walk (d.start l) l.parts.dropLast = .arrived above := by
  obtain ⟨-, -, arrived, -⟩ := find_arrived found
  refine ⟨walk_named arrived, ?_⟩
  obtain ⟨before, parts⟩ := List.getLast?_eq_some_iff.mp last
  rw [parts] at arrived
  obtain ⟨above, reached, -, there⟩ := walk_concat arrived
  exact ⟨there, above, by rwa [parts, List.dropLast_concat]⟩

/-- The scratch name is never the name of the place. -/
theorem scratch_apart (last : l.parts.getLast? = some (.name n)) :
    d.named l.scratch ≠ d.named l := by
  obtain ⟨absolute, ends⟩ := l.scratch_ends last
  have start : d.start l.scratch = d.start l := by rw [Disk.start, Disk.start, absolute]
  rw [named_last last, named, start]
  rcases ends with parts | ⟨m, other, parts⟩
  · rw [parts, List.foldl_append]
    intro same
    have long := congrArg List.length same
    simp [lead] at long
  · rw [parts, List.foldl_append]
    intro same
    exact other (List.cons.inj (List.append_cancel_left same)).1

theorem find_of_walk (usable : l.isUsable = true) (given : l.isEmpty = false)
    (arrived : d.walk (d.start l) l.parts = .arrived k)
    (fits : l.folderOnly = true → d.isFolder k = true) : d.find l = .arrived k := by
  have sound : (l.folderOnly && !d.isFolder k) = false := by
    cases folderOnly : l.folderOnly with
    | false => rfl
    | true => simp [fits folderOnly]
  simp [Disk.find, usable, given, arrived, sound]

theorem Scratched.find (h : Scratched l d d') (last : l.parts.getLast? = some (.name n))
    (found : d.find l = .arrived k) : d'.find l = .arrived k := by
  obtain ⟨rfl, there, -⟩ := find_named last found
  have same : d'.entry? (d.named l) = d.entry? (d.named l) := h.elsewhere (scratch_apart last).symm
  obtain ⟨usable, given, arrived, fits⟩ := find_arrived found
  refine find_of_walk usable given ?_ fun folderOnly => ?_
  · rw [Disk.start, h.keeps.home]
    exact h.keeps.walk arrived (by rw [same]; exact there)
  · rw [isFolder, same]
    exact fits folderOnly

theorem isFolder_put_file {text : Option String}
    (folder : (d.put key (.file text)).isFolder k = true) : d.isFolder k = true := by
  by_cases same : k = key
  · subst same
    by_cases root : k = []
    · subst root
      rfl
    · rw [isFolder, entry?_put d root] at folder
      cases folder
  · rwa [isFolder, entry?_put_other d same] at folder

theorem walk_put_file {text : Option String} {start : Key} (other : k ≠ key)
    (arrived : (d.put key (.file text)).walk start ps = .arrived k) :
    d.walk start ps = .arrived k := by
  induction ps generalizing start with
  | nil => exact arrived
  | cons p ps ih =>
    rw [walk_cons] at arrived ⊢
    split at arrived
    case isFalse => cases arrived
    case isTrue folder =>
      rw [if_pos (isFolder_put_file folder)]
      cases p with
      | here => exact ih arrived
      | up => exact ih arrived
      | name n =>
        dsimp only at arrived ⊢
        split at arrived
        case isTrue => cases arrived
        case isFalse usable =>
          rw [if_neg usable]
          split at arrived
          case isFalse => cases arrived
          case isTrue there =>
            have apart : start ++ [n] ≠ key := by
              rintro rfl
              rcases walk_start arrived with same | folder
              · exact other same.symm
              · rw [isFolder, entry?_put d (List.concat_ne_nil n start)] at folder
                cases folder
            rw [entry?_put_other d apart] at there
            rw [if_pos there]
            exact ih arrived

theorem Scratched.find_before (h : Scratched l d d') (last : l.parts.getLast? = some (.name n))
    (found : d'.find l = .arrived k) : d.find l = .arrived k := by
  rcases h with rfl | ⟨key, text, slot, rfl⟩
  · exact found
  obtain ⟨rfl, -⟩ := find_named last found
  obtain ⟨usable, given, arrived, fits⟩ := find_arrived found
  have apart : d.named l ≠ key := fileSlot?_named slot ▸ (scratch_apart last).symm
  exact find_of_walk usable given (walk_put_file apart arrived) fun folderOnly =>
    isFolder_put_file (fits folderOnly)

end Paths

section Absence

variable {n : String}

/-- In a tree there is nothing below what is missing. -/
theorem IsTree.absent_below (tree : d.IsTree) (absent : d.entry? key = none)
    (below : key <+: k) : d.entry? k = none := by
  obtain ⟨more, rfl⟩ := below
  induction more using List.reverseRecOn with
  | nil => rwa [List.append_nil]
  | append_singleton more m ih =>
    by_contra there
    have folder := tree (key ++ more) m (by
      rw [List.append_assoc]
      exact Option.isSome_iff_ne_none.mpr there)
    rw [isFolder_iff, ih] at folder
    cases folder

theorem prefix_foldl_lead (straight : Part.up ∉ ps) : key <+: ps.foldl lead key := by
  induction ps generalizing key with
  | nil => exact List.prefix_rfl
  | cons p ps ih =>
    rw [List.mem_cons, not_or] at straight
    refine List.IsPrefix.trans ?_ (ih straight.2)
    cases p with
    | here => exact List.prefix_rfl
    | up => exact absurd rfl straight.1
    | name n => exact List.prefix_append key [n]

theorem prefix_foldl_take {qs : List Part} (straight : Part.up ∉ ps ++ qs) (m : Nat) :
    (ps.take m).foldl lead key <+: (ps ++ qs).foldl lead key := by
  have whole : ps ++ qs = ps.take m ++ (ps.drop m ++ qs) := by
    rw [← List.append_assoc, List.take_append_drop]
  rw [whole, List.foldl_append]
  refine prefix_foldl_lead fun turned => straight ?_
  rw [whole]
  exact List.mem_append_right _ turned

/-- A way is missing from the first name on that is not there. -/
theorem walk_missing (missing : d.walk key ps = .missing) :
    ∃ before n after above, ps = before ++ .name n :: after ∧
      d.walk key before = .arrived above ∧ d.walk above [.name n] = .missing ∧
      d.entry? (above ++ [n]) = none := by
  induction ps generalizing key with
  | nil => cases missing
  | cons p ps ih =>
    cases first_part d key p with
    | blocked walk => cases (walk ps).symm.trans missing
    | @missing n absent walk => exact ⟨[], n, ps, key, rfl, rfl, walk [], absent⟩
    | onward walk =>
      rw [walk] at missing
      obtain ⟨before, n, after, above, rfl, arrived, absent⟩ := ih missing
      exact ⟨p :: before, n, after, above, rfl, by rwa [walk], absent⟩

theorem makeAlong_append {before after : List Part} {above : Key}
    (arrived : d.walk key before = .arrived above) :
    d.makeAlong key (before ++ after) = d.makeAlong above after := by
  induction before generalizing key with
  | nil =>
    cases arrived
    rfl
  | cons p ps ih =>
    cases first_part d key p with
    | onward walk make =>
      rw [walk] at arrived
      rw [List.cons_append, make]
      exact ih arrived
    | missing _ walk => cases (walk ps).symm.trans arrived
    | blocked walk => cases (walk ps).symm.trans arrived

/-- Where there was nothing there is nothing when the folders on the way have been made, unless
the path turns back out of a folder that was missing. -/
theorem makeAlong_absent (tree : d.IsTree) (straight : ¬ d.Backtracks l)
    (last : l.parts.getLast? = some (.name n)) {m : Nat}
    (missing : d.walk (d.start l) (l.parts.dropLast.take m) = .missing) :
    Disk.entry? (d.makeAlong (d.start l) (l.parts.dropLast.take m)).2 (d.named l) = none := by
  obtain ⟨before, first, after, above, way, arrived, gone, absent⟩ := walk_missing missing
  have whole := (List.take_append_drop m l.parts.dropLast).symm
  rw [way, List.append_assoc] at whole
  generalize l.parts.dropLast.drop m = rest at whole
  have down : Part.up ∉ (.name first :: after) ++ rest := by
    rintro (_ | ⟨_, turned⟩)
    refine straight ⟨before ++ [.name first], after ++ rest, by simp [whole], ?_, turned⟩
    rw [walk_append, arrived]
    exact gone
  have named : d.named l = ((.name first :: after) ++ rest).foldl lead above ++ [n] := by
    rw [named_last last, whole, List.foldl_append, ← walk_named arrived]
  have onto (j : Nat) : ((.name first :: after).take j).foldl lead above <+:
      ((.name first :: after) ++ rest).foldl lead above := prefix_foldl_take down j
  have nothing : d.entry? (d.named l) = none := by
    apply tree.absent_below absent
    rw [named]
    exact (onto 1).trans (List.prefix_append _ _)
  rw [way, makeAlong_append arrived]
  by_contra there
  obtain ⟨j, onWay⟩ := (makeAlong_made fun same => there (same.trans nothing)).onWay
  -- The key of a folder on the way is shorter than the one at its end.
  have shorter := (onto j).length_le
  rw [← onWay, named, List.length_append] at shorter
  simp at shorter

theorem holds_iff : d.holds l = true ↔ ∃ k, d.find l = .arrived k := by
  rw [holds]
  split
  case h_1 k found => simp [found]
  case h_2 other =>
    refine ⟨Bool.noConfusion, fun arrived => ?_⟩
    obtain ⟨k, found⟩ := arrived
    exact absurd found (other k)

theorem Scratched.holds_nothing (tree : d.IsTree) (straight : ¬ d.Backtracks l)
    (last : l.parts.getLast? = some (.name n)) {m : Nat}
    (h : Scratched l (d.makeAlong (d.start l) (l.parts.dropLast.take m)).2 d')
    (nothing : d.holds l = false) : d'.holds l = false := by
  by_contra something
  obtain ⟨k, found⟩ := holds_iff.mp (Bool.eq_true_of_not_eq_false something)
  by_cases missing : d.walk (d.start l) (l.parts.dropLast.take m) = .missing
  · have keeps := (makeAlong_spares l d (d.start l) (l.parts.dropLast.take m)).keeps
    obtain ⟨rfl, there, -⟩ := find_named last found
    rw [h.keeps.named, h.elsewhere (scratch_apart last).symm, keeps.named,
      makeAlong_absent tree straight last missing] at there
    cases there
  · rw [makeAlong_whole missing] at h
    rw [holds_iff.mpr ⟨k, h.find_before last found⟩] at nothing
    cases nothing

end Absence

end Disk

namespace FrailDisk

open Disk (Scratched)

variable (w : FrailDisk)

/-- The folders above a location are made along the way to it, to some part of it. -/
theorem prepare_makes (l : Location) : ∃ m, (system.prepare l w).2.disk =
    (w.disk.makeAlong (w.disk.start l) (l.parts.dropLast.take m)).2 := by
  have nothing : ∃ m, w.disk =
      (w.disk.makeAlong (w.disk.start l) (l.parts.dropLast.take m)).2 := ⟨0, rfl⟩
  rw [FileSystem.prepare]
  split
  case h_2 => exact nothing
  case h_1 folder above =>
    split
    · exact nothing
    · obtain ⟨steps, rfl⟩ : l.steps.isEmpty = false ∧ l.withSteps l.steps.dropLast = folder := by
        simpa [Location.parent?] using above
      have parts : (l.withSteps l.steps.dropLast).parts = l.parts.dropLast := List.map_dropLast
      rcases attempt_cases (·.makeFolders (l.withSteps l.steps.dropLast))
        (·.abandon (l.withSteps l.steps.dropLast) ·) w with ⟨m, -, left⟩ | ⟨-, left⟩
      · refine ⟨m.parts, left.trans ?_⟩
        rw [Disk.abandon, parts]
        rfl
      · change _ = (w.disk.makeFolders _).2 at left
        rw [Disk.makeFolders] at left
        split at left
        · refine ⟨l.parts.dropLast.length, left.trans ?_⟩
          rw [parts, List.take_length]
          rfl
        · exact ⟨0, left⟩

theorem write_scratched (l : Location) (text : String) :
    Scratched l w.disk ((system.write l.scratch text).run w).2.disk := by
  rcases attempt_cases (·.write l.scratch text) (·.spoil l.scratch ·) w
    with ⟨m, -, left⟩ | ⟨-, left⟩
  · refine left ▸ ?_
    rw [Disk.spoil]
    split
    case h_1 key text slot _ => exact .inr ⟨key, text, slot, rfl⟩
    case h_2 => exact .inl rfl
  · change _ = (w.disk.write l.scratch text).2 at left
    refine left ▸ ?_
    rw [Disk.write]
    split
    case h_1 key slot => exact .inr ⟨key, _, slot, rfl⟩
    case h_2 => exact .inl rfl

/-- All that a save does to a disk: it makes folders on the way to the place, it writes the
scratch file, and if all has gone well, it renames that file. -/
theorem save_stages (path : String) (s : Snapshot) :
    let l := Location.ofText path
    let saved := (system.save path s).run w
    ∃ m d, Scratched l (w.disk.makeAlong (w.disk.start l) (l.parts.dropLast.take m)).2 d ∧
      (saved.1 = false ∧ saved.2.disk = d ∨
        saved.1 = true ∧ d.rename l.scratch l = (true, saved.2.disk)) := by
  intro l saved
  obtain ⟨m, made⟩ := prepare_makes w l
  have run : saved = _ := FileSystem.save_run system path s w
  dsimp only at run
  split at run
  case isFalse => exact ⟨m, _, .inl rfl, .inl ⟨by rw [run], by rw [run, made]⟩⟩
  case isTrue =>
    rw [FileSystem.replace] at run
    have scratched := write_scratched (system.prepare l w).2 l s.toJson.pretty
    refine ⟨m, _, made ▸ scratched, ?_⟩
    split at run
    case isFalse => exact .inl ⟨by rw [run], by rw [run]⟩
    case isTrue =>
      rw [run]
      exact rename_cases _ l.scratch l

/-- What has been saved is loaded. -/
theorem load_after_save {path : String} {s : Snapshot}
    (done : ((system.save path s).run w).1 = true)
    (back : Json.ReadsBack (.float s.context.confidence)) :
    let d := ((system.save path s).run w).2.disk
    (Disk.system.load path).run d = (.ok s, d) := by
  intro d
  rcases save_cases w path s with ⟨failed, -⟩ | ⟨-, text⟩
  · exact absurd (failed.symm.trans done) Bool.false_ne_true
  · obtain ⟨found, -⟩ := Disk.read_some text
    rw [Disk.load_run, if_pos (Disk.holds_iff.mpr ⟨_, found⟩), text]
    dsimp only
    rw [Decode.snapshot_pretty back]
    rfl

/-- A save is all or nothing, whatever goes wrong on the way. If it succeeds, the snapshot is
loaded from its place, given that its confidence reads back. If it fails, a file or a folder that
was at the place is there still, with all that is in it; and where there was nothing there is
nothing still, unless the path turns back out of a missing folder. Nothing is touched but the
missing folders on the way and the scratch file, and the place by a save that succeeds. The scratch
file is never at the place. -/
theorem save_replaces (path : String) (s : Snapshot) {n : String}
    (last : (Location.ofText path).parts.getLast? = some (.name n)) :
    let l := Location.ofText path
    let d := w.disk
    let saved := (system.save path s).run w
    let d' := saved.2.disk
    (saved.1 = true → Json.ReadsBack (.float s.context.confidence) →
        (Disk.system.load path).run d' = (.ok s, d')) ∧
      (saved.1 = false →
        (∀ key, d.find l = .arrived key →
          d'.find l = .arrived key ∧ ∀ k ≠ d.named l.scratch, d'.entry? k = d.entry? k) ∧
        (d.IsTree → ¬ d.Backtracks l → d.holds l = false → d'.holds l = false)) ∧
      (∀ k ≠ d.named l.scratch, saved.1 = true ∧ k = d.named l ∨ d'.entry? k = d.entry? k ∨
        Disk.Made d d' (d.start l) l.parts.dropLast k) ∧
      d.named l.scratch ≠ d.named l := by
  intro l d saved d'
  obtain ⟨m, d₂, scratched, stages⟩ := save_stages w path s
  have apart : d.named l.scratch ≠ d.named l := Disk.scratch_apart last
  have keeps := (Disk.makeAlong_spares l d (d.start l) (l.parts.dropLast.take m)).keeps
  refine ⟨load_after_save w, fun failed => ?_, fun k other => ?_, apart⟩
  · obtain ⟨-, left⟩ := stages.resolve_right fun done => by simp [saved, done.1] at failed
    change d' = d₂ at left
    rw [left]
    refine ⟨fun key found => ?_, fun tree straight nothing => ?_⟩
    · obtain ⟨-, -, above, arrived⟩ := Disk.find_named last found
      have whole : d.walk (d.start l) (l.parts.dropLast.take m) ≠ .missing := by
        intro missing
        cases (Disk.walk_take missing).symm.trans arrived
      rw [Disk.makeAlong_whole whole] at scratched
      exact ⟨scratched.find last found, fun k other => scratched.elsewhere other⟩
    · exact scratched.holds_nothing tree straight last nothing
  · rw [or_iff_not_imp_left]
    intro elsewhere
    have same : d'.entry? k =
        Disk.entry? (d.makeAlong (d.start l) (l.parts.dropLast.take m)).2 k := by
      rw [← scratched.elsewhere (keeps.named l.scratch ▸ other)]
      rcases stages with ⟨-, left⟩ | ⟨done, moved⟩
      · exact congrArg (fun d : Disk => d.entry? k) left
      · have keeps := keeps.trans scratched.keeps
        refine Disk.rename_elsewhere moved (keeps.named l.scratch ▸ other) ?_
        rw [keeps.named l]
        exact fun here => elsewhere ⟨done, here⟩
    rw [same, or_iff_not_imp_left]
    intro made
    obtain ⟨absent, there, j, way⟩ := Disk.makeAlong_made made
    exact ⟨absent, same.trans there, min j m, by rw [way, List.take_take]⟩

/-- The last step of a save goes wrong, over a file that was there before. -/
theorem save_replaces_interrupted :
    (Location.ofText "runs/run.json").parts.getLast? = some (.name "run.json") ∧
      let d := Disk.empty.place "runs/run.json" (.file (some "the run before"))
      let saved := (system.save "runs/run.json" ⟨.idle, {}⟩).run ⟨d, [none, none, some {}]⟩
      saved.1 = false ∧
        saved.2.disk.find (.ofText "runs/run.json") = .arrived ["home", "runs", "run.json"] ∧
        Disk.entry? saved.2.disk ["home", "runs", "run.json"] =
          some (.file (some "the run before")) := by
  have last : (Location.ofText "runs/run.json").parts.getLast? = some (.name "run.json") := by
    decide +kernel
  refine ⟨last, ?_⟩
  intro d saved
  have failed : saved.1 = false := by decide +kernel
  obtain ⟨-, spared, -, -⟩ :=
    save_replaces ⟨d, [none, none, some {}]⟩ "runs/run.json" ⟨.idle, {}⟩ last
  obtain ⟨found, same⟩ := (spared failed).1 ["home", "runs", "run.json"] (by decide +kernel)
  exact ⟨failed, found, (same _ (by decide +kernel)).trans (by decide +kernel)⟩

/-- A path that needs a folder at its own place: a save there fails, and leaves a folder where
there was nothing. -/
theorem own_folder_made :
    let l := Location.ofText "a/../a"
    let saved := (system.save "a/../a" ⟨.idle, {}⟩).run ⟨Disk.empty, []⟩
    l.parts.getLast? = some (.name "a") ∧ Disk.empty.holds l = false ∧ saved.1 = false ∧
      saved.2.disk.holds l = true ∧
      Disk.entry? saved.2.disk (Disk.empty.named l) ≠ Disk.empty.entry? (Disk.empty.named l) := by
  decide +kernel

end FrailDisk

end ControlPlane
