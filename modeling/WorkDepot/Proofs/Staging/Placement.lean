import WorkDepot.Proofs.FileSystem.Directories
import WorkDepot.Staging.Place

/-! # What placing content does to files

A temporary file gets a name that is free, so it is gone without a trace once it is removed. Placing
content makes directories above the path and then settles the path: the content is written to a
vacant location, or what is there has been read, or nothing has happened. No disk can change that.
-/
namespace WorkDepot

namespace FileSystem
variable {fs : FileSystem}

/-- More names than a file system has nodes cannot all be taken. -/
theorem freshName_free (fs : FileSystem) {series : Nat → Name} (hs : Function.Injective series)
    (directory : Location) : fs.node? (fs.freshName directory series :: directory) = none := by
  rw [freshName]
  cases hfind : (List.range (fs.nodes.size + 1)).find?
      fun i => (fs.node? (series i :: directory)).isNone with
  | some i =>
    have hfree := List.find?_some hfind
    simpa using hfree
  | none =>
    have hall := List.find?_eq_none.mp hfind
    let taken := (List.range (fs.nodes.size + 1)).map fun i => series i :: directory
    have hnodup : taken.Nodup := by
      apply List.Nodup.map _ List.nodup_range
      intro i j he
      exact hs (List.cons.inj he).1
    have hsub : taken ⊆ fs.nodes.keys := by
      intro place hp
      obtain ⟨i, hi, rfl⟩ := List.mem_map.mp hp
      have hn := hall i hi
      rw [Std.ExtTreeMap.mem_keys, ← Std.ExtTreeMap.isSome_getElem?_iff_mem]
      simpa [node?_cons] using hn
    have hlen := (List.subperm_of_subset hnodup hsub).length_le
    rw [Std.ExtTreeMap.length_keys, List.length_map, List.length_range] at hlen
    omega

/-- Without a file that is not yet published, all directories and links are there. -/
theorem keepsWays_of_insert_file {location : Location} {content : Bytes} {mode : Mode}
    (h : fs.node? location = none) : KeepsWays (fs.insert location (.file content mode)) fs := by
  constructor
  · intro place hd
    rw [node?_insert (ne_nil_of_node?_eq_none h)] at hd
    split at hd
    · cases hd
    · exact hd
  · intro place target hl
    rw [node?_insert (ne_nil_of_node?_eq_none h)] at hl
    split at hl
    · cases hl
    · exact hl

theorem publish_cases {source : Location} {path : Text} {published : FileSystem}
    (h : fs.publish source path = .ok published) :
    ∃ slot node, fs.slot path = .ok (some slot) ∧ fs.Vacant slot.location ∧
      slot.slashed = false ∧ fs.node? source = some node ∧
      published = (fs.erase source).insert slot.location node := by
  simp only [publish, bind_eq_ok] at h
  obtain ⟨found, hslot, h⟩ := h
  cases found with
  | none => cases h
  | some slot =>
    dsimp only at h
    split at h
    · simp [bind, Except.bind, throw, throwThe, MonadExceptOf.throw] at h
    · next hn =>
      split at h
      · simp [bind, Except.bind, throw, throwThe, MonadExceptOf.throw] at h
      · next hs =>
        simp only [pure, Except.pure] at h
        split at h
        · next node hnode =>
          cases h
          exact ⟨slot, node, hslot, vacant_slot hslot (by simpa using hn), by simpa using hs,
            hnode, rfl⟩
        · cases h

/-- Publishing a temporary file is writing it to a vacant location, to which the path leads then. -/
theorem publish_temp {temp : Location} {path : Text} {content : Bytes} {mode : Mode}
    {published : FileSystem} (hfree : fs.node? temp = none)
    (h : (fs.insert temp (.file content mode)).publish temp path = .ok published) :
    ∃ location, fs.Vacant location ∧ published = fs.insert location (.file content mode) ∧
      published.locate path = .ok location := by
  have hne := ne_nil_of_node?_eq_none hfree
  obtain ⟨slot, node, hslot, hv, hs, hnode, rfl⟩ := publish_cases h
  rw [node?_insert_self hne] at hnode
  cases hnode
  rw [erase_insert hfree]
  have hslot := slot_transfer (keepsWays_of_insert_file hfree) hslot
  have hn : fs.node? slot.location = none := by
    have hf := hv.free
    rw [node?_insert hne] at hf
    split at hf
    · cases hf
    · exact hf
  have hle : fs ≤ fs.insert slot.location (.file content mode) := le_insert hn
  have hslot' := slot_transfer (keepsWays_of_le hle) hslot
  have hvacant := vacant_slot hslot hn
  exact ⟨slot.location, hvacant, rfl, locate_of_slot hslot' (node?_insert_self hvacant.ne_nil)
    (fun target he => by cases he) (.inl hs)⟩

end FileSystem

namespace Staging
open FileSystem
variable {disk : Disk} {fs after : FileSystem} {path : Text} {content : Bytes} {mode : Mode}

/-- Zeros in front do not hide the number. -/
theorem leftpad_decimal_injective (width : Nat) :
    Function.Injective fun number => (Text.decimal number).leftpad width '0' := by
  have hread (number : Nat) :
      Nat.ofDigitChars 10 ((Text.decimal number).leftpad width '0') 0 = number := by
    rw [List.leftpad, Nat.ofDigitChars_append, Nat.ofDigitChars_replicate_zero, Nat.mul_zero,
      Text.decimal, Nat.ofDigitChars_ten_toDigits]
  exact Function.LeftInverse.injective hread

theorem tempName_injective : Function.Injective tempName := by
  intro first second h
  exact leftpad_decimal_injective 6 (List.append_cancel_left h)

theorem tempDirectory_of_locate {parent : Text} {directory : Location}
    (hc : checkPath (Path.join parent (tempName 0)) = .ok ())
    (hl : fs.locateDirectory parent = .ok directory) : tempDirectory fs parent = .ok directory := by
  rw [tempDirectory, hc]
  exact hl

theorem tempDirectory_of_checkPath {parent : Text} {cause : IoFault}
    (hc : checkPath (Path.join parent (tempName 0)) = .error cause) (fs : FileSystem) :
    tempDirectory fs parent = .error cause := by
  rw [tempDirectory, hc]
  rfl

theorem try_eq_ok {α : Type} {operation : Operation} {result : Except IoFault α} {value : α} :
    disk.try operation path result = .ok value ↔ disk operation = none ∧ result = .ok value := by
  rw [Disk.try]
  cases disk operation with
  | some cause => simp
  | none => simp [mapError_eq_ok]

/-- How a path is settled once the directories above it are there. -/
inductive Settled (fs : FileSystem) (path : Text) (content : Bytes) (mode : Mode) :
    Except StorageFault Placed → FileSystem → Prop
  | written {location : Location} : fs.Vacant location →
      (fs.insert location (.file content (permissionBits mode))).locate path = .ok location →
      Settled fs path content mode (.ok .written)
        (fs.insert location (.file content (permissionBits mode)))
  | identical : fs.read path = .ok content → Settled fs path content mode (.ok .identical) fs
  | conflict {existing : Bytes} : fs.read path = .ok existing → existing ≠ content →
      Settled fs path content mode (.ok .conflict) fs
  | failed {fault : StorageFault} : Settled fs path content mode (.error fault) fs

theorem compareExisting_settled :
    Settled fs path content mode (compareExisting disk fs path content) fs := by
  rw [compareExisting]
  cases hr : disk.try .read path (fs.read path) with
  | error fault => exact .failed
  | ok existing =>
    obtain ⟨_, hread⟩ := try_eq_ok.mp hr
    simp only [bind, Except.bind, pure, Except.pure]
    split
    · next he => exact .identical (he ▸ hread)
    · next he => exact .conflict hread he

theorem fillTemp_eq {temp : Location} {tempPath : Text} {filled : FileSystem}
    (hfree : fs.node? temp = none)
    (h : fillTemp disk (fs.createTemp temp) temp tempPath content mode = .ok filled) :
    filled = fs.insert temp (.file content (permissionBits mode)) := by
  have hne := ne_nil_of_node?_eq_none hfree
  simp only [fillTemp, bind_eq_ok] at h
  obtain ⟨_, _, _, _, _, _, h⟩ := h
  cases h
  simp [createTemp, setContent, FileSystem.setMode, node?_insert_self hne]

theorem publishTemp_settled {temp : Location} (hfree : fs.node? temp = none) :
    Settled fs path content mode
      (publishTemp disk (fs.insert temp (.file content (permissionBits mode))) temp path content).1
      (publishTemp disk (fs.insert temp (.file content (permissionBits mode))) temp path
        content).2 := by
  rw [publishTemp]
  split
  · next published hp =>
    obtain ⟨_, hpub⟩ := try_eq_ok.mp hp
    obtain ⟨location, hv, rfl, hl⟩ := publish_temp hfree hpub
    exact .written hv hl
  · rw [erase_insert hfree]
    dsimp only
    split
    · exact compareExisting_settled
    · exact .failed

theorem placeNew_settled {parent : Text} :
    Settled fs path content mode (placeNew disk fs parent path content mode).1
      (placeNew disk fs parent path content mode).2 := by
  rw [placeNew]
  split
  · exact .failed
  · next directory _ =>
    have hfree := fs.freshName_free tempName_injective directory
    dsimp only
    split
    · rw [createTemp, erase_insert hfree]
      exact .failed
    · next filled hfill =>
      rw [fillTemp_eq hfree hfill]
      exact publishTemp_settled hfree

variable (disk fs path content mode) in
/-- Placing content makes directories above the path, and settles the path. -/
theorem placeContent_settled :
    ∃ middle, MadeAbove path fs middle ∧
      Settled middle path content mode (placeContent disk fs path content mode).1
        (placeContent disk fs path content mode).2 := by
  rw [placeContent]
  split
  · exact ⟨fs, .nothing, .failed⟩
  · exact ⟨fs, .nothing, compareExisting_settled⟩
  · split
    · exact ⟨fs, .nothing, .failed⟩
    · next parent hp =>
      have hmade := makeDirectories_made fs hp
      split
      · exact ⟨fs, .nothing, .failed⟩
      · split
        · next cause middle hm =>
          rw [hm] at hmade
          exact ⟨middle, hmade, .failed⟩
        · next middle hm =>
          rw [hm] at hmade
          exact ⟨middle, hmade, placeNew_settled⟩

namespace Settled
variable {result : Except StorageFault Placed}

theorem le (h : Settled fs path content mode result after) : fs ≤ after := by
  cases h with
  | written hv _ => exact le_insert hv.free
  | identical | conflict | failed => exact le_rfl

theorem isTree (h : Settled fs path content mode result after) (ht : fs.IsTree) : after.IsTree := by
  cases h with
  | written hv _ => exact ht.insert hv _
  | identical | conflict | failed => exact ht

end Settled

variable (disk fs path content mode) in
theorem placeContent_le : fs ≤ (placeContent disk fs path content mode).2 := by
  obtain ⟨middle, hm, hs⟩ := placeContent_settled disk fs path content mode
  exact hm.le.trans hs.le

/-! ## On a disk that does not fail -/

theorem sound_try {α : Type} (operation : Operation) (path : Text) (result : Except IoFault α) :
    Disk.sound.try operation path result = result.mapError (⟨operation, path, ·⟩) := rfl

theorem compareExisting_sound {existing : Bytes} (h : fs.read path = .ok existing) :
    compareExisting .sound fs path content =
      .ok (if existing = content then .identical else .conflict) := by
  simp [compareExisting, sound_try, h, Except.mapError, bind, Except.bind, pure, Except.pure]

/-- A file that can be read is compared and nothing else. -/
theorem placeContent_of_read {existing : Bytes} (h : fs.read path = .ok existing) :
    placeContent .sound fs path content mode =
      (.ok (if existing = content then .identical else .conflict), fs) := by
  obtain ⟨location, _, hlead, _⟩ := read_eq_ok_iff.mp h
  rw [placeContent, sound_try, exists?_of_locate hlead]
  simp only [Except.mapError]
  rw [compareExisting_sound h]

theorem placeContent_of_file {slot : Slot} {existing : Bytes} {bits : Mode}
    (hslot : fs.slot path = .ok (some slot)) (hs : slot.slashed = false)
    (hn : fs.node? slot.location = some (.file existing bits)) :
    placeContent .sound fs path content mode =
      (.ok (if existing = content then .identical else .conflict), fs) := by
  have hlead := locate_of_slot hslot hn (fun target he => by cases he) (.inl hs)
  exact placeContent_of_read (read_eq_ok_iff.mpr ⟨_, bits, hlead, hn⟩)

/-- Where nothing is, and the directory above is there, a new file is placed. -/
theorem placeContent_of_free {slot : Slot} {parent : Text}
    (hslot : fs.slot path = .ok (some slot)) (hn : fs.node? slot.location = none)
    (hparent : Path.parent? path = some parent)
    (hmade : fs.makeDirectories parent = (.ok (), fs)) :
    placeContent .sound fs path content mode = placeNew .sound fs parent path content mode := by
  simp only [placeContent, sound_try, exists?_of_free hslot hn, Except.mapError, hparent, hmade]

/-- Without a directory for the temporary file nothing is written. -/
theorem placeNew_of_error {parent : Text} {cause : IoFault}
    (h : tempDirectory fs parent = .error cause) :
    placeNew .sound fs parent path content mode = (.error ⟨.createTemp, parent, cause⟩, fs) := by
  simp only [placeNew, sound_try, h, Except.mapError]

/-- The content is written where nothing is, in a directory that is there. -/
theorem placeNew_of_free {slot : Slot} {parent : Text}
    (hslot : fs.slot path = .ok (some slot)) (hs : slot.slashed = false)
    (hn : fs.node? slot.location = none)
    (htemp : tempDirectory fs parent = .ok slot.directory)
    (hname : ∀ number, slot.name ≠ tempName number) :
    placeNew .sound fs parent path content mode =
      (.ok .written, fs.insert slot.location (.file content (permissionBits mode))) := by
  have hfree := fs.freshName_free tempName_injective slot.directory
  have hne : slot.location ≠ fs.freshName slot.directory tempName :: slot.directory := by
    intro he
    exact hname _ (List.cons.inj he).1
  generalize hat : fs.freshName slot.directory tempName :: slot.directory = temp at hfree hne
  have hfill : fillTemp .sound (fs.createTemp temp) temp
      (Path.join parent (fs.freshName slot.directory tempName)) content mode =
        .ok (fs.insert temp (.file content (permissionBits mode))) := by
    simp [fillTemp, sound_try, Except.mapError, bind, Except.bind, pure, Except.pure, createTemp,
      setContent, FileSystem.setMode, node?_insert_self (ne_nil_of_node?_eq_none hfree)]
  have hpublish : (fs.insert temp (.file content (permissionBits mode))).publish temp path =
      .ok (fs.insert slot.location (.file content (permissionBits mode))) := by
    have hle : fs ≤ fs.insert temp (.file content (permissionBits mode)) := le_insert hfree
    have hslot' := slot_transfer (keepsWays_of_le hle) hslot
    simp [publish, hslot', hs, node?_insert_of_ne hne, hn, erase_insert hfree,
      node?_insert_self (ne_nil_of_node?_eq_none hfree), bind, Except.bind, pure, Except.pure]
  simp only [placeNew, sound_try, htemp, Except.mapError, hat, hfill, publishTemp, hpublish]

end Staging
end WorkDepot
