import WorkDepot.Proofs.FileSystem.Places

/-! # Making directories

Making a directory fills a vacant location. Making all directories that a path needs is a run of
such steps, each for a path above it. What one step keeps, the run keeps: nothing that was there
changes, and what is new is a directory under a name above the path.
-/
namespace WorkDepot.FileSystem
variable {fs made before after : FileSystem} {path : Text} {location : Location}

theorem vacant_slot {slot : Slot} (h : fs.slot path = .ok (some slot))
    (hn : fs.node? slot.location = none) : fs.Vacant slot.location := by
  obtain ⟨_, _, hd, _⟩ := slot_eq_some_iff.mp h
  exact ⟨hn, hd⟩

theorem makeDirectory_cases (h : fs.makeDirectory path = .ok made) :
    ∃ slot, fs.slot path = .ok (some slot) ∧ fs.Vacant slot.location ∧
      made = fs.insert slot.location .directory := by
  simp only [makeDirectory, bind_eq_ok] at h
  obtain ⟨found, hslot, h⟩ := h
  cases found with
  | none => cases h
  | some slot =>
    dsimp only at h
    split at h
    · simp [bind, Except.bind, throw, throwThe, MonadExceptOf.throw] at h
    · next hn =>
      cases h
      exact ⟨slot, hslot, vacant_slot hslot (by simpa using hn), rfl⟩

theorem makeDirectory_root : fs.makeDirectory ['/'] = .error .alreadyExists := by
  have hc : checkPath ['/'] = .ok () := by decide
  have hs : (Path.ending ['/']).before = [] ∧ (Path.ending ['/']).name? = none := by decide
  simp [makeDirectory, FileSystem.slot, hc, hs, walk_nil, bind, Except.bind, pure, Except.pure,
    throw, throwThe, MonadExceptOf.throw]

/-- Directories are made one after the other, each for a path above the given one. -/
inductive MadeAbove (path : Text) : FileSystem → FileSystem → Prop
  | nothing {files : FileSystem} : MadeAbove path files files
  | more {above : Text} {files made last : FileSystem} : Path.Above above path →
      files.makeDirectory above = .ok made → MadeAbove path made last → MadeAbove path files last

namespace MadeAbove

theorem trans {middle : FileSystem} (h : MadeAbove path before middle)
    (h' : MadeAbove path middle after) : MadeAbove path before after := by
  induction h with
  | nothing => exact h'
  | more ha hm _ ih => exact .more ha hm (ih h')

theorem le (h : MadeAbove path before after) : before ≤ after := by
  induction h with
  | nothing => exact le_rfl
  | more _ hm _ ih =>
    obtain ⟨slot, _, hv, rfl⟩ := makeDirectory_cases hm
    exact (le_insert hv.free).trans ih

theorem isTree (h : MadeAbove path before after) (ht : before.IsTree) : after.IsTree := by
  induction h with
  | nothing => exact ht
  | more _ hm _ ih =>
    obtain ⟨slot, _, hv, rfl⟩ := makeDirectory_cases hm
    exact ih (ht.insert hv _)

/-- What is new is a directory that a path above the given one leads to. -/
theorem new_node (h : MadeAbove path before after) (hb : before.node? location = none) :
    after.node? location = none ∨ after.node? location = some .directory ∧
      ∃ above, Path.Above above path ∧ after.locate above = .ok location := by
  induction h with
  | nothing => exact .inl hb
  | @more above files made last ha hm hmore ih =>
    obtain ⟨slot, hs, hv, rfl⟩ := makeDirectory_cases hm
    by_cases he : location = slot.location
    · right
      have hle : files ≤ files.insert slot.location .directory := le_insert hv.free
      have hn : (files.insert slot.location .directory).node? slot.location = some .directory :=
        node?_insert_self hv.ne_nil
      have hl := locate_of_slot (slot_transfer (keepsWays_of_le hle) hs) hn
        (fun target he => by cases he) (.inr rfl)
      rw [he]
      exact ⟨hmore.le _ _ hn, above, ha, locate_mono hmore.le hl⟩
    · apply ih
      rw [node?_insert hv.ne_nil, if_neg he]
      exact hb

theorem widened (h : MadeAbove path before after) : Widened before after :=
  ⟨h.le, fun _ hn => (h.new_node hn).imp_right And.left⟩

/-- What is no directory has been there before. -/
theorem node?_eq_of_ne (h : MadeAbove path before after) {node : Node}
    (hn : after.node? location = some node) (hd : node ≠ .directory) :
    before.node? location = some node := by
  cases hb : before.node? location with
  | some there => rw [← hn, h.le _ _ hb]
  | none =>
    rcases h.new_node hb with hnone | ⟨hdir, _⟩
    · rw [hn] at hnone
      cases hnone
    · rw [hn, Option.some_inj] at hdir
      exact absurd hdir hd

theorem node?_eq_of_file (h : MadeAbove path before after) {content : Bytes} {mode : Mode}
    (hn : after.node? location = some (.file content mode)) :
    before.node? location = some (.file content mode) := h.node?_eq_of_ne hn (by simp)

theorem newFiles_eq (h : MadeAbove path before after) : newFiles before after = ∅ := by
  ext place
  simp only [newFiles, Set.mem_ofPred_eq, Set.mem_empty_iff_false, iff_false, not_and, not_not]
  rintro ⟨content, mode, hn⟩
  exact ⟨content, mode, h.node?_eq_of_file hn⟩

theorem linkFree (h : MadeAbove path before after) (hf : before.LinkFree) : after.LinkFree := by
  intro place target hn
  exact hf place target (h.node?_eq_of_ne hn (by simp))

/-- Either nothing is made, or the first directory that is made fills a vacant location. -/
theorem first (h : MadeAbove path before after) : after = before ∨
    ∃ above slot, Path.Above above path ∧ before.slot above = .ok (some slot) ∧
      before.Vacant slot.location ∧ after.node? slot.location = some .directory := by
  cases h with
  | nothing => exact .inl rfl
  | @more above _ made _ ha hm hmore =>
    obtain ⟨slot, hs, hv, rfl⟩ := makeDirectory_cases hm
    exact .inr ⟨above, slot, ha, hs, hv, hmore.le _ _ (node?_insert_self hv.ne_nil)⟩

/-- Below a directory that is new there are directories only, so no file is read there. -/
theorem eq_of_read (h : MadeAbove path before after) (ht : before.IsTree)
    (hu : .up ∉ Path.steps path) {content : Bytes} (hr : after.read path = .ok content) :
    after = before := by
  rcases h.first with he | ⟨above, slot, ha, hs, hv, hn⟩
  · exact he
  · exfalso
    have hbelow : ∀ location, slot.location <:+ location →
        after.node? location = none ∨ after.node? location = some .directory := by
      rintro location ⟨names, rfl⟩
      rcases h.new_node (ht.node?_append hv.free names) with hnone | ⟨hdir, _⟩
      · exact .inl hnone
      · exact .inr hdir
    obtain ⟨location, mode, hlocate, hfile⟩ := read_eq_ok_iff.mp hr
    obtain ⟨_, left, hw⟩ := locate_eq_ok_iff.mp hlocate
    obtain ⟨rest, hrest⟩ := ha.steps
    obtain ⟨middle, between, hw, hw'⟩ := hw.split hrest
    have hlead := locate_of_slot (slot_transfer (keepsWays_of_le h.le) hs) hn
      (fun target he => by cases he) (.inr rfl)
    obtain ⟨_, _, hw''⟩ := locate_eq_ok_iff.mp hlead
    obtain ⟨rfl, _⟩ := hw.unique hw''
    have hu' : .up ∉ rest := by
      rw [hrest] at hu
      exact fun hm => hu (List.mem_append_right _ hm)
    have hend := hw'.ends_below hu' List.suffix_rfl fun place target hp hl => by
      rcases hbelow place hp with hnone | hdir
      · rw [hl] at hnone
        cases hnone
      · rw [hl] at hdir
        cases hdir
    rcases hbelow location hend with hnone | hdir
    · rw [hfile] at hnone
      cases hnone
    · rw [hfile] at hdir
      cases hdir

end MadeAbove

theorem makeDirectory_made {above : Text}
    (ha : above = [] ∨ above = ['/'] ∨ Path.Above above path)
    (h : fs.makeDirectory above = .ok made) : MadeAbove path fs made := by
  rcases ha with rfl | rfl | ha
  · cases h
  · rw [makeDirectory_root] at h
    cases h
  · exact .more ha h .nothing

theorem makeLineage_made {paths : List Text}
    (hp : ∀ above ∈ paths, above = [] ∨ above = ['/'] ∨ Path.Above above path) :
    MadeAbove path fs (fs.makeLineage paths).2 := by
  induction paths with
  | nil => exact .nothing
  | cons first paths ih =>
    have hfirst := hp first List.mem_cons_self
    have hrest := ih fun above ha => hp above (List.mem_cons_of_mem _ ha)
    rw [makeLineage]
    split
    · exact .nothing
    · split
      · next made hm => exact makeDirectory_made hfirst hm
      · split
        · next he => rw [he] at hrest; exact hrest
        · next middle he =>
          rw [he] at hrest
          split
          · next made hm => exact hrest.trans (makeDirectory_made hfirst hm)
          · split <;> exact hrest
      · split <;> exact .nothing

/-- Making the parent of a path makes directories above the path only. -/
theorem makeDirectories_made (fs : FileSystem) {parent : Text}
    (hp : Path.parent? path = some parent) : MadeAbove path fs (fs.makeDirectories parent).2 :=
  makeLineage_made fun _ hm => Path.mem_lineage_parent hp hm

end WorkDepot.FileSystem
