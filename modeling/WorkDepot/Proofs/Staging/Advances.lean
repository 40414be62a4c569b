import WorkDepot.Proofs.Staging.Steps

/-! # What one step of placing content can do

Whatever the disk and the files, a step is of one of the kinds of `Advances`, and what it does to
the nodes follows from its kind. It keeps what is there but for the call's own temporary file, and
what it adds is a directory above the path, an empty temporary file, or the whole content at the
path.
-/
namespace WorkDepot.Staging
open FileSystem

def Phase.temp? : Phase → Option Location
  | .writing temp _ | .sealing temp _ | .publishing temp | .dropping temp | .cleaning temp _ =>
    some temp
  | _ => none

/-- All that a step can do to the phase of a call and to the files. -/
inductive Advances (pick : Location → Name) (job : Job) (files : FileSystem) :
    Phase → Phase → FileSystem → Prop
  | looked {next : Phase} : next = .comparing ∨ next = .preparing →
      Advances pick job files .checking next files
  | prepared {next : Phase} {after : FileSystem} : MadeAbove job.path files after →
      (∃ parent, next = .opening parent) ∨ (∃ fault, next = .finished (.error fault)) →
      Advances pick job files .preparing next after
  | opened {parent tempPath : Text} {directory : Location} :
      Advances pick job files (.opening parent) (.writing (pick directory :: directory) tempPath)
        (files.createTemp (pick directory :: directory))
  | written {temp : Location} {tempPath : Text} :
      Advances pick job files (.writing temp tempPath) (.sealing temp tempPath)
        (files.setContent temp job.content)
  | sealed {temp : Location} {tempPath : Text} :
      Advances pick job files (.sealing temp tempPath) (.publishing temp)
        (files.setMode temp job.mode)
  | published {temp : Location} {after : FileSystem} : files.publish temp job.path = .ok after →
      Advances pick job files (.publishing temp) (.finished (.ok .written)) after
  | taken {temp : Location} : Advances pick job files (.publishing temp) (.dropping temp) files
  | broken {phase : Phase} {temp : Location} {fault : StorageFault} : phase.temp? = some temp →
      Advances pick job files phase (.cleaning temp fault) files
  | dropped {temp : Location} :
      Advances pick job files (.dropping temp) .comparing (files.erase temp)
  | cleaned {temp : Location} {fault : StorageFault} :
      Advances pick job files (.cleaning temp fault) (.finished (.error fault)) (files.erase temp)
  | compared {existing : Bytes} : files.read job.path = .ok existing →
      Advances pick job files .comparing
        (.finished (.ok (if existing = job.content then .identical else .conflict))) files
  | stopped {phase : Phase} {fault : StorageFault} : phase.temp? = none →
      (∀ result, phase ≠ .finished result) →
      Advances pick job files phase (.finished (.error fault)) files
  | rested {result : Except StorageFault Placed} :
      Advances pick job files (.finished result) (.finished result) files

theorem advance_advances (disk : Disk) (pick : Location → Name) (job : Job) (files : FileSystem)
    (phase : Phase) :
    Advances pick job files phase (advance disk pick job files phase).1
      (advance disk pick job files phase).2 := by
  cases phase with
  | checking =>
    rw [advance]
    split
    · exact .stopped rfl (fun _ he => by cases he)
    · exact .looked (.inl rfl)
    · exact .looked (.inr rfl)
  | preparing =>
    rw [advance]
    split
    · exact .stopped rfl (fun _ he => by cases he)
    · next parent hp =>
      have hmade := makeDirectories_made files hp
      split
      · exact .stopped rfl (fun _ he => by cases he)
      · split <;> next he =>
          rw [he] at hmade
          exact .prepared hmade (by simp)
  | opening parent =>
    rw [advance]
    split
    · exact .stopped rfl (fun _ he => by cases he)
    · exact .opened
  | writing temp tempPath =>
    rw [advance]
    split
    · exact .broken rfl
    · exact .written
  | sealing temp tempPath =>
    rw [advance]
    split
    · exact .broken rfl
    · exact .broken rfl
    · exact .sealed
  | publishing temp =>
    rw [advance]
    split
    · next published hp =>
      exact .published (try_eq_ok.mp hp).2
    · split
      · exact .taken
      · exact .broken rfl
  | dropping temp => exact .dropped
  | cleaning temp fault => exact .cleaned
  | comparing =>
    rw [advance, compareExisting]
    cases hr : disk.try .read job.path (files.read job.path) with
    | error fault => exact .stopped rfl (fun _ he => by cases he)
    | ok existing => exact .compared (try_eq_ok.mp hr).2
  | finished result => exact .rested

/-- What is in the temporary file of a call at a given phase. -/
def Phase.Filled (job : Job) : Phase → Bytes → Mode → Prop
  | .sealing _ _, content, _ => content = job.content
  | .publishing _, content, mode => content = job.content ∧ mode = permissionBits job.mode
  | _, _, _ => True

/-- The temporary file of a call is there, as far as the call has got with it. -/
def Held (job : Job) (files : FileSystem) (phase : Phase) : Prop :=
  ∀ temp, phase.temp? = some temp →
    ∃ content mode, files.node? temp = some (.file content mode) ∧ phase.Filled job content mode

namespace Advances
variable {pick : Location → Name} {job : Job} {files after : FileSystem} {phase next : Phase}
variable {location temp : Location} {node : Node}

theorem finished (h : Advances pick job files phase next after)
    {result : Except StorageFault Placed} (hp : phase = .finished result) :
    next = .finished result ∧ after = files := by
  cases h with
  | rested => exact ⟨hp, rfl⟩
  | broken ht =>
    rw [hp] at ht
    cases ht
  | stopped _ hf => exact absurd hp (hf _)
  | _ => cases hp

/-- A call changes nothing that is there but its temporary file. -/
theorem kept (h : Advances pick job files phase next after)
    (hpick : ∀ directory, files.node? (pick directory :: directory) = none)
    (hn : files.node? location = some node) (ht : phase.temp? ≠ some location) :
    after.node? location = some node := by
  have hne : ∀ temp, phase.temp? = some temp → location ≠ temp := by
    rintro temp hs rfl
    exact ht hs
  cases h with
  | looked _ | taken | broken _ | compared _ | stopped _ _ | rested => exact hn
  | prepared hm _ => exact hm.le _ _ hn
  | opened => exact le_insert (hpick _) _ _ hn
  | written => exact (node?_setContent_of_ne _ (hne _ rfl)).trans hn
  | sealed => exact (node?_setMode_of_ne _ (hne _ rfl)).trans hn
  | dropped => exact (node?_erase_of_ne (hne _ rfl)).trans hn
  | cleaned => exact (node?_erase_of_ne (hne _ rfl)).trans hn
  | published hp =>
    obtain ⟨slot, moved, _, hv, _, _, rfl⟩ := publish_cases hp
    have hslot : location ≠ slot.location := by
      rintro rfl
      rw [hv.free] at hn
      cases hn
    rw [node?_insert_of_ne hslot, node?_erase_of_ne (hne _ rfl)]
    exact hn

/-- A temporary file is the one that the call has had, or one with a name of its own. -/
theorem temp_cases (h : Advances pick job files phase next after)
    (ht : next.temp? = some temp) :
    phase.temp? = some temp ∨ ∃ directory, temp = pick directory :: directory := by
  cases h with
  | opened =>
    cases ht
    exact .inr ⟨_, rfl⟩
  | written | sealed | taken =>
    cases ht
    exact .inl rfl
  | broken hp =>
    cases ht
    exact .inl hp
  | looked hnext => rcases hnext with rfl | rfl <;> cases ht
  | prepared _ hnext => rcases hnext with ⟨parent, rfl⟩ | ⟨fault, rfl⟩ <;> cases ht
  | published _ | dropped | cleaned | compared _ | stopped _ _ | rested => cases ht

/-- The temporary file gets on as the call does. -/
theorem held (h : Advances pick job files phase next after) (hh : Held job files phase)
    (hpick : ∀ directory, files.node? (pick directory :: directory) = none) :
    Held job after next := by
  intro temp ht
  cases h with
  | opened =>
    cases ht
    exact ⟨[], privateMode, node?_insert_self (ne_nil_of_node?_eq_none (hpick _)), trivial⟩
  | written =>
    cases ht
    obtain ⟨content, mode, hn, _⟩ := hh temp rfl
    have hroot : temp ≠ [] := by
      rintro rfl
      cases hn
    refine ⟨job.content, mode, ?_, rfl⟩
    rw [setContent, hn]
    exact node?_insert_self hroot
  | sealed =>
    cases ht
    obtain ⟨content, mode, hn, rfl⟩ := hh temp rfl
    have hroot : temp ≠ [] := by
      rintro rfl
      cases hn
    refine ⟨job.content, permissionBits job.mode, ?_, rfl, rfl⟩
    rw [FileSystem.setMode, hn]
    exact node?_insert_self hroot
  | taken =>
    cases ht
    obtain ⟨content, mode, hn, _⟩ := hh temp rfl
    exact ⟨content, mode, hn, trivial⟩
  | broken hp =>
    cases ht
    obtain ⟨content, mode, hn, _⟩ := hh temp hp
    exact ⟨content, mode, hn, trivial⟩
  | looked hnext => rcases hnext with rfl | rfl <;> cases ht
  | prepared _ hnext => rcases hnext with ⟨parent, rfl⟩ | ⟨fault, rfl⟩ <;> cases ht
  | published _ | dropped | cleaned | compared _ | stopped _ _ | rested => cases ht

/-- What is there anew after a step: a directory above the path, the temporary file, or the content
at the path with its mode. -/
theorem born (h : Advances pick job files phase next after) (hf : files.LinkFree)
    (hh : Held job files phase) (hn : files.node? location = none)
    (hn' : after.node? location = some node) :
    (node = .directory ∧ ∃ above, Path.Above above job.path ∧ place above = location) ∨
      (node = .file [] privateMode ∧ next.temp? = some location ∧
        ∃ directory, location = pick directory :: directory) ∨
      (node = .file job.content (permissionBits job.mode) ∧ location = place job.path ∧
        next = .finished (.ok .written)) := by
  have hsame : after.node? location = files.node? location → False := by
    rw [hn, hn']
    rintro ⟨⟩
  have hne : ∀ temp, phase.temp? = some temp → location ≠ temp := by
    rintro temp ht rfl
    obtain ⟨content, mode, hheld, _⟩ := hh location ht
    rw [hn] at hheld
    cases hheld
  cases h with
  | looked _ | taken | broken _ | compared _ | stopped _ _ | rested => exact (hsame rfl).elim
  | prepared hm _ =>
    rcases hm.new_node hn with hnone | ⟨hdir, above, ha, hlead⟩
    · rw [hn'] at hnone
      cases hnone
    · rw [hn'] at hdir
      cases hdir
      exact .inl ⟨rfl, above, ha, (locate_eq_place (hm.linkFree hf) hlead).symm⟩
  | @opened parent tempPath directory =>
    by_cases he : location = pick directory :: directory
    · subst he
      rw [createTemp, node?_insert_self (List.cons_ne_nil _ _)] at hn'
      cases hn'
      exact .inr (.inl ⟨rfl, rfl, directory, rfl⟩)
    · exact (hsame (node?_insert_of_ne he)).elim
  | written => exact (hsame (node?_setContent_of_ne _ (hne _ rfl))).elim
  | sealed => exact (hsame (node?_setMode_of_ne _ (hne _ rfl))).elim
  | dropped => exact (hsame (node?_erase_of_ne (hne _ rfl))).elim
  | cleaned => exact (hsame (node?_erase_of_ne (hne _ rfl))).elim
  | @published temp _ hp =>
    obtain ⟨slot, moved, hslot, hv, _, hmoved, rfl⟩ := publish_cases hp
    by_cases he : location = slot.location
    · subst he
      obtain ⟨content, mode, hheld, rfl, rfl⟩ := hh temp rfl
      rw [hmoved] at hheld
      cases hheld
      rw [node?_insert_self hv.ne_nil] at hn'
      cases hn'
      exact .inr (.inr ⟨rfl, slot_location_eq_place hf hslot, rfl⟩)
    · apply (hsame _).elim
      rw [node?_insert_of_ne he, node?_erase_of_ne (hne _ rfl)]

/-- A temporary file that the call no longer has is not there any more. -/
theorem gone (h : Advances pick job files phase next after) (hh : Held job files phase)
    (ht : phase.temp? = some temp) (ht' : next.temp? ≠ some temp) : after.node? temp = none := by
  obtain ⟨content, mode, hn, _⟩ := hh temp ht
  have hroot : temp ≠ [] := by
    rintro rfl
    cases hn
  cases h with
  | written | sealed | taken => exact absurd ht ht'
  | broken hp =>
    rw [hp] at ht
    exact absurd ht ht'
  | dropped | cleaned =>
    cases ht
    rw [node?_erase hroot, if_pos rfl]
  | published hp =>
    cases ht
    obtain ⟨slot, moved, _, hv, _, _, rfl⟩ := publish_cases hp
    have hslot : temp ≠ slot.location := by
      rintro rfl
      rw [hv.free] at hn
      cases hn
    rw [node?_insert_of_ne hslot, node?_erase hroot, if_pos rfl]
  | stopped hp _ =>
    rw [hp] at ht
    cases ht
  | looked _ | prepared _ _ | opened | compared _ | rested => cases ht

theorem linkFree (h : Advances pick job files phase next after) (hf : files.LinkFree)
    (hh : Held job files phase)
    (hpick : ∀ directory, files.node? (pick directory :: directory) = none) : after.LinkFree := by
  intro location target hl
  cases hn : files.node? location with
  | none =>
    rcases h.born hf hh hn hl with ⟨he, _⟩ | ⟨he, _⟩ | ⟨he, _⟩ <;> cases he
  | some node =>
    by_cases ht : phase.temp? = some location
    · by_cases ht' : next.temp? = some location
      · obtain ⟨content, mode, hheld, _⟩ := h.held hh hpick location ht'
        rw [hl] at hheld
        cases hheld
      · rw [h.gone hh ht ht'] at hl
        cases hl
    · rw [h.kept hpick hn ht] at hl
      cases hl
      exact hf location target hn

/-- A call that has written its content has found nothing at the path, and left the content there;
a call that has compared has found a file. -/
theorem result (h : Advances pick job files phase next after) (hf : files.LinkFree)
    (hh : Held job files phase) {placed : Placed} (hp : ∀ result, phase ≠ .finished result)
    (hnext : next = .finished (.ok placed)) :
    (placed = .written ∧ files.node? (place job.path) = none ∧
        after.node? (place job.path) = some (.file job.content (permissionBits job.mode))) ∨
      ∃ existing bits, files.node? (place job.path) = some (.file existing bits) ∧ after = files ∧
        placed = if existing = job.content then .identical else .conflict := by
  cases h with
  | published hpublish =>
    cases hnext
    obtain ⟨slot, moved, hslot, hv, _, hmoved, rfl⟩ := publish_cases hpublish
    obtain ⟨content, mode, hheld, rfl, rfl⟩ := hh _ rfl
    rw [hmoved] at hheld
    cases hheld
    rw [← slot_location_eq_place hf hslot]
    exact .inl ⟨rfl, hv.free, node?_insert_self hv.ne_nil⟩
  | compared hread =>
    cases hnext
    obtain ⟨location, bits, hlead, hn⟩ := read_eq_ok_iff.mp hread
    rw [locate_eq_place hf hlead] at hn
    exact .inr ⟨_, bits, hn, rfl, rfl⟩
  | rested => exact absurd rfl (hp _)
  | looked he => rcases he with rfl | rfl <;> cases hnext
  | prepared _ he => rcases he with ⟨parent, rfl⟩ | ⟨fault, rfl⟩ <;> cases hnext
  | _ => cases hnext

end Advances

end WorkDepot.Staging
