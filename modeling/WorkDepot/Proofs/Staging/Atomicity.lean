import WorkDepot.Proofs.Staging.Stage

/-! # Atomicity of staging

Whatever the files, the oracle's answer and the disk, a call of staging leaves every file as it was.
It adds one file, complete and with its mode, or none. The directories that it adds stand under
paths above the answered one; and when something was there to compare with, it adds no directory
unless the path goes up somewhere.
-/
namespace WorkDepot.Staging
open FileSystem
variable {before middle after : FileSystem} {path : Text} {content : Bytes} {mode : Mode}
variable {answer : Except Placement.Failure Text} {result : Except Error Staged}
variable {staged : Staged} {placed : Except StorageFault Placed}

/-- What has become of the files `before` when a call ends with `result`. The `answer` is the
oracle's, and the files are those that the oracle has left. -/
structure Atomic (answer : Except Placement.Failure Text) (content : Bytes) (mode : Mode)
    (result : Except Error Staged) (before after : FileSystem) : Prop where
  kept : before ≤ after
  created : ∀ staged, result = .ok staged → staged.outcome = .created →
    ∃ location, newFiles before after = {location} ∧ after.locate staged.path = .ok location ∧
      after.node? location = some (.file content mode)
  uncreated : (∀ staged, result = .ok staged → staged.outcome ≠ .created) →
    newFiles before after = ∅
  named : ∀ location ∈ newDirectories before after, ∃ path above, answer = .ok path ∧
    Path.Above above path ∧ after.locate above = .ok location
  refused : ∀ failure, answer = .error failure →
    result = .error (.oracle failure) ∧ after = before
  read : ∀ staged, result = .ok staged →
    answer = .ok staged.path ∧ after.read staged.path = .ok content
  differs : ∀ filename path, result = .error (.conflict filename path) → answer = .ok path ∧
    ∃ existing location bits, existing ≠ content ∧ after.read path = .ok existing ∧
      after.locate path = .ok location ∧ before.node? location = some (.file existing bits)
  compared : ∀ path, answer = .ok path → .up ∉ Path.steps path →
    (∃ staged, result = .ok staged ∧ staged.outcome = .alreadyPresent) ∨
      (∃ filename path, result = .error (.conflict filename path)) → after = before

theorem atomic_of_failure {failure : Placement.Failure} :
    Atomic (.error failure) content mode (.error (.oracle failure)) before before where
  kept := le_rfl
  created := by rintro staged ⟨⟩
  uncreated _ := newFiles_self
  named := by simp [newDirectories_self]
  refused := by
    rintro _ ⟨⟩
    exact ⟨rfl, rfl⟩
  read := by rintro staged ⟨⟩
  differs := by rintro filename path ⟨⟩
  compared := by rintro path ⟨⟩

/-- A file that is written after directories have been made is the only new one. -/
theorem newFiles_of_written {location : Location} (hm : MadeAbove path before middle)
    (hv : middle.Vacant location) :
    newFiles before (middle.insert location (.file content mode)) = {location} := by
  ext place
  simp only [newFiles, IsFile, node?_insert hv.ne_nil, Set.mem_ofPred_eq, Set.mem_singleton_iff]
  constructor
  · rintro ⟨⟨existing, bits, hn⟩, hnot⟩
    by_contra hne
    rw [if_neg hne] at hn
    exact hnot ⟨existing, bits, hm.node?_eq_of_file hn⟩
  · rintro rfl
    refine ⟨⟨content, mode, if_pos rfl⟩, ?_⟩
    rintro ⟨existing, bits, hn⟩
    have hfree := hv.free
    rw [hm.le _ _ hn] at hfree
    cases hfree

/-- Settling a path adds no directory to those that have been made above it. -/
theorem above_of_newDirectory {location : Location} (hm : MadeAbove path before middle)
    (hs : Settled middle path content mode placed after)
    (hl : location ∈ newDirectories before after) :
    ∃ above, Path.Above above path ∧ after.locate above = .ok location := by
  obtain ⟨hdir, hnew⟩ := hl
  have hmiddle : middle.node? location = some .directory := by
    cases hs with
    | written hv _ =>
      rw [node?_insert hv.ne_nil] at hdir
      split at hdir
      · cases hdir
      · exact hdir
    | identical | conflict | failed => exact hdir
  cases hb : before.node? location with
  | some node =>
    have hn := hm.le _ _ hb
    rw [hmiddle] at hn
    exact absurd (hb.trans hn.symm) hnew
  | none =>
    rcases hm.new_node hb with hnone | ⟨_, above, ha, hlead⟩
    · rw [hmiddle] at hnone
      cases hnone
    · exact ⟨above, ha, locate_mono hs.le hlead⟩

theorem created_of_settled (hm : MadeAbove path before middle)
    (hs : Settled middle path content mode (.ok .written) after) :
    ∃ location, newFiles before after = {location} ∧ after.locate path = .ok location ∧
      after.node? location = some (.file content (permissionBits mode)) := by
  cases hs with
  | @written location hv hlead =>
    exact ⟨location, newFiles_of_written hm hv, hlead, node?_insert_self hv.ne_nil⟩

theorem newFiles_of_settled (hm : MadeAbove path before middle)
    (hs : Settled middle path content mode placed after) (hp : placed ≠ .ok .written) :
    newFiles before after = ∅ := by
  cases hs with
  | written _ _ => exact absurd rfl hp
  | identical | conflict | failed => exact hm.newFiles_eq

theorem differs_of_settled (hm : MadeAbove path before middle)
    (hs : Settled middle path content mode (.ok .conflict) after) :
    ∃ existing location bits, existing ≠ content ∧ after.read path = .ok existing ∧
      after.locate path = .ok location ∧ before.node? location = some (.file existing bits) := by
  cases hs with
  | @conflict existing hr hne =>
    obtain ⟨location, bits, hlead, hn⟩ := read_eq_ok_iff.mp hr
    exact ⟨existing, location, bits, hne, hr, hlead, hm.node?_eq_of_file hn⟩

/-- What is compared has been there before, with all directories on the way. -/
theorem eq_of_compared (ht : before.IsTree) (hu : .up ∉ Path.steps path)
    (hm : MadeAbove path before middle) (hs : Settled middle path content mode placed after)
    (hp : placed = .ok .identical ∨ placed = .ok .conflict) : after = before := by
  cases hs with
  | written _ _ => simp at hp
  | identical hr => exact hm.eq_of_read ht hu hr
  | conflict hr _ => exact hm.eq_of_read ht hu hr
  | failed => simp at hp

theorem reported_eq_conflict {filename place : Text}
    (h : reported staged placed = .error (.conflict filename place)) :
    placed = .ok .conflict ∧ place = staged.path := by
  cases placed with
  | error fault => cases h
  | ok placed =>
    cases placed with
    | written => cases h
    | identical => cases h
    | conflict =>
      cases h
      exact ⟨rfl, rfl⟩

variable (staged) in
theorem atomic_of_settled (hmode : permissionBits mode = mode) (ht : before.IsTree)
    (hm : MadeAbove staged.path before middle)
    (hs : Settled middle staged.path content mode placed after) :
    Atomic (.ok staged.path) content mode (reported staged placed) before after where
  kept := hm.le.trans hs.le
  created := by
    intro found hr hcreated
    rcases reported_eq_ok hr with ⟨rfl, rfl⟩ | ⟨rfl, rfl⟩
    · have hwritten := created_of_settled hm hs
      rw [hmode] at hwritten
      exact hwritten
    · cases hcreated
  uncreated := by
    intro hr
    apply newFiles_of_settled hm hs
    rintro rfl
    exact hr _ rfl rfl
  named := by
    intro location hl
    obtain ⟨above, ha, hlead⟩ := above_of_newDirectory hm hs hl
    exact ⟨staged.path, above, rfl, ha, hlead⟩
  refused := by rintro failure ⟨⟩
  read := by
    intro found hr
    rcases reported_eq_ok hr with ⟨rfl, rfl⟩ | ⟨rfl, rfl⟩
    · exact ⟨rfl, hs.read (by decide)⟩
    · exact ⟨rfl, hs.read (by decide)⟩
  differs := by
    intro filename place hr
    obtain ⟨rfl, rfl⟩ := reported_eq_conflict hr
    exact ⟨rfl, differs_of_settled hm hs⟩
  compared := by
    rintro path ⟨⟩ hu hcompared
    apply eq_of_compared ht hu hm hs
    rcases hcompared with ⟨found, hr, hpresent⟩ | ⟨filename, place, hr⟩
    · rcases reported_eq_ok hr with ⟨rfl, rfl⟩ | ⟨rfl, rfl⟩
      · cases hpresent
      · exact .inl rfl
    · exact .inr (reported_eq_conflict hr).1

theorem permissionBits_of_le (h : mode ≤ 0o7777) : permissionBits mode = mode := by
  have hlt : mode < 0o10000 := Nat.lt_succ_of_le h
  rw [permissionBits, Nat.mod_eq_of_lt hlt]

end WorkDepot.Staging

namespace WorkDepot.Depot
open Staging

/-- Staging is atomic on files, for every disk and every answer of the oracle. -/
theorem stage_atomic (depot : Depot) (label : Text) (content : Bytes) (world : World)
    (hmode : depot.fileMode ≤ 0o7777)
    (htree : (depot.filesAsked world (depot.filenameOf label content)).IsTree) :
    Atomic (depot.ask (depot.filenameOf label content) world).1 content depot.fileMode
      (depot.stage label content world).1
      (depot.filesAsked world (depot.filenameOf label content))
      (depot.stage label content world).2.files := by
  cases hask : (depot.ask (depot.filenameOf label content) world).1 with
  | error failure =>
    obtain ⟨hr, hf⟩ := depot.stage_of_failure label content world hask
    rw [hr, hf]
    exact atomic_of_failure
  | ok path =>
    obtain ⟨hr, hf⟩ := depot.stage_of_answer label content world hask
    rw [hr, hf]
    obtain ⟨middle, hm, hs⟩ := placeContent_settled depot.disk
      (depot.filesAsked world (depot.filenameOf label content)) path content depot.fileMode
    exact atomic_of_settled ⟨_, _, path, _⟩ (permissionBits_of_le hmode) htree hm hs

/-- Where nothing is, one file is all that staging adds. -/
theorem stage_atomic_empty :
    let depot : Depot :=
      { oracle := .fixed "/d/a".toList, fingerprinter := .constant [], tool := .scripted 0 [] }
    let (result, world) := depot.stage "a".toList [7] { files := .empty }
    depot.fileMode ≤ 0o7777 ∧ FileSystem.empty.IsTree ∧
      result = .ok ⟨"a_".toList, [], "/d/a".toList, .created⟩ ∧
      ∃ location, FileSystem.newFiles .empty world.files = {location} ∧
        world.files.locate "/d/a".toList = .ok location ∧
        world.files.node? location = some (.file [7] 0o755) := by
  intro depot
  have hmode : depot.fileMode ≤ 0o7777 := by decide
  have hr : (depot.stage "a".toList [7] { files := .empty }).1 =
      .ok ⟨"a_".toList, [], "/d/a".toList, .created⟩ := by decide +kernel
  have hatomic := stage_atomic depot "a".toList [7] { files := .empty } hmode
    FileSystem.isTree_empty
  exact ⟨hmode, FileSystem.isTree_empty, hr, hatomic.created _ hr rfl⟩

end WorkDepot.Depot
