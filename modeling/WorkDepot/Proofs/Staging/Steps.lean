import WorkDepot.Proofs.Staging.Placement

/-! # The steps of placing content

A call that places content goes from one phase to the next, and each of these steps is atomic. On
its own, a call goes through its phases to the result and the files of `placeContent`. Between its
steps other calls may take theirs.
-/
namespace WorkDepot.Staging
open FileSystem

/-- What a call has to place. -/
structure Job where
  path : Text
  content : Bytes
  mode : Mode

/-- Where a call stands. From `opening` on it may have a temporary file. -/
inductive Phase where
  | checking
  | preparing
  | opening (parent : Text)
  | writing (temp : Location) (tempPath : Text)
  | sealing (temp : Location) (tempPath : Text)
  | publishing (temp : Location)
  | dropping (temp : Location)
  | cleaning (temp : Location) (fault : StorageFault)
  | comparing
  | finished (result : Except StorageFault Placed)

/-- One step of a call. A new temporary file gets the name that `pick` has for its directory. -/
def advance (disk : Disk) (pick : Location → Name) (job : Job) (files : FileSystem) :
    Phase → Phase × FileSystem
  | .checking =>
    match disk.try .stat job.path (files.exists? job.path) with
    | .error fault => (.finished (.error fault), files)
    | .ok true => (.comparing, files)
    | .ok false => (.preparing, files)
  | .preparing =>
    match Path.parent? job.path with
    | none =>
      let fault : StorageFault :=
        ⟨.parent, job.path, .other "path has no parent directory".toList⟩
      (.finished (.error fault), files)
    | some parent =>
      match disk.try .createDir parent (.ok ()) with
      | .error fault => (.finished (.error fault), files)
      | .ok () =>
        match files.makeDirectories parent with
        | (.error cause, files) => (.finished (.error ⟨.createDir, parent, cause⟩), files)
        | (.ok (), files) => (.opening parent, files)
  | .opening parent =>
    match disk.try .createTemp parent (tempDirectory files parent) with
    | .error fault => (.finished (.error fault), files)
    | .ok directory =>
      let name := pick directory
      (.writing (name :: directory) (Path.join parent name), files.createTemp (name :: directory))
  | .writing temp tempPath =>
    match disk.try .write tempPath (.ok ()) with
    | .error fault => (.cleaning temp fault, files)
    | .ok () => (.sealing temp tempPath, files.setContent temp job.content)
  | .sealing temp tempPath =>
    match disk.try .sync tempPath (.ok ()), disk.try .chmod tempPath (.ok ()) with
    | .error fault, _ => (.cleaning temp fault, files)
    | .ok (), .error fault => (.cleaning temp fault, files)
    | .ok (), .ok () => (.publishing temp, files.setMode temp job.mode)
  | .publishing temp =>
    match disk.try .persist job.path (files.publish temp job.path) with
    | .ok published => (.finished (.ok .written), published)
    | .error fault =>
      if fault.cause = .alreadyExists then (.dropping temp, files)
      else (.cleaning temp fault, files)
  | .dropping temp => (.comparing, files.erase temp)
  | .cleaning temp fault => (.finished (.error fault), files.erase temp)
  | .comparing => (.finished (compareExisting disk files job.path job.content), files)
  | .finished result => (.finished result, files)

/-! ## A call on its own -/

/-- A step of a call that takes its names as `placeContent` does. -/
def advanceAlone (disk : Disk) (job : Job) (state : Phase × FileSystem) : Phase × FileSystem :=
  advance disk (fun directory => state.2.freshName directory tempName) job state.2 state.1

section
variable {disk : Disk} {job : Job} {fs : FileSystem}

/-- The phase and the files at the end of a call. -/
def finish (outcome : Except StorageFault Placed × FileSystem) : Phase × FileSystem :=
  (.finished outcome.1, outcome.2)

theorem alone_finished (result : Except StorageFault Placed) (count : Nat) :
    (advanceAlone disk job)^[count] (.finished result, fs) = finish (result, fs) := by
  induction count with
  | zero => rfl
  | succ count ih => exact ih

theorem alone_comparing (count : Nat) :
    (advanceAlone disk job)^[count + 1] (.comparing, fs) =
      finish (compareExisting disk fs job.path job.content, fs) :=
  alone_finished _ count

theorem alone_publishing (temp : Location) (count : Nat) :
    (advanceAlone disk job)^[count + 3] (.publishing temp, fs) =
      finish (publishTemp disk fs temp job.path job.content) := by
  rw [Function.iterate_succ_apply, publishTemp]
  simp only [advanceAlone, advance]
  cases disk.try .persist job.path (fs.publish temp job.path) with
  | ok published => exact alone_finished _ _
  | error fault =>
    by_cases hc : fault.cause = .alreadyExists
    · simp only [if_pos hc]
      exact alone_comparing count
    · simp only [if_neg hc]
      exact alone_finished _ _

theorem erase_setContent (temp : Location) (content : Bytes) :
    (fs.setContent temp content).erase temp = fs.erase temp := by
  rw [setContent]
  split
  · apply ext_nodes
    intro place
    simp only [nodes_erase, nodes_insert]
    split <;> rfl
  · rfl

theorem alone_writing (temp : Location) (tempPath : Text) (count : Nat) :
    (advanceAlone disk job)^[count + 5] (.writing temp tempPath, fs) =
      finish (match fillTemp disk fs temp tempPath job.content job.mode with
        | .error fault => (.error fault, fs.erase temp)
        | .ok filled => publishTemp disk filled temp job.path job.content) := by
  rw [Function.iterate_succ_apply, fillTemp]
  simp only [advanceAlone, advance]
  cases disk.try .write tempPath (.ok ()) with
  | error fault => exact alone_finished _ _
  | ok _ =>
    rw [Function.iterate_succ_apply]
    simp only [advanceAlone, advance, bind, Except.bind]
    cases disk.try .sync tempPath (.ok ()) with
    | error fault =>
      rw [← erase_setContent temp job.content]
      exact alone_finished _ _
    | ok _ =>
      cases disk.try .chmod tempPath (.ok ()) with
      | error fault =>
        rw [← erase_setContent temp job.content]
        exact alone_finished _ _
      | ok _ => exact alone_publishing temp count

theorem alone_opening (parent : Text) (count : Nat) :
    (advanceAlone disk job)^[count + 6] (.opening parent, fs) =
      finish (placeNew disk fs parent job.path job.content job.mode) := by
  rw [Function.iterate_succ_apply, placeNew]
  simp only [advanceAlone, advance]
  cases disk.try .createTemp parent (tempDirectory fs parent) with
  | error fault => exact alone_finished _ _
  | ok directory => exact alone_writing _ _ count

variable (disk job fs) in
/-- A call that no other call comes between places its content in at most eight steps. -/
theorem alone_placeContent : (advanceAlone disk job)^[8] (.checking, fs) =
    finish (placeContent disk fs job.path job.content job.mode) := by
  rw [Function.iterate_succ_apply, placeContent]
  simp only [advanceAlone, advance]
  cases disk.try .stat job.path (fs.exists? job.path) with
  | error fault => exact alone_finished _ _
  | ok there =>
    cases there with
    | true => exact alone_comparing _
    | false =>
      rw [Function.iterate_succ_apply]
      simp only [advanceAlone, advance]
      cases Path.parent? job.path with
      | none => exact alone_finished _ _
      | some parent =>
        dsimp only
        cases disk.try .createDir parent (.ok ()) with
        | error fault => exact alone_finished _ _
        | ok _ =>
          rcases fs.makeDirectories parent with ⟨made, after⟩
          cases made with
          | error cause => exact alone_finished _ _
          | ok _ => exact alone_opening parent 0

end

end WorkDepot.Staging
