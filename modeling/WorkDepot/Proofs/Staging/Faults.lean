import WorkDepot.Proofs.FileSystem.Making
import WorkDepot.Proofs.FileSystem.Named
import WorkDepot.Proofs.Staging.Stage

/-! # Where placing content fails

Each fault of placing content says at which step and at which path it arose: at the path itself, at
the directory above it, or at the temporary file in that directory. A path that has no directory
above it says to stay at the root, which is there whatever else there is, so that content is never
placed at such a path, and the fault which is kept for it does not arise.
-/
namespace WorkDepot

namespace FileSystem
variable {fs : FileSystem} {path : Text}

/-- A path without a parent is never found missing. -/
theorem exists?_of_parent?_eq_none (fs : FileSystem) (ha : Path.isAbsolute path)
    (h : Path.parent? path = none) : fs.exists? path ≠ .ok false := by
  cases hcheck : checkPath path with
  | ok _ =>
    obtain ⟨count, hsteps⟩ := Path.steps_of_parent?_eq_none ha h
    have hwalks : fs.Walks linkLimit [] (Path.steps path) [] linkLimit := by
      rw [hsteps]
      exact Walks.stays node?_root count
    have hlocate : fs.locate path = .ok [] := locate_eq_ok_iff.mpr ⟨hcheck, linkLimit, hwalks⟩
    rw [exists?_of_locate hlocate]
    simp
  | error fault =>
    have hne : path ≠ [] := by
      rintro rfl
      cases ha
    have hlocate : fs.locate path = .error fault := by
      simp [locate, hcheck, bind, Except.bind]
    have hfault : fault ≠ .notFound := by
      rintro rfl
      exact checkPath_ne_notFound hne hcheck
    unfold exists?
    rw [hlocate]
    intro hmissing
    split at hmissing
    · cases hmissing
    · next he =>
      cases he
      exact hfault rfl
    · cases hmissing

end FileSystem

namespace Staging
open FileSystem
variable {disk : Disk} {fs : FileSystem} {path tempPath : Text} {content : Bytes} {mode : Mode}
variable {fault : StorageFault}

/-- The fault arose at one of the steps of placing content at the path. -/
inductive Arose (path : Text) : StorageFault → Prop
  | there {operation : Operation} {cause : IoFault} : operation ∈ [.stat, .persist, .read] →
      Arose path ⟨operation, path, cause⟩
  | above {operation : Operation} {parent : Text} {cause : IoFault} :
      Path.parent? path = some parent → operation ∈ [.createDir, .createTemp] →
      Arose path ⟨operation, parent, cause⟩
  | temporary {operation : Operation} {parent : Text} {number : Nat} {cause : IoFault} :
      Path.parent? path = some parent → operation ∈ [.write, .sync, .chmod] →
      Arose path ⟨operation, Path.join parent (tempName number), cause⟩

theorem Arose.operation_notMem (h : Arose path fault) :
    fault.operation ∉ [Operation.parent, .basename] := by
  intro hguard
  cases h with
  | there ho | above _ ho | temporary _ ho =>
    simp only [List.mem_cons, List.not_mem_nil, or_false] at ho hguard
    rcases hguard with rfl | rfl <;> simp at ho

theorem try_eq_error {α : Type} {operation : Operation} {result : Except IoFault α}
    (h : disk.try operation path result = .error fault) :
    ∃ cause, fault = ⟨operation, path, cause⟩ := by
  unfold Disk.try at h
  split at h
  · next cause _ =>
    cases h
    exact ⟨cause, rfl⟩
  · cases result with
    | error cause =>
      cases h
      exact ⟨cause, rfl⟩
    | ok value => cases h

/-- The first of two steps to fail gives the fault. -/
theorem bind_eq_error {ε α β : Type} {first : Except ε α} {next : α → Except ε β} {cause : ε}
    (h : first >>= next = .error cause) :
    first = .error cause ∨ ∃ value, first = .ok value ∧ next value = .error cause := by
  cases first with
  | error other =>
    cases h
    exact .inl rfl
  | ok value => exact .inr ⟨value, rfl, h⟩

theorem compareExisting_arose (h : compareExisting disk fs path content = .error fault) :
    Arose path fault := by
  unfold compareExisting at h
  rcases bind_eq_error h with hread | ⟨existing, _, hdone⟩
  · obtain ⟨cause, rfl⟩ := try_eq_error hread
    exact .there (by decide)
  · cases hdone

theorem fillTemp_fault {temp : Location}
    (h : fillTemp disk fs temp tempPath content mode = .error fault) :
    ∃ operation ∈ [Operation.write, .sync, .chmod], ∃ cause,
      fault = ⟨operation, tempPath, cause⟩ := by
  unfold fillTemp at h
  rcases bind_eq_error h with hwrite | ⟨_, _, h⟩
  · exact ⟨.write, by decide, try_eq_error hwrite⟩
  rcases bind_eq_error h with hsync | ⟨_, _, h⟩
  · exact ⟨.sync, by decide, try_eq_error hsync⟩
  rcases bind_eq_error h with hchmod | ⟨_, _, h⟩
  · exact ⟨.chmod, by decide, try_eq_error hchmod⟩
  cases h

theorem publishTemp_arose {temp : Location}
    (h : (publishTemp disk fs temp path content).1 = .error fault) : Arose path fault := by
  unfold publishTemp at h
  split at h
  · cases h
  · next hpersist =>
    dsimp only at h
    split at h
    · exact compareExisting_arose h
    · cases h
      obtain ⟨cause, rfl⟩ := try_eq_error hpersist
      exact .there (by decide)

theorem placeNew_arose {parent : Text} (hparent : Path.parent? path = some parent)
    (h : (placeNew disk fs parent path content mode).1 = .error fault) : Arose path fault := by
  unfold placeNew at h
  split at h
  · next htemp =>
    cases h
    obtain ⟨cause, rfl⟩ := try_eq_error htemp
    exact .above hparent (by decide)
  · next directory _ =>
    dsimp only at h
    split at h
    · next hfill =>
      cases h
      obtain ⟨operation, ho, cause, rfl⟩ := fillTemp_fault hfill
      exact .temporary hparent ho
    · exact publishTemp_arose h

theorem placeContent_arose (ha : Path.isAbsolute path)
    (h : (placeContent disk fs path content mode).1 = .error fault) : Arose path fault := by
  unfold placeContent at h
  split at h
  · next hstat =>
    cases h
    obtain ⟨cause, rfl⟩ := try_eq_error hstat
    exact .there (by decide)
  · exact compareExisting_arose h
  · next hstat =>
    obtain ⟨_, hmissing⟩ := try_eq_ok.mp hstat
    split at h
    · next hparent => exact absurd hmissing (exists?_of_parent?_eq_none fs ha hparent)
    · next parent hparent =>
      split at h
      · next hdisk =>
        cases h
        obtain ⟨cause, rfl⟩ := try_eq_error hdisk
        exact .above hparent (by decide)
      · split at h
        · cases h
          exact .above hparent (by decide)
        · exact placeNew_arose hparent h

theorem reported_eq_storage {staged : Staged} {result : Except StorageFault Placed}
    (h : reported staged result = .error (.storage fault)) : result = .error fault := by
  cases result with
  | error found =>
    cases h
    rfl
  | ok placed => cases placed <;> cases h

end Staging

namespace Depot
open Staging
variable {depot : Depot} {label : Text} {content : Bytes} {world : World} {fault : StorageFault}

/-- A storage fault of staging arose where the oracle said that the content belongs. -/
theorem stage_arose (h : (depot.stage label content world).1 = .error (.storage fault)) :
    ∃ path, (depot.ask (depot.filenameOf label content) world).1 = .ok path ∧ Arose path fault := by
  cases hask : (depot.ask (depot.filenameOf label content) world).1 with
  | error failure =>
    rw [(depot.stage_of_failure label content world hask).1] at h
    cases h
  | ok path =>
    refine ⟨path, rfl, ?_⟩
    rw [(depot.stage_of_answer label content world hask).1] at h
    exact placeContent_arose (depot.ask_isAbsolute world hask) (reported_eq_storage h)

end Depot
end WorkDepot
