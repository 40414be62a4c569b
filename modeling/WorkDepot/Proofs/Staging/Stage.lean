import WorkDepot.Proofs.Placement.Answer
import WorkDepot.Proofs.Staging.Placement
import WorkDepot.Proofs.Text.Hexadecimal
import WorkDepot.Staging.Stage

/-! # Staging as placing

A call of staging asks the oracle once. Where the oracle fails, that is all that happens; where it
answers, the call places the content at the answered path, and says what has become of it.
-/
namespace WorkDepot

namespace Staging

/-- What a call reports when the path is settled. -/
def reported (staged : Staged) : Except StorageFault Placed → Except Error Staged
  | .error fault => .error (.storage fault)
  | .ok .written => .ok { staged with outcome := .created }
  | .ok .identical => .ok { staged with outcome := .alreadyPresent }
  | .ok .conflict => .error (.conflict staged.filename staged.path)

theorem reported_eq_ok {staged found : Staged} {result : Except StorageFault Placed}
    (h : reported staged result = .ok found) :
    result = .ok .written ∧ found = { staged with outcome := .created } ∨
      result = .ok .identical ∧ found = { staged with outcome := .alreadyPresent } := by
  cases result with
  | error fault => cases h
  | ok placed =>
    cases placed with
    | written =>
      cases h
      exact .inl ⟨rfl, rfl⟩
    | identical =>
      cases h
      exact .inr ⟨rfl, rfl⟩
    | conflict => cases h

theorem underscore_mem_filename (label fingerprint : Text) : '_' ∈ filename label fingerprint := by
  simp [filename]

theorem notMem_filename {label fingerprint : Text} {c : Char} (hl : c ∉ label) (hu : c ≠ '_')
    (hf : Text.IsLowerHex fingerprint) (hc : c ∉ Text.hexDigits) :
    c ∉ filename label fingerprint := by
  simp [filename, hl, hu, hf.notMem hc]

theorem filename_plain_of_notMem {label fingerprint : Text} (hl : '/' ∉ label)
    (hf : '/' ∉ fingerprint) : Path.Plain (filename label fingerprint) :=
  .of_mem (by simp [filename, hl, hf]) (underscore_mem_filename _ _) (by decide)

theorem filename_plain {label fingerprint : Text} (hl : '/' ∉ label)
    (hf : Text.IsLowerHex fingerprint) : Path.Plain (filename label fingerprint) :=
  filename_plain_of_notMem hl (hf.notMem (by decide))

/-- A name with a fingerprint at its end does not end in a blank. -/
theorem filename_closed (label : Text) {fingerprint : Text} (h : Text.IsLowerHex fingerprint) :
    ∃ last, (filename label fingerprint).getLast? = some last ∧ Text.isBlankChar last = false := by
  rw [filename, List.getLast?_append_of_ne_nil _ (List.cons_ne_nil _ _), List.getLast?_cons]
  cases hlast : fingerprint.getLast? with
  | none => exact ⟨'_', rfl, by decide +kernel⟩
  | some last => exact ⟨last, rfl, h.not_blank (List.mem_of_getLast? hlast)⟩

/-- Either the content has been read at the path, or it has been written to where the path leads. -/
theorem Settled.read {fs after : FileSystem} {path : Text} {content : Bytes}
    {mode : Mode} {placed : Placed} (h : Settled fs path content mode (.ok placed) after)
    (hp : placed ≠ .conflict) : after.read path = .ok content := by
  cases h with
  | written hv hl =>
    exact FileSystem.read_eq_ok_iff.mpr ⟨_, _, hl, FileSystem.node?_insert_self hv.ne_nil⟩
  | identical hr => exact hr
  | conflict => exact absurd rfl hp

end Staging

namespace Depot
open Staging
variable (depot : Depot) (label : Text) (content : Bytes) (world : World)

@[simp] theorem emit_files (event : Event) : (world.emit event).files = world.files := rfl

@[simp] theorem record_files (outcome : Metrics.Outcome) :
    (depot.record outcome world).files = world.files := by
  rw [record]
  split <;> rfl

/-- The files as the oracle leaves them when it is asked for a name. -/
def filesAsked (filename : Text) : FileSystem := (depot.ask filename world).2.files

theorem ask_isAbsolute {filename path : Text}
    (h : (depot.ask filename world).1 = .ok path) : Path.isAbsolute path := by
  simp only [ask, Except.bind] at h
  split at h
  · cases h
  · exact (Placement.readAnswer_eq_ok h).2.2

theorem resolve_eq (filename : Text) :
    (depot.resolve filename world).1 = (depot.ask filename world).1 ∧
      (depot.resolve filename world).2.files = depot.filesAsked world filename := by
  rw [resolve, filesAsked]
  split <;> next he => simp [he]

theorem store_eq (staged : Staged) :
    (depot.store staged content world).1 = reported staged
        (placeContent depot.disk world.files staged.path content depot.fileMode).1 ∧
      (depot.store staged content world).2.files =
        (placeContent depot.disk world.files staged.path content depot.fileMode).2 := by
  rw [store]
  rcases placeContent depot.disk world.files staged.path content depot.fileMode with ⟨placed, files⟩
  cases placed with
  | error fault => exact ⟨rfl, rfl⟩
  | ok placed => cases placed <;> exact ⟨rfl, rfl⟩

/-- Where the oracle fails, nothing happens but what the oracle does. -/
theorem stage_of_failure {failure : Placement.Failure}
    (h : (depot.ask (depot.filenameOf label content) world).1 = .error failure) :
    (depot.stage label content world).1 = .error (.oracle failure) ∧
      (depot.stage label content world).2.files =
        depot.filesAsked world (depot.filenameOf label content) := by
  obtain ⟨hr, hf⟩ := depot.resolve_eq world (depot.filenameOf label content)
  rw [h] at hr
  simp only [stage, resolveAndStore, record_files]
  rw [filenameOf] at hr hf
  split
  · next failure' after he =>
    rw [he] at hr hf
    cases hr
    exact ⟨rfl, hf⟩
  · next path after he =>
    rw [he] at hr
    cases hr

/-- Where the oracle answers, the content is placed. -/
theorem stage_of_answer {path : Text}
    (h : (depot.ask (depot.filenameOf label content) world).1 = .ok path) :
    let placing := placeContent depot.disk
      (depot.filesAsked world (depot.filenameOf label content)) path content depot.fileMode
    (depot.stage label content world).1 = reported
        ⟨depot.filenameOf label content, depot.fingerprinter.fingerprint content, path, .created⟩
        placing.1 ∧
      (depot.stage label content world).2.files = placing.2 := by
  obtain ⟨hr, hf⟩ := depot.resolve_eq world (depot.filenameOf label content)
  rw [h] at hr
  simp only [stage, resolveAndStore, record_files]
  rw [filenameOf] at hr hf ⊢
  split
  · next failure after he =>
    rw [he] at hr
    cases hr
  · next path' after he =>
    rw [he] at hr hf
    cases hr
    rw [← hf]
    exact depot.store_eq content after _

/-- Staging leaves what is there once the oracle has been asked. -/
theorem filesAsked_le_stage : depot.filesAsked world (depot.filenameOf label content) ≤
    (depot.stage label content world).2.files := by
  cases hask : (depot.ask (depot.filenameOf label content) world).1 with
  | error failure => rw [(depot.stage_of_failure label content world hask).2]
  | ok path =>
    rw [(depot.stage_of_answer label content world hask).2]
    exact placeContent_le _ _ _ _ _

/-- What is staged has its name from its content and its path from the oracle. -/
theorem stage_eq_ok {staged : Staged} (h : (depot.stage label content world).1 = .ok staged) :
    staged.filename = depot.filenameOf label content ∧
      staged.fingerprint = depot.fingerprinter.fingerprint content ∧
      (depot.ask (depot.filenameOf label content) world).1 = .ok staged.path := by
  cases hask : (depot.ask (depot.filenameOf label content) world).1 with
  | error failure =>
    obtain ⟨hr, _⟩ := depot.stage_of_failure label content world hask
    rw [h] at hr
    cases hr
  | ok path =>
    obtain ⟨hr, _⟩ := depot.stage_of_answer label content world hask
    rw [h] at hr
    rcases reported_eq_ok hr.symm with ⟨_, rfl⟩ | ⟨_, rfl⟩ <;> exact ⟨rfl, rfl, rfl⟩

/-- What is staged can be read at its path. -/
theorem stage_read {staged : Staged} (h : (depot.stage label content world).1 = .ok staged) :
    (depot.stage label content world).2.files.read staged.path = .ok content := by
  obtain ⟨_, _, hask⟩ := depot.stage_eq_ok label content world h
  obtain ⟨hr, hf⟩ := depot.stage_of_answer label content world hask
  obtain ⟨middle, _, hs⟩ := placeContent_settled depot.disk
    (depot.filesAsked world (depot.filenameOf label content)) staged.path content depot.fileMode
  rw [hf]
  rw [h] at hr
  rcases reported_eq_ok hr.symm with ⟨he, _⟩ | ⟨he, _⟩
  · rw [he] at hs
    exact hs.read (by decide)
  · rw [he] at hs
    exact hs.read (by decide)

/-- Content that can be read where the oracle says that it belongs is there already. -/
theorem stage_of_read {path : Text} (hdisk : depot.disk = .sound)
    (hask : (depot.ask (depot.filenameOf label content) world).1 = .ok path)
    (hread : (depot.filesAsked world (depot.filenameOf label content)).read path = .ok content) :
    (depot.stage label content world).1 = .ok ⟨depot.filenameOf label content,
        depot.fingerprinter.fingerprint content, path, .alreadyPresent⟩ ∧
      (depot.stage label content world).2.files =
        depot.filesAsked world (depot.filenameOf label content) := by
  obtain ⟨hr, hf⟩ := depot.stage_of_answer label content world hask
  rw [hdisk, placeContent_of_read hread, if_pos rfl] at hr hf
  exact ⟨hr, hf⟩

end Depot
end WorkDepot
