import WorkDepot.Placement.Oracle
import WorkDepot.Proofs.FileSystem.Walk

/-! # Oracles that are programs

A program that can be run can still be run when more files have come. If what it writes and how it
ends depend on the name alone, it gives the answer to a name for good.
-/
namespace WorkDepot

namespace Helper
variable {machine : Machine} {before after files : FileSystem} {path directory : Text}
variable {arguments : List Text}

/-- How a program ends and what it writes to its output depend on its arguments alone, and it leaves
the files that are there. -/
structure Steady (program : Program) : Prop where
  ending : ∀ directory other arguments files later,
    (program directory arguments files).1.ending = (program other arguments later).1.ending
  written : ∀ directory other arguments files later,
    (program directory arguments files).1.written .out =
      (program other arguments later).1.written .out
  keeps : ∀ directory arguments files, files ≤ (program directory arguments files).2

theorem find_eq_ok_iff {program : Program} : find machine files path = .ok program ↔
    ∃ location content mode, files.locate path = .ok location ∧
      files.node? location = some (.file content mode) ∧ isExecutable mode ∧
      machine location = some program := by
  simp only [find, bind_eq_ok]
  refine exists_congr fun location => ?_
  constructor
  · rintro ⟨hlocate, h⟩
    split at h
    · next content mode hnode =>
      split at h
      · cases h
      · next hexecutable =>
        split at h
        · next program' hprogram =>
          cases h
          exact ⟨content, mode, hlocate, hnode, by simpa using hexecutable, hprogram⟩
        · cases h
    · cases h
  · rintro ⟨content, mode, hlocate, hnode, hmode, hprogram⟩
    refine ⟨hlocate, ?_⟩
    simp [hnode, hmode, hprogram, pure, Except.pure]

theorem find_mono {program : Program} (h : before ≤ after)
    (hf : find machine before path = .ok program) : find machine after path = .ok program := by
  obtain ⟨location, content, mode, hlocate, hnode, hrest⟩ := find_eq_ok_iff.mp hf
  exact find_eq_ok_iff.mpr
    ⟨location, content, mode, FileSystem.locate_mono h hlocate, h _ _ hnode, hrest⟩

/-- Whether a program can be started has to do with the texts that it is given. -/
def Startable (path directory : Text) (arguments : List Text) : Prop :=
  (∀ text ∈ path :: directory :: arguments, '\x00' ∉ text) ∧
    ∀ argument ∈ arguments, Text.byteLength argument < argumentLimit

theorem start_eq_ok_iff {outcome : Run × FileSystem} :
    start machine files path directory arguments = .ok outcome ↔
      Startable path directory arguments ∧ ∃ location program,
        files.locateDirectory directory = .ok location ∧ find machine files path = .ok program ∧
        program location arguments files = outcome := by
  have hnul : ((path :: directory :: arguments).any fun text => '\x00' ∈ text) = false ↔
      ∀ text ∈ path :: directory :: arguments, '\x00' ∉ text := by
    simp [List.any_eq_false]
  have hlong : (arguments.any fun argument => argumentLimit ≤ Text.byteLength argument) = false ↔
      ∀ argument ∈ arguments, Text.byteLength argument < argumentLimit := by
    simp [List.any_eq_false]
  rw [start, Startable, ← hnul, ← hlong]
  cases (path :: directory :: arguments).any fun text => '\x00' ∈ text with
  | true => simp [throw, throwThe, MonadExceptOf.throw, bind, Except.bind]
  | false =>
    cases arguments.any fun argument => argumentLimit ≤ Text.byteLength argument with
    | true => simp [bind_eq_ok, throw, throwThe, MonadExceptOf.throw]
    | false => simp [bind_eq_ok, pure, Except.pure]

/-- A program that has been started can be started again when more files have come. -/
theorem start_later {outcome : Run × FileSystem}
    (hs : start machine before path directory arguments = .ok outcome) :
    ∃ location program, find machine before path = .ok program ∧
      program location arguments before = outcome ∧ ∀ after, before ≤ after →
        start machine after path directory arguments = .ok (program location arguments after) := by
  obtain ⟨hstartable, location, program, hdirectory, hfind, houtcome⟩ := start_eq_ok_iff.mp hs
  refine ⟨location, program, hfind, houtcome, fun after hle => start_eq_ok_iff.mpr ?_⟩
  exact ⟨hstartable, location, program,
    FileSystem.locateDirectory_mono hle hdirectory, find_mono hle hfind, rfl⟩

end Helper

namespace Placement.Oracle
open Helper
variable {machine : Machine} {program projectDir filename : Text} {timeoutMillis : Nat}
variable {files later : FileSystem}

/-- An answer depends on the end of a run and on its output only. -/
theorem ofRun_congr {run other : Run} {answer : Text} (hending : run.ending = other.ending)
    (hwritten : run.written .out = other.written .out)
    (h : ofRun filename timeoutMillis run = .ok answer) :
    ofRun filename timeoutMillis other = .ok answer := by
  rw [ofRun, ← hending, ← hwritten]
  rw [ofRun] at h
  split at h
  · cases h
  · exact h
  · cases h

/-- Once a steady program has answered, it gives the same answer whenever it is asked, and keeps the
files that are there. -/
theorem command_answer_later {earlier since : List Text} {answer : Text}
    (hsteady : ∀ found, find machine files program = .ok found → Steady found)
    (h : ((command machine program projectDir timeoutMillis).ask earlier files filename).answer =
      .ok answer) (hle : files ≤ later) :
    let lookup := (command machine program projectDir timeoutMillis).ask since later filename
    lookup.answer = .ok answer ∧ later ≤ lookup.files := by
  simp only [command] at h
  split at h
  · cases h
  · next run after hstart =>
    obtain ⟨location, found, hfind, hrun, hlater⟩ := start_later hstart
    have hfound := hsteady found hfind
    obtain rfl : (found location [filename] files).1 = run := congrArg Prod.fst hrun
    simp only [command, hlater later hle]
    exact ⟨ofRun_congr (hfound.ending ..) (hfound.written ..) h, hfound.keeps _ _ _⟩

end Placement.Oracle
end WorkDepot
