import WorkDepot.Proofs.Staging.Faults
import WorkDepot.Proofs.Submission.Course

/-! # Names for the tool

The tool finds the command line by its name, which is the last segment of the path where the command
line has been staged. Whatever the path is, the name is that of an entry in a directory: what has
been staged can be read, and a path that can be read does not end in dots. Two faults are kept for
paths without a parent and for paths without a name, and neither is ever reported.
-/
namespace WorkDepot

namespace Path

/-- A file name is one segment, and not one that says to stay or to go up. -/
theorem fileName?_plain {path : Text} {name : Name} (h : fileName? path = some name) :
    Plain name := by
  unfold fileName? at h
  split at h
  · cases h
  · next segment earlier hlast =>
    have hmem : segment ∈ Text.splitAt '/' (body path) := by
      obtain ⟨stays, hstays⟩ := dropStays_suffix (Text.splitAt '/' (body path)).reverse
      rw [← List.mem_reverse, ← hstays, hlast]
      simp
    split at h
    · next found hsegment =>
      cases h
      unfold Step.ofSegment at hsegment
      split at hsegment
      · cases hsegment
      · next hstay =>
        split at hsegment
        · cases hsegment
        · next hup =>
          cases hsegment
          simp only [Bool.or_eq_true, decide_eq_true_eq, not_or] at hstay
          exact ⟨Text.notMem_of_mem_splitAt hmem, hstay.1, hstay.2, hup⟩
    · cases h

end Path

namespace Depot
open Submission
variable {depot : Depot} {request : Request} {world : World} {artifact : Artifact}
variable {cause : Staging.Error}

/-! ## Faults -/

theorem not_judged_staging (answer : Except ToolFailure ToolOutput) :
    ¬ Judged answer (.error (.staging artifact cause)) := by
  intro h
  cases h

/-- What a submission says of an artifact, staging has said. Once the command line is staged it has
a name, and nothing more is said of it. -/
theorem stage_of_submit (h : (depot.submit request world).1 = .error (.staging artifact cause)) :
    ∃ label content moment, (depot.stage label content moment).1 = .error cause := by
  rcases ready_or_failed depot request world with
    hunnamed | ⟨hnamed, ⟨content, failure, seeded, hseed, hstage⟩ |
      ⟨seedPath, seeded, hseed, ⟨failure, moment, hstage⟩ | ⟨cmdlinePath, moment, hready⟩⟩⟩
  · rw [(submit_of_unnamed hunnamed).1] at h
    cases h
  · rw [(submit_of_seedFailed hnamed hseed hstage).1] at h
    cases h
    exact ⟨_, content, world, congrArg Prod.fst hstage⟩
  · rw [(submit_of_cmdlineFailed hnamed hseed hstage).1] at h
    cases h
    exact ⟨_, _, seeded, congrArg Prod.fst hstage⟩
  · obtain ⟨name, _, hjudged, _⟩ := submit_of_ready hready
    rw [h] at hjudged
    exact absurd hjudged (not_judged_staging _)

theorem stage_of_submitParts {appName cmdline : Text} {content : Option Bytes} {path : Option Text}
    (h : (depot.submitParts appName cmdline content path world).1 =
      .error (.staging artifact cause)) :
    ∃ label content moment, (depot.stage label content moment).1 = .error cause := by
  unfold submitParts at h
  split at h
  · exact stage_of_submit h
  · cases h

/-! ## Calls of the tool -/

/-- The tool is called with the name of an entry, in every call but those that were made before. -/
def Named (world after : World) : Prop :=
  ∀ invocation ∈ after.invocations,
    invocation ∈ world.invocations ∨ Path.Plain invocation.cmdlineFile

theorem Named.of_eq {after : World} (h : after.invocations = world.invocations) :
    Named world after := by
  intro invocation hm
  rw [h] at hm
  exact .inl hm

theorem Named.trans {moment after : World} (h : Named world moment) (h' : Named moment after) :
    Named world after := by
  intro invocation hm
  rcases h' invocation hm with hm | hplain
  · exact h invocation hm
  · exact .inr hplain

/-- Once all is ready, the tool is called with the last segment of the command line's path. -/
theorem called_of_ready {seedPath cmdlinePath : Text} {moment : World}
    (h : Ready depot request world seedPath cmdlinePath moment) :
    ∃ invocation, (depot.submit request world).2.invocations = world.invocations ++ [invocation] ∧
      Path.fileName? cmdlinePath = some invocation.cmdlineFile ∧
      Path.Plain invocation.cmdlineFile := by
  obtain ⟨name, hname, _, _, _, hcalls⟩ := submit_of_ready h
  exact ⟨_, hcalls, hname, Path.fileName?_plain hname⟩

theorem submit_named (depot : Depot) (request : Request) (world : World) :
    Named world (depot.submit request world).2 := by
  rcases ready_or_failed depot request world with
    hunnamed | ⟨hnamed, ⟨content, failure, seeded, hseed, hstage⟩ |
      ⟨seedPath, seeded, hseed, ⟨failure, moment, hstage⟩ | ⟨cmdlinePath, moment, hready⟩⟩⟩
  · exact .of_eq (submit_of_unnamed hunnamed).2.invocations
  · have hafter := (submit_of_seedFailed hnamed hseed hstage).2.invocations
    exact .of_eq (hafter.trans (stage_invocations_eq hstage))
  · have hafter := (submit_of_cmdlineFailed hnamed hseed hstage).2.invocations
    exact .of_eq ((hafter.trans (stage_invocations_eq hstage)).trans hseed.invocations)
  · obtain ⟨called, hcalls, _, hplain⟩ := called_of_ready hready
    intro invocation hm
    rw [hcalls, List.mem_append, List.mem_singleton] at hm
    rcases hm with hm | rfl
    · exact .inl hm
    · exact .inr hplain

end Depot

open Depot

/-- What one call adds to the calls of the tool. -/
theorem Turn.take_named (turn : Turn) (world : World) : Named world (turn.take world) := by
  unfold take
  split
  · exact .of_eq (stage_invocations _ world _ _)
  · exact .of_eq (resolve_invocations _ world _)
  · exact .of_eq (resolve_invocations _ world _)
  · exact .of_eq (resolve_invocations _ world _)
  · exact submit_named _ _ world
  · unfold submitParts
    split
    · exact submit_named _ _ world
    · exact .of_eq (conclude_invocations _ world _ _)

/-- What a session adds to the calls of the tool. -/
theorem session_named (turns : List Turn) (world : World) : Named world (session turns world) := by
  induction turns generalizing world with
  | nil => exact .of_eq rfl
  | cons turn turns ih => exact (turn.take_named world).trans (ih (turn.take world))

/-- Whatever session has gone before, staging and submitting never report a path without a parent or
without a name. A submission that has staged what it stages calls the tool; and whatever the oracles
have answered in a session, the tool was given a name with which an entry of a directory can be
called. -/
theorem session_guarded (turns : List Turn) (start : World) :
    let world := session turns start
    (∀ (depot : Depot) label content fault,
        (depot.stage label content world).1 = .error (.storage fault) →
          fault.operation ∉ [Staging.Operation.parent, .basename]) ∧
      (∀ (depot : Depot) request artifact fault,
        (depot.submit request world).1 = .error (.staging artifact (.storage fault)) →
          fault.operation ∉ [Staging.Operation.parent, .basename]) ∧
      (∀ (depot : Depot) appName cmdline content path artifact fault,
        (depot.submitParts appName cmdline content path world).1 =
            .error (.staging artifact (.storage fault)) →
          fault.operation ∉ [Staging.Operation.parent, .basename]) ∧
      (∀ (depot : Depot) request seedPath cmdlinePath moment,
        Ready depot request world seedPath cmdlinePath moment → ∃ invocation,
          (depot.submit request world).2.invocations = world.invocations ++ [invocation] ∧
            Path.fileName? cmdlinePath = some invocation.cmdlineFile ∧
            Path.Plain invocation.cmdlineFile) ∧
      ∀ invocation ∈ world.invocations,
        invocation ∈ start.invocations ∨ Path.Plain invocation.cmdlineFile := by
  intro world
  have hstage (depot : Depot) {label : Text} {content : Bytes} {moment : World}
      {fault : Staging.StorageFault}
      (h : (depot.stage label content moment).1 = .error (.storage fault)) :
      fault.operation ∉ [Staging.Operation.parent, .basename] := by
    obtain ⟨path, _, harose⟩ := stage_arose h
    exact harose.operation_notMem
  refine ⟨?_, ?_, ?_, ?_, session_named turns start⟩
  · intro depot label content fault h
    exact hstage depot h
  · intro depot request artifact fault h
    obtain ⟨label, content, moment, hfailed⟩ := stage_of_submit h
    exact hstage depot hfailed
  · intro depot appName cmdline content path artifact fault h
    obtain ⟨label, content, moment, hfailed⟩ := stage_of_submitParts h
    exact hstage depot hfailed
  · intro depot request seedPath cmdlinePath moment hready
    exact called_of_ready hready

/-- A path that comes to lead somewhere only when its directories are made, and then to a directory,
is found to be one when content is compared with it. -/
example :
    let depot : Depot :=
      { oracle := .fixed "/new/..".toList
        fingerprinter := Digest.Algorithm.sha256.fingerprinter
        tool := .created 7 }
    let fault : Staging.StorageFault := ⟨.read, "/new/..".toList, .isDirectory⟩
    (depot.stage "in".toList [] { files := .empty }).1 = .error (.storage fault) := by
  decide +kernel

end WorkDepot
