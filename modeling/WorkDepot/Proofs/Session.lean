import WorkDepot.Proofs.Submission.Perform

/-! # Sessions

A session is any run of calls. Each call may be to a depot of its own, so that labels, oracles,
disks and tools may change from one call to the next. As long as oracles and tools keep the files
that are there, so does every call, and so does every session.
-/
namespace WorkDepot
open Submission

inductive Call where
  | stage (label : Text) (content : Bytes)
  | locate (label fingerprint : Text)
  | resolve (filename : Text)
  | downloadPath (filename : Text)
  | submit (request : Request)
  | submitParts (appName cmdline : Text) (content : Option Bytes) (path : Option Text)

/-- A call with the depot that it is made to. -/
structure Turn where
  depot : Depot
  call : Call

def Turn.take (turn : Turn) (world : World) : World :=
  match turn.call with
  | .stage label content => (turn.depot.stage label content world).2
  | .locate label fingerprint => (turn.depot.locate label fingerprint world).2
  | .resolve filename => (turn.depot.resolve filename world).2
  | .downloadPath filename => (turn.depot.downloadPath filename world).2
  | .submit request => (turn.depot.submit request world).2
  | .submitParts appName cmdline content path =>
    (turn.depot.submitParts appName cmdline content path world).2

/-- The world after a session. -/
def session (turns : List Turn) (world : World) : World :=
  turns.foldl (fun world turn => turn.take world) world

theorem session_append (first second : List Turn) (world : World) :
    session (first ++ second) world = session second (session first world) :=
  List.foldl_append

namespace Depot

/-- Whatever they are asked, the oracle and the tool leave alone what is there. -/
structure KeepsFiles (depot : Depot) : Prop where
  oracle : ∀ earlier files filename, files ≤ (depot.oracle.ask earlier files filename).files
  tool : ∀ earlier files invocation, files ≤ (depot.tool.call earlier files invocation).files

section
variable {depot : Depot} (hk : depot.KeepsFiles) (world : World)
include hk

theorem filesAsked_le (filename : Text) : world.files ≤ depot.filesAsked world filename :=
  hk.oracle world.lookups world.files filename

theorem resolve_le (filename : Text) : world.files ≤ (depot.resolve filename world).2.files := by
  rw [(depot.resolve_eq world filename).2]
  exact filesAsked_le hk world filename

theorem stage_le (label : Text) (content : Bytes) :
    world.files ≤ (depot.stage label content world).2.files :=
  (filesAsked_le hk world _).trans (depot.filesAsked_le_stage label content world)

theorem stageSeed_le (seed : Seed) : world.files ≤ (depot.stageSeed seed world).2.files := by
  cases seed with
  | inline content =>
    rw [stageSeed, stageArtifact_world]
    exact stage_le hk world _ content
  | staged path => exact le_rfl

theorem stageCmdline_le (cmdline : Text) :
    world.files ≤ (depot.stageCmdline cmdline world).2.files := by
  rw [stageCmdline_world]
  exact stage_le hk world _ _

theorem callTool_le (invocation : Invocation) :
    world.files ≤ (depot.callTool invocation world).2.files :=
  hk.tool world.invocations world.files invocation

theorem perform_le (request : Request) : world.files ≤ (depot.perform request world).2.files := by
  have hseed := stageSeed_le hk world request.seed
  have hperformed := depot.perform_performed request world
  generalize depot.perform request world = ending at hperformed ⊢
  cases hperformed with
  | blank _ => exact le_rfl
  | seedFailed _ he =>
    rw [he] at hseed
    exact hseed
  | @cmdlineFailed seedPath seeded after error _ he he' =>
    have hcmdline := stageCmdline_le hk seeded request.cmdline
    rw [he] at hseed
    rw [he'] at hcmdline
    exact hseed.trans hcmdline
  | @called seedPath seeded moment cmdlineFile _ he he' =>
    have hcmdline := stageCmdline_le hk seeded request.cmdline
    rw [he] at hseed
    rw [he'] at hcmdline
    exact (hseed.trans hcmdline).trans (callTool_le hk moment _)

theorem submit_le (request : Request) : world.files ≤ (depot.submit request world).2.files := by
  simp only [submit, conclude_files]
  exact perform_le hk world request

end

end Depot

/-- What one call keeps. -/
theorem Turn.take_le {turn : Turn} (hk : turn.depot.KeepsFiles) (world : World) :
    world.files ≤ (turn.take world).files := by
  rw [take]
  split
  · next label content _ => exact Depot.stage_le hk world label content
  · next label fingerprint _ => exact Depot.resolve_le hk world _
  · next filename _ => exact Depot.resolve_le hk world filename
  · next filename _ => exact Depot.resolve_le hk world filename
  · next request _ => exact Depot.submit_le hk world request
  · rw [Depot.submitParts]
    split
    · exact Depot.submit_le hk world _
    · rw [Depot.conclude_files]

/-- What a whole session keeps. -/
theorem session_le {turns : List Turn} (hk : ∀ turn ∈ turns, turn.depot.KeepsFiles)
    (world : World) : world.files ≤ (session turns world).files := by
  induction turns generalizing world with
  | nil => exact le_rfl
  | cons turn turns ih =>
    have hturn := Turn.take_le (hk turn List.mem_cons_self) world
    have hrest := ih (fun later hl => hk later (List.mem_cons_of_mem turn hl)) (turn.take world)
    exact hturn.trans hrest

end WorkDepot
