import WorkDepot.Proofs.Staging.Stage
import WorkDepot.Submission.Submit

/-! # How a submission may go

A submission ends before it stages anything, at the staging of the seed, at the staging of the
command line, or after one call of the tool. Only the last way adds to the calls of the tool.
-/
namespace WorkDepot.Depot
open Submission
variable {depot : Depot} {request : Request} {world : World}

/-- Where a submission ends once the tool has been called, and with what. -/
def readReply : Except ToolFailure ToolOutput → Step × Except Error Nat
  | .error failure => (.invokeTool, .error (.tool failure))
  | .ok reply =>
    if reply.success then (.parseOutput, readId reply.output)
    else (.invokeTool, .error (.tool (.exited reply.status (Text.decodeLossy reply.output))))

/-- The four ways of a submission. -/
inductive Performed (depot : Depot) (request : Request) (world : World) :
    (Step × Except Error Nat) × World → Prop
  | blank : Text.isBlank request.appName →
      Performed depot request world
        ((.validateRequest, .error (.request .blankApplication)), world)
  | seedFailed {error : Error} {after : World} : ¬ Text.isBlank request.appName →
      depot.stageSeed request.seed world = (.error error, after) →
      Performed depot request world ((.stageSeed, .error error), after)
  | cmdlineFailed {seedPath : Text} {seeded after : World} {error : Error} :
      ¬ Text.isBlank request.appName →
      depot.stageSeed request.seed world = (.ok seedPath, seeded) →
      depot.stageCmdline request.cmdline seeded = (.error error, after) →
      Performed depot request world ((.stageCmdline, .error error), after)
  | called {seedPath : Text} {seeded moment : World} {cmdlineFile : Name} :
      ¬ Text.isBlank request.appName →
      depot.stageSeed request.seed world = (.ok seedPath, seeded) →
      depot.stageCmdline request.cmdline seeded = (.ok cmdlineFile, moment) →
      Performed depot request world
        (readReply (depot.callTool ⟨request.appName, seedPath, cmdlineFile⟩ moment).1,
          (depot.callTool ⟨request.appName, seedPath, cmdlineFile⟩ moment).2)

theorem perform_performed (depot : Depot) (request : Request) (world : World) :
    Performed depot request world (depot.perform request world) := by
  rw [perform]
  split
  · next hblank => exact .blank hblank
  · next hblank =>
    split
    · next hseed => exact .seedFailed hblank hseed
    · next seedPath seeded hseed =>
      split
      · next hcmdline => exact .cmdlineFailed hblank hseed hcmdline
      · next cmdlineFile moment hcmdline =>
        have hcalled := Performed.called hblank hseed hcmdline
        split
        · next hcall =>
          rw [hcall] at hcalled
          exact hcalled
        · next hcall =>
          rw [hcall] at hcalled
          simp only [readReply] at hcalled
          split at hcalled <;> next hsuccess => simpa [hsuccess] using hcalled

theorem stageArtifact_eq_ok {artifact : Artifact} {content : Bytes} {path : Text} {after : World}
    (h : depot.stageArtifact artifact content world = (.ok path, after)) :
    ∃ staged, depot.stage artifact.label content world = (.ok staged, after) ∧
      staged.path = path := by
  rw [stageArtifact] at h
  split at h
  · next staged after' hstage =>
    cases h
    exact ⟨staged, hstage, rfl⟩
  · cases h

theorem stageCmdline_eq_ok {cmdline : Text} {name : Name} {after : World}
    (h : depot.stageCmdline cmdline world = (.ok name, after)) :
    ∃ staged, depot.stage Artifact.cmdline.label (Text.encode cmdline) world =
      (.ok staged, after) ∧ Path.fileName? staged.path = some name := by
  rw [stageCmdline] at h
  split at h
  · cases h
  · next path after' hartifact =>
    obtain ⟨staged, hstage, rfl⟩ := stageArtifact_eq_ok hartifact
    split at h
    · next name' hname =>
      cases h
      exact ⟨staged, hstage, hname⟩
    · cases h

variable (depot world)

/-- What staging an artifact leaves is what staging leaves. -/
theorem stageArtifact_world (artifact : Artifact) (content : Bytes) :
    (depot.stageArtifact artifact content world).2 =
      (depot.stage artifact.label content world).2 := by
  rw [stageArtifact]
  split <;> next he => rw [he]

theorem stageCmdline_world (cmdline : Text) : (depot.stageCmdline cmdline world).2 =
    (depot.stage Artifact.cmdline.label (Text.encode cmdline) world).2 := by
  rw [← stageArtifact_world, stageCmdline]
  split
  · next he => rw [he]
  · next he =>
    rw [he]
    split <;> rfl

/-! ## The calls of the tool so far -/

@[simp] theorem emit_invocations (event : Event) :
    (world.emit event).invocations = world.invocations := rfl

@[simp] theorem record_invocations (outcome : Metrics.Outcome) :
    (depot.record outcome world).invocations = world.invocations := by
  rw [record]
  split <;> rfl

theorem resolve_invocations (filename : Text) :
    (depot.resolve filename world).2.invocations = world.invocations := by
  rw [resolve]
  split <;> next hask =>
    have hinvocations : (depot.ask filename world).2.invocations = world.invocations := rfl
    rw [hask] at hinvocations
    simpa using hinvocations

theorem store_invocations (staged : Staging.Staged) (content : Bytes) :
    (depot.store staged content world).2.invocations = world.invocations := by
  rw [store]
  dsimp only
  split <;> rfl

theorem stage_invocations (label : Text) (content : Bytes) :
    (depot.stage label content world).2.invocations = world.invocations := by
  have hresolve := depot.resolve_invocations world (depot.filenameOf label content)
  rw [filenameOf] at hresolve
  simp only [stage, resolveAndStore, record_invocations]
  split
  · next he =>
    rw [he] at hresolve
    exact hresolve
  · next he =>
    rw [he] at hresolve
    rw [store_invocations]
    exact hresolve

theorem stageSeed_invocations (seed : Seed) :
    (depot.stageSeed seed world).2.invocations = world.invocations := by
  cases seed with
  | inline content =>
    rw [stageSeed, stageArtifact_world]
    exact depot.stage_invocations world _ content
  | staged path => rfl

theorem stageCmdline_invocations (cmdline : Text) :
    (depot.stageCmdline cmdline world).2.invocations = world.invocations := by
  rw [stageCmdline_world]
  exact depot.stage_invocations world _ _

@[simp] theorem conclude_invocations (step : Step) (result : Except Error Nat) :
    (depot.conclude step result world).invocations = world.invocations := by
  cases result <;> simp [conclude]

@[simp] theorem conclude_files (step : Step) (result : Except Error Nat) :
    (depot.conclude step result world).files = world.files := by
  cases result <;> simp [conclude]

end WorkDepot.Depot
