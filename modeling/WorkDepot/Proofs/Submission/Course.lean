import WorkDepot.Proofs.FileSystem.Named
import WorkDepot.Proofs.Submission.Handover
import WorkDepot.Proofs.Submission.Refusal
import WorkDepot.Proofs.Text.Utf8

/-! # The course of a submission

A submission checks the application, stages the seed unless it has been staged, stages the command
line, calls the tool and reads its output. The first of these steps to fail decides the result, and
no later step is taken. What has been staged can be read at its path, which therefore has a file
name, so that nothing can go wrong between the staging of the command line and the call of the tool.
-/
namespace WorkDepot.Depot
open Submission

section
variable (depot : Depot)

/-- The seed of a request is staged now, or has been staged before and is given by its path. -/
inductive SeedAt (world : World) : Seed → (path : Text) → (seeded : World) → Prop
  | staged {content : Bytes} {staged : Staging.Staged} {seeded : World} :
      depot.stage "input".toList content world = (.ok staged, seeded) →
      SeedAt world (.inline content) staged.path seeded
  | given {path : Text} : SeedAt world (.staged path) path world

/-- The application is named, and at this moment the seed and the command line are at these
paths. -/
structure Ready (request : Request) (world : World) (seedPath cmdlinePath : Text)
    (moment : World) : Prop where
  named : Text.trim request.appName ≠ []
  staged : ∃ seeded cmdline, SeedAt depot world request.seed seedPath seeded ∧
    depot.stage "cmdline".toList (Text.encode request.cmdline) seeded = (.ok cmdline, moment) ∧
    cmdline.path = cmdlinePath

/-- What the answer of the tool makes of a submission. -/
inductive Judged : Except ToolFailure ToolOutput → Except Error Nat → Prop
  | failed {failure : ToolFailure} : Judged (.error failure) (.error (.tool failure))
  | exited {reply : ToolOutput} : reply.success = false →
      Judged (.ok reply)
        (.error (.tool (.exited reply.status (Text.decodeLossy reply.output))))
  | created {reply : ToolOutput} {id : Nat} : reply.success = true →
      IdLine.read reply.output = .ok id → Judged (.ok reply) (.ok id)
  | unreported {reply : ToolOutput} {violation : Violation} : reply.success = true →
      IdLine.read reply.output = .error violation →
      Judged (.ok reply) (.error (.protocol (Text.decodeLossy reply.output) violation))

/-- The result of a submission is that of the first step to fail, and the tool is called when all
steps before the call have succeeded, and then once. -/
structure Course (request : Request) (world : World) (result : Except Error Nat)
    (after : World) : Prop where
  unnamed : Text.trim request.appName = [] →
    (∃ fault, result = .error (.request fault) ∧ fault.field = "app_name".toList) ∧
      world.Untouched after
  seedFailed : ∀ content cause seeded, Text.trim request.appName ≠ [] →
    request.seed = .inline content →
    depot.stage "input".toList content world = (.error cause, seeded) →
    result = .error (.staging .seed cause) ∧ seeded.Untouched after
  cmdlineFailed : ∀ seedPath seeded cause moment, Text.trim request.appName ≠ [] →
    SeedAt depot world request.seed seedPath seeded →
    depot.stage "cmdline".toList (Text.encode request.cmdline) seeded = (.error cause, moment) →
    result = .error (.staging .cmdline cause) ∧ moment.Untouched after
  called : ∀ seedPath cmdlinePath moment,
    Ready depot request world seedPath cmdlinePath moment →
    ∃ invocation, Path.fileName? cmdlinePath = some invocation.cmdlineFile ∧
      invocation.arguments = ["--appname".toList, request.appName, "--verbose".toList, seedPath,
        invocation.cmdlineFile] ∧
      Judged (depot.tool.call world.invocations moment.files invocation).answer result ∧
      after.files = (depot.tool.call world.invocations moment.files invocation).files ∧
      after.lookups = moment.lookups ∧ after.invocations = world.invocations ++ [invocation]
  atMostOnce : after.invocations = world.invocations ∨
    ∃ invocation, after.invocations = world.invocations ++ [invocation]
  onceIff : (∃ invocation, after.invocations = world.invocations ++ [invocation]) ↔
    ∃ seedPath cmdlinePath moment, Ready depot request world seedPath cmdlinePath moment

end

variable {depot : Depot} {request : Request} {world : World}

/-! ## Staged artifacts -/

theorem stage_isAbsolute {label : Text} {content : Bytes} {staged : Staging.Staged}
    (h : (depot.stage label content world).1 = .ok staged) : Path.isAbsolute staged.path := by
  cases hask : (depot.ask (depot.filenameOf label content) world).1 with
  | error failure =>
    rw [(depot.stage_of_failure label content world hask).1] at h
    cases h
  | ok path =>
    rw [(depot.stage_of_answer label content world hask).1] at h
    have ha := depot.ask_isAbsolute world hask
    rcases Staging.reported_eq_ok h with ⟨_, rfl⟩ | ⟨_, rfl⟩ <;> exact ha

/-- Where something is staged, the path has a file name. -/
theorem fileName?_of_stage {label : Text} {content : Bytes} {staged : Staging.Staged}
    (h : (depot.stage label content world).1 = .ok staged) :
    ∃ name, Path.fileName? staged.path = some name :=
  FileSystem.fileName?_of_read (stage_isAbsolute h) (depot.stage_read label content world h)

theorem stageArtifact_of_staged {artifact : Artifact} {content : Bytes} {staged : Staging.Staged}
    {after : World} (h : depot.stage artifact.label content world = (.ok staged, after)) :
    depot.stageArtifact artifact content world = (.ok staged.path, after) := by
  rw [stageArtifact, h]

theorem stageArtifact_of_failure {artifact : Artifact} {content : Bytes} {cause : Staging.Error}
    {after : World} (h : depot.stage artifact.label content world = (.error cause, after)) :
    depot.stageArtifact artifact content world = (.error (.staging artifact cause), after) := by
  rw [stageArtifact, h]

theorem SeedAt.stageSeed_eq {seed : Seed} {path : Text} {seeded : World}
    (h : SeedAt depot world seed path seeded) :
    depot.stageSeed seed world = (.ok path, seeded) := by
  cases h with
  | staged hstage =>
    rw [stageSeed]
    exact stageArtifact_of_staged hstage
  | given => rfl

theorem stageSeed_of_failure {content : Bytes} {cause : Staging.Error} {seeded : World}
    (h : depot.stage "input".toList content world = (.error cause, seeded)) :
    depot.stageSeed (.inline content) world = (.error (.staging .seed cause), seeded) := by
  rw [stageSeed]
  exact stageArtifact_of_failure h

theorem stageCmdline_of_failure {cmdline : Text} {cause : Staging.Error} {moment : World}
    (h : depot.stage "cmdline".toList (Text.encode cmdline) world = (.error cause, moment)) :
    depot.stageCmdline cmdline world = (.error (.staging .cmdline cause), moment) := by
  have hartifact : depot.stageArtifact .cmdline (Text.encode cmdline) world = _ :=
    stageArtifact_of_failure h
  rw [stageCmdline, hartifact]

theorem stageCmdline_of_staged {cmdline : Text} {staged : Staging.Staged} {moment : World}
    (h : depot.stage "cmdline".toList (Text.encode cmdline) world = (.ok staged, moment)) :
    ∃ name, Path.fileName? staged.path = some name ∧
      depot.stageCmdline cmdline world = (.ok name, moment) := by
  obtain ⟨name, hname⟩ := fileName?_of_stage (congrArg Prod.fst h)
  have hartifact : depot.stageArtifact .cmdline (Text.encode cmdline) world = _ :=
    stageArtifact_of_staged h
  refine ⟨name, hname, ?_⟩
  rw [stageCmdline, hartifact]
  simp only [hname]

/-! ## The end of a submission -/

theorem judged_readReply (answer : Except ToolFailure ToolOutput) :
    Judged answer (readReply answer).2 := by
  cases answer with
  | error failure => exact .failed
  | ok reply =>
    rw [readReply]
    split
    · next hsuccess =>
      cases hread : IdLine.read reply.output with
      | ok id => simpa [readId, hread, Except.mapError] using Judged.created hsuccess hread
      | error violation =>
        simpa [readId, hread, Except.mapError] using Judged.unreported hsuccess hread
    · next hfailed => exact .exited (Bool.eq_false_iff.mpr hfailed)

/-- How far a submission may get. -/
theorem ready_or_failed (depot : Depot) (request : Request) (world : World) :
    Text.trim request.appName = [] ∨
      Text.trim request.appName ≠ [] ∧
        ((∃ content cause seeded, request.seed = .inline content ∧
            depot.stage "input".toList content world = (.error cause, seeded)) ∨
          ∃ seedPath seeded, SeedAt depot world request.seed seedPath seeded ∧
            ((∃ cause moment, depot.stage "cmdline".toList (Text.encode request.cmdline) seeded =
                (.error cause, moment)) ∨
              ∃ cmdlinePath moment,
                Ready depot request world seedPath cmdlinePath moment)) := by
  by_cases hnamed : Text.trim request.appName = []
  · exact .inl hnamed
  · refine .inr ⟨hnamed, ?_⟩
    have hcmdline {seedPath : Text} {seeded : World}
        (hseed : SeedAt depot world request.seed seedPath seeded) :
        (∃ cause moment, depot.stage "cmdline".toList (Text.encode request.cmdline) seeded =
            (.error cause, moment)) ∨
          ∃ cmdlinePath moment, Ready depot request world seedPath cmdlinePath moment := by
      rcases hstage : depot.stage "cmdline".toList (Text.encode request.cmdline) seeded with
        ⟨cause | staged, moment⟩
      · exact .inl ⟨cause, moment, rfl⟩
      · exact .inr ⟨staged.path, moment, hnamed, seeded, staged, hseed, hstage, rfl⟩
    cases hseed : request.seed with
    | staged path =>
      rw [hseed] at hcmdline
      exact .inr ⟨path, world, .given, hcmdline .given⟩
    | inline content =>
      rw [hseed] at hcmdline
      rcases hstage : depot.stage "input".toList content world with ⟨cause | staged, seeded⟩
      · exact .inl ⟨content, cause, seeded, rfl, hstage⟩
      · exact .inr ⟨staged.path, seeded, .staged hstage, hcmdline (.staged hstage)⟩

/-- Concluding a submission changes neither its result nor what a depot works with. -/
theorem submit_of_perform {step : Step} {result : Except Error Nat} {after : World}
    (h : depot.perform request world = ((step, result), after)) :
    (depot.submit request world).1 = result ∧
      after.Untouched (depot.submit request world).2 := by
  rw [submit, h]
  exact ⟨rfl, depot.conclude_untouched after step result⟩

theorem submit_of_unnamed (h : Text.trim request.appName = []) :
    (depot.submit request world).1 = .error (.request .blankApplication) ∧
      world.Untouched (depot.submit request world).2 := by
  have hperform : depot.perform request world =
      ((.validateRequest, .error (.request .blankApplication)), world) := by
    rw [perform, if_pos (Text.trim_eq_nil_iff.mp h)]
  exact submit_of_perform hperform

section
variable (hnamed : Text.trim request.appName ≠ [])
include hnamed

theorem not_isBlank : ¬ Text.isBlank request.appName :=
  fun hblank => hnamed (Text.trim_eq_nil_iff.mpr hblank)

theorem submit_of_seedFailed {content : Bytes} {cause : Staging.Error} {seeded : World}
    (hseed : request.seed = .inline content)
    (h : depot.stage "input".toList content world = (.error cause, seeded)) :
    (depot.submit request world).1 = .error (.staging .seed cause) ∧
      seeded.Untouched (depot.submit request world).2 := by
  have hperform : depot.perform request world =
      ((.stageSeed, .error (.staging .seed cause)), seeded) := by
    rw [perform, if_neg (not_isBlank hnamed), hseed, stageSeed_of_failure h]
  exact submit_of_perform hperform

theorem submit_of_cmdlineFailed {seedPath : Text} {seeded moment : World} {cause : Staging.Error}
    (hseed : SeedAt depot world request.seed seedPath seeded)
    (h : depot.stage "cmdline".toList (Text.encode request.cmdline) seeded =
      (.error cause, moment)) :
    (depot.submit request world).1 = .error (.staging .cmdline cause) ∧
      moment.Untouched (depot.submit request world).2 := by
  have hperform : depot.perform request world =
      ((.stageCmdline, .error (.staging .cmdline cause)), moment) := by
    rw [perform, if_neg (not_isBlank hnamed), hseed.stageSeed_eq]
    simp only [stageCmdline_of_failure h]
  exact submit_of_perform hperform

theorem perform_of_staged {seedPath : Text} {name : Name} {seeded moment : World}
    (hseed : depot.stageSeed request.seed world = (.ok seedPath, seeded))
    (hcmdline : depot.stageCmdline request.cmdline seeded = (.ok name, moment)) :
    depot.perform request world =
      (readReply (depot.callTool ⟨request.appName, seedPath, name⟩ moment).1,
        (depot.callTool ⟨request.appName, seedPath, name⟩ moment).2) := by
  have hperformed := depot.perform_performed request world
  generalize depot.perform request world = ending at hperformed ⊢
  cases hperformed with
  | blank hblank => exact absurd hblank (not_isBlank hnamed)
  | seedFailed _ he =>
    rw [hseed] at he
    cases he
  | cmdlineFailed _ he he' =>
    rw [hseed] at he
    cases he
    rw [hcmdline] at he'
    cases he'
  | called _ he he' =>
    rw [hseed] at he
    cases he
    rw [hcmdline] at he'
    cases he'
    rfl

end

theorem SeedAt.invocations {seed : Seed} {path : Text} {seeded : World}
    (h : SeedAt depot world seed path seeded) : seeded.invocations = world.invocations := by
  have hseeded := depot.stageSeed_invocations world seed
  rw [h.stageSeed_eq] at hseeded
  exact hseeded

theorem stage_invocations_eq {label : Text} {content : Bytes} {moment : World}
    {result : Except Staging.Error Staging.Staged}
    (h : depot.stage label content world = (result, moment)) :
    moment.invocations = world.invocations := by
  have hmoment := depot.stage_invocations world label content
  rw [h] at hmoment
  exact hmoment

theorem Ready.invocations {seedPath cmdlinePath : Text} {moment : World}
    (h : Ready depot request world seedPath cmdlinePath moment) :
    moment.invocations = world.invocations := by
  obtain ⟨seeded, cmdline, hseed, hcmdline, _⟩ := h.staged
  exact (stage_invocations_eq hcmdline).trans hseed.invocations

/-- Once all is ready, the tool is called and its answer decides. -/
theorem submit_of_ready {seedPath cmdlinePath : Text} {moment : World}
    (h : Ready depot request world seedPath cmdlinePath moment) :
    ∃ name, Path.fileName? cmdlinePath = some name ∧
      let invocation : Invocation := ⟨request.appName, seedPath, name⟩
      let reply := depot.tool.call world.invocations moment.files invocation
      Judged reply.answer (depot.submit request world).1 ∧
        (depot.submit request world).2.files = reply.files ∧
        (depot.submit request world).2.lookups = moment.lookups ∧
        (depot.submit request world).2.invocations = world.invocations ++ [invocation] := by
  have hmoment := h.invocations
  obtain ⟨hnamed, seeded, cmdline, hseed, hcmdline, rfl⟩ := h
  obtain ⟨name, hname, hstaged⟩ := stageCmdline_of_staged hcmdline
  have hperform := perform_of_staged hnamed hseed.stageSeed_eq hstaged
  obtain ⟨hresult, hafter⟩ := submit_of_perform hperform
  rw [← hmoment]
  refine ⟨name, hname, ?_, hafter.files, hafter.lookups, hafter.invocations⟩
  rw [hresult]
  exact judged_readReply _

theorem ne_append_singleton {α : Type} (front : List α) (last : α) : front ≠ front ++ [last] := by
  simp

/-- Every submission takes its course, and output that is valid text is passed on as it is. -/
theorem submit_course (depot : Depot) (request : Request) (world : World) :
    Course depot request world (depot.submit request world).1 (depot.submit request world).2 ∧
      ∀ text, Text.decodeLossy (Text.encode text) = text := by
  refine ⟨?_, Text.decodeLossy_encode⟩
  have hcalls : (∃ seedPath cmdlinePath moment,
        Ready depot request world seedPath cmdlinePath moment) ∨
      (depot.submit request world).2.invocations = world.invocations := by
    rcases ready_or_failed depot request world with
      hunnamed | ⟨hnamed, ⟨content, cause, seeded, hseed, hstage⟩ |
        ⟨seedPath, seeded, hseed, ⟨cause, moment, hstage⟩ | ⟨cmdlinePath, moment, hready⟩⟩⟩
    · exact .inr (submit_of_unnamed hunnamed).2.invocations
    · have hafter := (submit_of_seedFailed hnamed hseed hstage).2.invocations
      exact .inr (hafter.trans (stage_invocations_eq hstage))
    · have hafter := (submit_of_cmdlineFailed hnamed hseed hstage).2.invocations
      exact .inr ((hafter.trans (stage_invocations_eq hstage)).trans hseed.invocations)
    · exact .inl ⟨seedPath, cmdlinePath, moment, hready⟩
  exact {
    unnamed := by
      intro hunnamed
      obtain ⟨hresult, hafter⟩ := submit_of_unnamed hunnamed
      exact ⟨⟨_, hresult, rfl⟩, hafter⟩
    seedFailed := fun _ _ _ hnamed => submit_of_seedFailed hnamed
    cmdlineFailed := fun _ _ _ _ hnamed => submit_of_cmdlineFailed hnamed
    called := by
      intro seedPath cmdlinePath moment hready
      obtain ⟨name, hname, hjudged, hrest⟩ := submit_of_ready hready
      exact ⟨⟨request.appName, seedPath, name⟩, hname, rfl, hjudged, hrest⟩
    atMostOnce := by
      rcases hcalls with ⟨seedPath, cmdlinePath, moment, hready⟩ | hnone
      · obtain ⟨name, _, _, _, _, hcalled⟩ := submit_of_ready hready
        exact .inr ⟨_, hcalled⟩
      · exact .inl hnone
    onceIff := by
      constructor
      · rintro ⟨invocation, hcalled⟩
        rcases hcalls with hready | hnone
        · exact hready
        · exact absurd (hnone.symm.trans hcalled) (ne_append_singleton _ _)
      · rintro ⟨seedPath, cmdlinePath, moment, hready⟩
        obtain ⟨name, _, _, _, _, hcalled⟩ := submit_of_ready hready
        exact ⟨_, hcalled⟩ }

end WorkDepot.Depot
