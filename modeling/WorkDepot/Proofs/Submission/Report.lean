import WorkDepot.Proofs.Metrics.Counts
import WorkDepot.Proofs.Submission.Course

/-! # Reports of submissions

On its way a submission looks names up, stages artifacts and calls the tool, which may report
whatever they like. The depot itself reports and counts the end of a submission once, when it is
over. The step that is reported belongs to the error, and what the tool has written is reported when
it is known.
-/
namespace WorkDepot
open Submission

/-- Whether an event tells how a submission has ended. -/
def Event.endsSubmission : Event → Bool
  | .workUnitCreated _ | .submissionFailed .. => true
  | _ => false

namespace Submission

/-- The step at which submissions end with an error. -/
def Error.step : Error → Step
  | .request _ => .validateRequest
  | .staging .seed _ => .stageSeed
  | .staging .cmdline _ => .stageCmdline
  | .tool _ => .invokeTool
  | .protocol .. => .parseOutput

/-- An error and the step that is reported with it determine each other's shape. The cause of a
failed staging determines the kind of the error, and what the tool has written is known of tools
that have ended or been stopped. -/
structure Fits (step : Step) (error : Error) : Prop where
  validateRequest : step = .validateRequest ↔ ∃ fault, error = .request fault
  stageSeed : step = .stageSeed ↔ ∃ cause, error = .staging .seed cause
  stageCmdline : step = .stageCmdline ↔ ∃ cause, error = .staging .cmdline cause
  invokeTool : step = .invokeTool ↔ ∃ failure, error = .tool failure
  parseOutput : step = .parseOutput ↔ ∃ output violation, error = .protocol output violation
  consistency : error.kind = .consistency ↔
    ∃ artifact filename path, error = .staging artifact (.conflict filename path)
  oracle : error.kind = .oracle ↔ ∃ artifact failure, error = .staging artifact (.oracle failure)
  storage : error.kind = .storage ↔ ∃ artifact fault, error = .staging artifact (.storage fault)
  output : error.toolOutput?.isSome ↔
    (∃ status output, error = .tool (.exited status output)) ∨
      (∃ timeoutMillis output, error = .tool (.timedOut timeoutMillis output)) ∨
        ∃ output violation, error = .protocol output violation

theorem fits_step (error : Error) : Fits error.step error := by
  cases error with
  | request fault => constructor <;> simp [Error.step, Error.kind, Error.toolOutput?]
  | staging artifact cause =>
    cases artifact <;> cases cause <;> constructor <;>
      simp [Error.step, Error.kind, Error.toolOutput?]
  | tool failure =>
    cases failure <;> constructor <;>
      simp [Error.step, Error.kind, Error.toolOutput?, ToolFailure.output?]
  | protocol output violation => constructor <;> simp [Error.step, Error.kind, Error.toolOutput?]

/-- The event at the end of a submission tells its result. -/
inductive Tells : Except Error Nat → Event → Prop
  | created {id : Nat} : Tells (.ok id) (.workUnitCreated id)
  | failed {step : Step} {error : Error} : Fits step error →
      Tells (.error error)
        (.submissionFailed step error.kind error.message (error.toolOutput?.getD []))

/-- The label under which a submission is counted. -/
def resultLabel : Except Error Nat → Text
  | .ok _ => "success".toList
  | .error error => error.kind.label

/-- What a tool has written is known when it has come to its end or has been stopped. -/
inductive Collected : Except ToolFailure ToolOutput → Text → Prop
  | ended {reply : ToolOutput} : Collected (.ok reply) (Text.decodeLossy reply.output)
  | exited {status : Option Int} {output : Text} : Collected (.error (.exited status output)) output
  | timedOut {timeoutMillis : Nat} {output : Text} :
      Collected (.error (.timedOut timeoutMillis output)) output

end Submission

namespace Depot

/-- The events that the oracle or the tool of a depot may report. -/
inductive Relays (depot : Depot) : Event → Prop
  | oracle {earlier : List Text} {files : FileSystem} {filename : Text} {event : Event} :
      event ∈ (depot.oracle.ask earlier files filename).events → Relays depot event
  | tool {earlier : List Invocation} {files : FileSystem} {invocation : Invocation}
      {event : Event} :
      event ∈ (depot.tool.call earlier files invocation).events → Relays depot event

/-- The tool gives this answer when the request is submitted, as both artifacts can be staged. -/
inductive Answered (depot : Depot) (request : Request) (world : World) :
    Except ToolFailure ToolOutput → Prop
  | called {seedPath : Text} {seeded moment : World} {cmdlineFile : Name} :
      ¬ Text.isBlank request.appName →
      depot.stageSeed request.seed world = (.ok seedPath, seeded) →
      depot.stageCmdline request.cmdline seeded = (.ok cmdlineFile, moment) →
      Answered depot request world
        (depot.callTool ⟨request.appName, seedPath, cmdlineFile⟩ moment).1

/-- How the end of a submission shows in the events, in the counts and in its error. -/
structure Reported (depot : Depot) (answered : Except ToolFailure ToolOutput → Prop)
    (before : World) (result : Except Error Nat) (after : World) : Prop where
  once : ∃ inner ending, after.events = before.events ++ inner ++ [ending] ∧
    Tells result ending ∧ ∀ event ∈ inner, event.endsSubmission → depot.Relays event
  counted : ∀ label, after.counters.submissions.count label =
    before.counters.submissions.count label +
      if depot.metered ∧ resultLabel result = label then 1 else 0
  collected : ∀ error, result = .error error → ∀ output,
    error.toolOutput? = some output ↔ ∃ answer, answered answer ∧ Collected answer output

/-- Between the worlds the depot has reported no end of a submission but what it relays, and has
counted none. -/
structure Worked (depot : Depot) (before after : World) : Prop where
  events : ∃ inner, after.events = before.events ++ inner ∧
    ∀ event ∈ inner, event.endsSubmission → depot.Relays event
  submissions : after.counters.submissions = before.counters.submissions

section
variable {depot : Depot} {world : World}

theorem Worked.refl (world : World) : depot.Worked world world :=
  ⟨⟨[], (List.append_nil _).symm, by simp⟩, rfl⟩

theorem Worked.trans {before middle after : World} (h : depot.Worked before middle)
    (h' : depot.Worked middle after) : depot.Worked before after := by
  obtain ⟨⟨first, he, hf⟩, hs⟩ := h
  obtain ⟨⟨second, he', hf'⟩, hs'⟩ := h'
  refine ⟨⟨first ++ second, by rw [he', he, List.append_assoc], ?_⟩, hs'.trans hs⟩
  intro event hevent
  rcases List.mem_append.mp hevent with hevent | hevent
  · exact hf event hevent
  · exact hf' event hevent

/-! ## Work of a depot -/

theorem worked_emit {event : Event} (h : event.endsSubmission = false) :
    depot.Worked world (world.emit event) := by
  refine ⟨⟨[event], rfl, ?_⟩, rfl⟩
  rintro _ (_ | ⟨_, ⟨⟩⟩) hends
  rw [h] at hends
  cases hends

@[simp] theorem record_events (outcome : Metrics.Outcome) :
    (depot.record outcome world).events = world.events := by
  rw [record]
  split <;> rfl

theorem worked_record {outcome : Metrics.Outcome} (h : outcome.subject ≠ .submissions) :
    depot.Worked world (depot.record outcome world) := by
  refine ⟨⟨[], by simp, by simp⟩, ?_⟩
  rw [record]
  split
  · exact (Metrics.Counters.family_record world.counters outcome .submissions).trans (if_neg h)
  · rfl

variable (depot world)

theorem worked_ask (filename : Text) : depot.Worked world (depot.ask filename world).2 :=
  ⟨⟨_, rfl, fun _ hevent _ => .oracle hevent⟩, rfl⟩

theorem worked_resolve (filename : Text) : depot.Worked world (depot.resolve filename world).2 := by
  have hasked := depot.worked_ask world filename
  rw [resolve]
  split <;> next he =>
    rw [he] at hasked
    exact (hasked.trans (worked_emit rfl)).trans (worked_record (by decide))

theorem worked_store (staged : Staging.Staged) (content : Bytes) :
    depot.Worked world (depot.store staged content world).2 := by
  have hfiles (files : FileSystem) : depot.Worked world { world with files } :=
    ⟨⟨[], (List.append_nil _).symm, by simp⟩, rfl⟩
  rw [store]
  dsimp only
  split
  · exact hfiles _
  · exact (hfiles _).trans (worked_emit rfl)
  · exact (hfiles _).trans (worked_emit rfl)
  · exact (hfiles _).trans (worked_emit rfl)

theorem counted_subject (result : Except Staging.Error Staging.Staged) :
    (Staging.counted result).subject = .staged := by
  cases result with
  | ok staged => cases h : staged.outcome <;> simp [Staging.counted, h, Metrics.Outcome.subject]
  | error cause => rfl

theorem worked_stage (label : Text) (content : Bytes) :
    depot.Worked world (depot.stage label content world).2 := by
  have hresolved := depot.worked_resolve world (depot.filenameOf label content)
  rw [filenameOf] at hresolved
  have hstored : depot.Worked world (depot.resolveAndStore label content world).2 := by
    simp only [resolveAndStore]
    split
    · next he =>
      rw [he] at hresolved
      exact hresolved
    · next he =>
      rw [he] at hresolved
      exact hresolved.trans (depot.worked_store _ _ content)
  simp only [stage]
  refine hstored.trans (worked_record ?_)
  rw [counted_subject]
  decide

theorem worked_stageSeed (seed : Seed) : depot.Worked world (depot.stageSeed seed world).2 := by
  cases seed with
  | inline content =>
    rw [stageSeed, stageArtifact_world]
    exact depot.worked_stage world _ content
  | staged path => exact Worked.refl world

theorem worked_stageCmdline (cmdline : Text) :
    depot.Worked world (depot.stageCmdline cmdline world).2 := by
  rw [stageCmdline_world]
  exact depot.worked_stage world _ _

theorem worked_callTool (invocation : Invocation) :
    depot.Worked world (depot.callTool invocation world).2 :=
  ⟨⟨_, rfl, fun _ hevent _ => .tool hevent⟩, rfl⟩

/-- Before it is concluded, a submission has not ended. -/
theorem worked_perform (request : Request) :
    depot.Worked world (depot.perform request world).2 := by
  have hseed := depot.worked_stageSeed world request.seed
  have hperformed := depot.perform_performed request world
  generalize depot.perform request world = ending at hperformed ⊢
  cases hperformed with
  | blank _ => exact Worked.refl world
  | seedFailed _ he =>
    rw [he] at hseed
    exact hseed
  | @cmdlineFailed seedPath seeded after error _ he he' =>
    have hcmdline := depot.worked_stageCmdline seeded request.cmdline
    rw [he] at hseed
    rw [he'] at hcmdline
    exact hseed.trans hcmdline
  | @called seedPath seeded moment cmdlineFile _ he he' =>
    have hcmdline := depot.worked_stageCmdline seeded request.cmdline
    rw [he] at hseed
    rw [he'] at hcmdline
    exact (hseed.trans hcmdline).trans (depot.worked_callTool moment _)

end

/-! ## Errors, their steps and the output of the tool -/

section
variable {depot : Depot} {request : Request} {world : World} {error : Error}
variable {answer : Except ToolFailure ToolOutput}

/-- Only output that cannot be read makes an error of the last step. -/
theorem readReply_cases (answer : Except ToolFailure ToolOutput) :
    (∃ failure, answer = .error failure ∧
        readReply answer = (.invokeTool, .error (.tool failure))) ∨
      ∃ reply, answer = .ok reply ∧
        (readReply answer = (.invokeTool,
            .error (.tool (.exited reply.status (Text.decodeLossy reply.output)))) ∨
          (∃ id, readReply answer = (.parseOutput, .ok id)) ∨
          ∃ violation, readReply answer =
            (.parseOutput, .error (.protocol (Text.decodeLossy reply.output) violation))) := by
  cases answer with
  | error failure => exact .inl ⟨failure, rfl, rfl⟩
  | ok reply =>
    refine .inr ⟨reply, rfl, ?_⟩
    rw [readReply]
    split
    · right
      rw [readId]
      cases IdLine.read reply.output with
      | ok id => exact .inl ⟨id, rfl⟩
      | error violation => exact .inr ⟨violation, rfl⟩
    · exact .inl rfl

theorem readReply_step (h : (readReply answer).2 = .error error) :
    (readReply answer).1 = error.step := by
  rcases readReply_cases answer with
    ⟨failure, _, he⟩ | ⟨reply, _, he | ⟨id, he⟩ | ⟨violation, he⟩⟩ <;> rw [he] at h ⊢ <;> cases h
  all_goals rfl

/-- The error holds what the tool has written just when that has been collected. -/
theorem readReply_output (h : (readReply answer).2 = .error error) (output : Text) :
    error.toolOutput? = some output ↔ Collected answer output := by
  rcases readReply_cases answer with
    ⟨failure, rfl, he⟩ | ⟨reply, rfl, he | ⟨id, he⟩ | ⟨violation, he⟩⟩ <;> rw [he] at h <;> cases h
  · constructor
    · intro ho
      cases failure with
      | notStarted program cause => cases ho
      | notCaptured operation cause => cases ho
      | exited status written =>
        cases ho
        exact .exited
      | timedOut timeoutMillis written =>
        cases ho
        exact .timedOut
    · rintro (_ | _ | _) <;> rfl
  · constructor
    · rintro ⟨⟩
      exact .ended
    · rintro ⟨⟩
      rfl
  · constructor
    · rintro ⟨⟩
      exact .ended
    · rintro ⟨⟩
      rfl

theorem perform_step (h : (depot.perform request world).1.2 = .error error) :
    (depot.perform request world).1.1 = error.step := by
  have hperformed := depot.perform_performed request world
  generalize depot.perform request world = ending at hperformed h ⊢
  cases hperformed with
  | blank _ =>
    cases h
    rfl
  | seedFailed _ he =>
    obtain ⟨_, cause, _, _, rfl⟩ := stageSeed_eq_error he
    cases h
    rfl
  | cmdlineFailed _ _ he =>
    obtain ⟨cause, rfl⟩ := stageCmdline_eq_error he
    cases h
    rfl
  | called _ _ _ => exact readReply_step h

/-- An answer of the tool decides how the submission ends. -/
theorem Answered.perform_eq (h : Answered depot request world answer) :
    (depot.perform request world).1 = readReply answer := by
  cases h with
  | called hblank hseed hcmdline =>
    have hnamed : Text.trim request.appName ≠ [] := fun he => hblank (Text.trim_eq_nil_iff.mp he)
    rw [perform_of_staged hnamed hseed hcmdline]

/-- The error holds what the tool has written when the tool has been called and that has been
collected. -/
theorem perform_output (h : (depot.perform request world).1.2 = .error error) (output : Text) :
    error.toolOutput? = some output ↔
      ∃ answer, Answered depot request world answer ∧ Collected answer output := by
  constructor
  · intro ho
    have hperformed := depot.perform_performed request world
    generalize depot.perform request world = ending at hperformed h
    cases hperformed with
    | blank _ =>
      cases h
      cases ho
    | seedFailed _ he =>
      obtain ⟨_, cause, _, _, rfl⟩ := stageSeed_eq_error he
      cases h
      cases ho
    | cmdlineFailed _ _ he =>
      obtain ⟨cause, rfl⟩ := stageCmdline_eq_error he
      cases h
      cases ho
    | called hblank hseed hcmdline =>
      exact ⟨_, .called hblank hseed hcmdline, (readReply_output h output).mp ho⟩
  · rintro ⟨answer, hanswered, hcollected⟩
    rw [hanswered.perform_eq] at h
    exact (readReply_output h output).mpr hcollected

end

/-! ## The end of a submission -/

section
variable {depot : Depot} {answered : Except ToolFailure ToolOutput → Prop}

theorem submissions_conclude (depot : Depot) (step : Step) (result : Except Error Nat)
    (world : World) (label : Text) :
    (depot.conclude step result world).counters.submissions.count label =
      world.counters.submissions.count label +
        if depot.metered ∧ resultLabel result = label then 1 else 0 := by
  have hrecord (outcome : Metrics.Outcome) (hs : outcome.subject = .submissions) (event : Event) :
      (depot.record outcome (world.emit event)).counters.submissions.count label =
        world.counters.submissions.count label +
          if depot.metered ∧ outcome.label = label then 1 else 0 := by
    rw [record]
    by_cases hm : depot.metered
    · have hfamily : (world.counters.record outcome).submissions =
          world.counters.submissions.increment outcome.label :=
        (Metrics.Counters.family_record world.counters outcome .submissions).trans (if_pos hs)
      simp only [hm, if_true, true_and]
      exact (congrArg (Metrics.Family.count · label) hfamily).trans
        (Metrics.Family.count_increment _ _ _)
    · simp [hm]
      rfl
  cases result with
  | ok id => exact hrecord .submissionSucceeded rfl _
  | error error => exact hrecord (.submissionFailed error.kind) rfl _

/-- Concluding reports and counts the end, once the depot has worked for it. -/
theorem reported_conclude {before middle : World} {step : Step} {result : Except Error Nat}
    (hworked : depot.Worked before middle)
    (hstep : ∀ error, result = .error error → step = error.step)
    (hcollected : ∀ error, result = .error error → ∀ output,
      error.toolOutput? = some output ↔ ∃ answer, answered answer ∧ Collected answer output) :
    Reported depot answered before result (depot.conclude step result middle) where
  once := by
    obtain ⟨⟨inner, he, hrelays⟩, _⟩ := hworked
    cases result with
    | ok id =>
      refine ⟨inner, .workUnitCreated id, ?_, .created, hrelays⟩
      rw [conclude, record_events, World.emit, he]
    | error error =>
      have hfits : Fits step error := by
        rw [hstep error rfl]
        exact fits_step error
      refine ⟨inner, _, ?_, .failed hfits, hrelays⟩
      rw [conclude, record_events, World.emit, he]
  counted := by
    intro label
    rw [submissions_conclude, hworked.submissions]
  collected := hcollected

end

/-- Programs do not report the ends of submissions. -/
theorem not_endsSubmission_of_relays {settings : Config.Settings} {machine : Helper.Machine}
    {event : Event} (h : (ofSettings settings machine).Relays event) :
    event.endsSubmission = false := by
  cases h with
  | oracle h =>
    simp only [ofSettings, Placement.Oracle.command] at h
    split at h <;> cases List.mem_singleton.mp h <;> rfl
  | tool h =>
    simp only [ofSettings, Tool.command] at h
    split at h
    · cases List.mem_singleton.mp h
      rfl
    · rcases List.mem_cons.mp h with rfl | h
      · rfl
      · split at h
        · cases List.mem_singleton.mp h
          rfl
        · cases h

/-- Every submission reports and counts its end once and alike, whether it is made with a seed or
with parts. -/
theorem submission_reported (depot : Depot) (world : World) :
    (∀ request, Reported depot (Answered depot request world) world
        (depot.submit request world).1 (depot.submit request world).2) ∧
      (∀ appName cmdline content path,
        Reported depot
          (fun answer => ∃ seed, Seed.ofParts content path = .ok seed ∧
            Answered depot ⟨appName, cmdline, seed⟩ world answer)
          world (depot.submitParts appName cmdline content path world).1
          (depot.submitParts appName cmdline content path world).2) ∧
      ∀ settings machine event,
        (ofSettings settings machine).Relays event → event.endsSubmission = false := by
  have hsubmit (request : Request) : Reported depot (Answered depot request world) world
      (depot.submit request world).1 (depot.submit request world).2 :=
    reported_conclude (depot.worked_perform world request) (fun _ h => perform_step h)
      (fun _ h => perform_output h)
  refine ⟨hsubmit, ?_, fun _ _ _ => not_endsSubmission_of_relays⟩
  intro appName cmdline content path
  rw [submitParts]
  cases hseed : Seed.ofParts content path with
  | ok seed =>
    have hreported := hsubmit ⟨appName, cmdline, seed⟩
    refine ⟨hreported.once, hreported.counted, fun error he output => ?_⟩
    rw [hreported.collected error he output]
    simp
  | error fault =>
    refine reported_conclude (Worked.refl world) ?_ ?_
    · rintro _ ⟨⟩
      rfl
    · rintro _ ⟨⟩ output
      simp [Error.toolOutput?]

end Depot
end WorkDepot
