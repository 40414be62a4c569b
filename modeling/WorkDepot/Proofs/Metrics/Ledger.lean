import WorkDepot.Proofs.Metrics.Counts
import WorkDepot.Proofs.Session
import WorkDepot.Proofs.Submission.Refusal

/-! # What a session has done

A session is read again as the stagings, bare lookups and submissions that its calls amount to, each
in the world that it is made in. Every staging and every bare lookup asks the oracle once, and each
of the three is counted when it ends. Thus the counters, the questions to the oracle and the calls
of the tool after a session follow from what it has done.
-/
namespace WorkDepot
open Submission

/-- A call of staging and the world that it is made in. -/
structure StageCall where
  depot : Depot
  label : Text
  content : Bytes
  world : World

def looked : Except Placement.Failure Text → Metrics.Outcome
  | .ok _ => .lookupSucceeded
  | .error _ => .lookupFailed

def concluded : Except Error Nat → Metrics.Outcome
  | .ok _ => .submissionSucceeded
  | .error error => .submissionFailed error.kind

namespace StageCall
variable (call : StageCall)

def filename : Text := call.depot.filenameOf call.label call.content

/-- What the oracle has answered. -/
def answer : Except Placement.Failure Text := (call.depot.ask call.filename call.world).1

def result : Except Staging.Error Staging.Staged :=
  (call.depot.stage call.label call.content call.world).1

def after : World := (call.depot.stage call.label call.content call.world).2

/-- Whether the file has been created or was there, unless staging has failed. -/
def outcome? : Option Staging.Outcome := call.result.toOption.map (·.outcome)

/-- The files that are there since the oracle has answered, and were not before. -/
def added : Set Location :=
  FileSystem.newFiles (call.depot.filesAsked call.world call.filename) call.after.files

/-- What is counted for the call. -/
def outcomes : List Metrics.Outcome :=
  [looked call.answer, Staging.counted call.result]

end StageCall

namespace Depot
variable (depot : Depot)

def seedStagings (seed : Seed) (world : World) : List StageCall :=
  match seed with
  | .inline content => [⟨depot, "input".toList, content, world⟩]
  | .staged _ => []

/-- The stagings of a submission: that of a seed that is given as content, and that of the command
line unless the seed is missing. -/
def stagings (request : Request) (world : World) : List StageCall :=
  if Text.isBlank request.appName then []
  else depot.seedStagings request.seed world ++
    match depot.stageSeed request.seed world with
    | (.ok _, seeded) => [⟨depot, "cmdline".toList, Text.encode request.cmdline, seeded⟩]
    | (.error _, _) => []

def partsStagings (appName cmdline : Text) (content : Option Bytes) (path : Option Text)
    (world : World) : List StageCall :=
  match Seed.ofParts content path with
  | .ok seed => depot.stagings ⟨appName, cmdline, seed⟩ world
  | .error _ => []

end Depot

/-- Whether all that a call does is to look a name up. -/
def Call.looksUp : Call → Bool
  | .locate .. | .resolve _ | .downloadPath _ => true
  | .stage .. | .submit _ | .submitParts .. => false

def Call.submits : Call → Bool
  | .submit _ | .submitParts .. => true
  | .stage .. | .locate .. | .resolve _ | .downloadPath _ => false

namespace Turn
variable (turn : Turn) (world : World)

/-- The stagings of a call, whether it is one or submits something. -/
def stagings : List StageCall :=
  match turn.call with
  | .stage label content => [⟨turn.depot, label, content, world⟩]
  | .submit request => turn.depot.stagings request world
  | .submitParts appName cmdline content path =>
    turn.depot.partsStagings appName cmdline content path world
  | .locate .. | .resolve _ | .downloadPath _ => []

def bareLookups : List (Except Placement.Failure Text) :=
  match turn.call with
  | .locate label fingerprint =>
    [(turn.depot.ask (Staging.filename label fingerprint) world).1]
  | .resolve filename | .downloadPath filename => [(turn.depot.ask filename world).1]
  | .stage .. | .submit _ | .submitParts .. => []

def submissions : List (Except Error Nat) :=
  match turn.call with
  | .submit request => [(turn.depot.submit request world).1]
  | .submitParts appName cmdline content path =>
    [(turn.depot.submitParts appName cmdline content path world).1]
  | .stage .. | .locate .. | .resolve _ | .downloadPath _ => []

/-- What is counted for a call. -/
def outcomes : List Metrics.Outcome :=
  (turn.stagings world).flatMap StageCall.outcomes ++ (turn.bareLookups world).map looked ++
    (turn.submissions world).map concluded

end Turn

/-- What the calls of a session give one after the other, each in the world that it is made in. -/
def gather {α : Type} (give : Turn → World → List α) : List Turn → World → List α
  | [], _ => []
  | turn :: turns, world => give turn world ++ gather give turns (turn.take world)

/-- Between the worlds these stagings have been made and counted, and nothing else has been looked
up or counted. -/
structure Accounted (before after : World) (calls : List StageCall) : Prop where
  counters : after.counters = before.counters.recordAll (calls.flatMap StageCall.outcomes)
  lookups : after.lookups = before.lookups ++ calls.map StageCall.filename

theorem Accounted.refl (world : World) : Accounted world world [] :=
  ⟨rfl, (List.append_nil _).symm⟩

theorem Accounted.append {before middle after : World} {first second : List StageCall}
    (h : Accounted before middle first) (h' : Accounted middle after second) :
    Accounted before after (first ++ second) where
  counters := by
    rw [h'.counters, h.counters, List.flatMap_append, Metrics.Counters.recordAll_append]
  lookups := by rw [h'.lookups, h.lookups, List.map_append, List.append_assoc]

theorem Accounted.length_lookups {before after : World} {calls : List StageCall}
    (h : Accounted before after calls) :
    after.lookups.length = before.lookups.length + calls.length := by
  rw [h.lookups, List.length_append, List.length_map]

namespace Depot
variable (depot : Depot) (world : World)

/-! ## Lookups and stagings -/

@[simp] theorem record_lookups (outcome : Metrics.Outcome) :
    (depot.record outcome world).lookups = world.lookups := by
  rw [record]
  split <;> rfl

theorem resolve_world (filename : Text) : ∃ event, (depot.resolve filename world).2 =
    depot.record (looked (depot.ask filename world).1)
      ((depot.ask filename world).2.emit event) := by
  rw [resolve]
  split <;> next hask =>
    rw [hask]
    exact ⟨_, rfl⟩

theorem resolve_lookups (filename : Text) :
    (depot.resolve filename world).2.lookups = world.lookups ++ [filename] := by
  obtain ⟨event, hworld⟩ := depot.resolve_world world filename
  rw [hworld, record_lookups]
  rfl

/-- Storing counts nothing and looks nothing up. -/
theorem store_unaccounted (staged : Staging.Staged) (content : Bytes) :
    Accounted world (depot.store staged content world).2 [] := by
  rw [store]
  dsimp only
  split <;> exact ⟨rfl, (List.append_nil _).symm⟩

/-- What a call of staging is before its end is counted. -/
theorem resolveAndStore_world (label : Text) (content : Bytes) :
    Accounted (depot.resolve (depot.filenameOf label content) world).2
      (depot.resolveAndStore label content world).2 [] := by
  simp only [resolveAndStore, filenameOf]
  split
  · next he =>
    rw [he]
    exact Accounted.refl _
  · next he =>
    rw [he]
    exact depot.store_unaccounted _ _ content

theorem stage_lookups (label : Text) (content : Bytes) :
    (depot.stage label content world).2.lookups =
      world.lookups ++ [depot.filenameOf label content] := by
  have hlookups := (depot.resolveAndStore_world world label content).lookups
  rw [resolve_lookups] at hlookups
  simp only [stage, record_lookups, hlookups]
  simp

section
variable (hm : depot.metered)
include hm

theorem record_counters (outcome : Metrics.Outcome) :
    (depot.record outcome world).counters = world.counters.record outcome := by
  rw [record, if_pos hm]

theorem resolve_counters (filename : Text) : (depot.resolve filename world).2.counters =
    world.counters.record (looked (depot.ask filename world).1) := by
  obtain ⟨event, hworld⟩ := depot.resolve_world world filename
  rw [hworld, record_counters _ _ hm]
  rfl

theorem stage_accounted (label : Text) (content : Bytes) :
    Accounted world (depot.stage label content world).2 [⟨depot, label, content, world⟩] := by
  have hinner := depot.resolveAndStore_world world label content
  constructor
  · have hcounters := hinner.counters
    rw [resolve_counters _ _ hm] at hcounters
    simp only [stage, record_counters _ _ hm, hcounters]
    rfl
  · exact depot.stage_lookups world label content

/-! ## Submissions -/

theorem stageSeed_accounted (seed : Seed) :
    Accounted world (depot.stageSeed seed world).2 (depot.seedStagings seed world) := by
  cases seed with
  | inline content =>
    rw [stageSeed, stageArtifact_world]
    exact depot.stage_accounted world hm _ content
  | staged path => exact Accounted.refl world

/-- After the seed, the command line is staged. -/
theorem stageCmdline_accounted {request : Request} {seedPath : Text} {seeded : World}
    (hblank : ¬ Text.isBlank request.appName)
    (he : depot.stageSeed request.seed world = (.ok seedPath, seeded)) :
    Accounted world (depot.stageCmdline request.cmdline seeded).2
      (depot.stagings request world) := by
  have hseed := depot.stageSeed_accounted world hm request.seed
  rw [he] at hseed
  rw [stageCmdline_world, stagings, if_neg hblank, he]
  exact hseed.append (depot.stage_accounted seeded hm _ _)

/-- Whatever the way of a submission, its stagings are what has been counted and looked up. -/
theorem perform_accounted (request : Request) :
    Accounted world (depot.perform request world).2 (depot.stagings request world) := by
  have hperformed := depot.perform_performed request world
  generalize depot.perform request world = ending at hperformed ⊢
  cases hperformed with
  | blank hblank =>
    rw [stagings, if_pos hblank]
    exact Accounted.refl world
  | seedFailed hblank he =>
    have hseed := depot.stageSeed_accounted world hm request.seed
    rw [he] at hseed
    rw [stagings, if_neg hblank, he, List.append_nil]
    exact hseed
  | cmdlineFailed hblank he he' =>
    have hcmdline := depot.stageCmdline_accounted world hm hblank he
    rw [he'] at hcmdline
    exact hcmdline
  | called hblank he he' =>
    have hcmdline := depot.stageCmdline_accounted world hm hblank he
    rw [he'] at hcmdline
    exact ⟨hcmdline.counters, hcmdline.lookups⟩

theorem conclude_counters (step : Step) (result : Except Error Nat) :
    (depot.conclude step result world).counters = world.counters.record (concluded result) := by
  cases result <;> exact depot.record_counters _ hm _

theorem submit_counters (request : Request) : (depot.submit request world).2.counters =
    world.counters.recordAll ((depot.stagings request world).flatMap StageCall.outcomes ++
      [concluded (depot.submit request world).1]) := by
  rw [Metrics.Counters.recordAll_append, ← (depot.perform_accounted world hm request).counters]
  exact depot.conclude_counters _ hm _ _

theorem submit_lookups (request : Request) : (depot.submit request world).2.lookups.length =
    world.lookups.length + (depot.stagings request world).length := by
  simp only [submit, (depot.conclude_untouched _ _ _).lookups,
    (depot.perform_accounted world hm request).length_lookups]

end

/-- Whether a submission ends after the tool has been called. -/
def reachesTool : Except Error Nat → Bool
  | .ok _ | .error (.tool _) | .error (.protocol ..) => true
  | .error (.request _) | .error (.staging ..) => false

theorem reachesTool_readReply (answer : Except ToolFailure ToolOutput) :
    reachesTool (readReply answer).2 := by
  cases answer with
  | error failure => rfl
  | ok reply =>
    rw [readReply]
    split
    · rw [readId]
      cases IdLine.read reply.output <;> rfl
    · rfl

/-- The tool has been called when the result says so. -/
theorem perform_calls (request : Request) : (depot.perform request world).2.invocations.length =
    world.invocations.length +
      if reachesTool (depot.perform request world).1.2 then 1 else 0 := by
  have hseed := depot.stageSeed_invocations world request.seed
  have hperformed := depot.perform_performed request world
  generalize depot.perform request world = ending at hperformed ⊢
  cases hperformed with
  | blank _ => rfl
  | seedFailed _ he =>
    obtain ⟨_, _, _, _, rfl⟩ := stageSeed_eq_error he
    rw [he] at hseed
    exact congrArg List.length hseed
  | @cmdlineFailed seedPath seeded after error _ he he' =>
    have hcmdline := depot.stageCmdline_invocations seeded request.cmdline
    obtain ⟨_, rfl⟩ := stageCmdline_eq_error he'
    rw [he] at hseed
    rw [he'] at hcmdline
    exact congrArg List.length (hcmdline.trans hseed)
  | @called seedPath seeded moment cmdlineFile _ he he' =>
    have hcmdline := depot.stageCmdline_invocations seeded request.cmdline
    rw [he] at hseed
    rw [he'] at hcmdline
    rw [if_pos (reachesTool_readReply _), callTool, List.length_append, hcmdline.trans hseed]
    rfl

theorem submit_calls (request : Request) : (depot.submit request world).2.invocations.length =
    world.invocations.length +
      [(depot.submit request world).1].countP reachesTool := by
  rw [List.countP_singleton]
  simp only [submit, conclude_invocations]
  exact depot.perform_calls world request

/-! ## Submissions of parts

They are refused before anything is staged, or go on as submissions. -/

section
variable (appName cmdline : Text) (content : Option Bytes) (path : Option Text)

theorem submitParts_counters (hm : depot.metered) :
    (depot.submitParts appName cmdline content path world).2.counters =
      world.counters.recordAll
        ((depot.partsStagings appName cmdline content path world).flatMap StageCall.outcomes ++
          [concluded (depot.submitParts appName cmdline content path world).1]) := by
  rw [submitParts, partsStagings]
  cases Seed.ofParts content path with
  | ok seed => exact depot.submit_counters world hm _
  | error fault => exact depot.conclude_counters world hm _ _

theorem submitParts_lookups (hm : depot.metered) :
    (depot.submitParts appName cmdline content path world).2.lookups.length =
      world.lookups.length + (depot.partsStagings appName cmdline content path world).length := by
  rw [submitParts, partsStagings]
  cases Seed.ofParts content path with
  | ok seed => exact depot.submit_lookups world hm _
  | error fault =>
    rw [(depot.conclude_untouched world _ _).lookups]
    rfl

theorem submitParts_calls :
    (depot.submitParts appName cmdline content path world).2.invocations.length =
      world.invocations.length +
        [(depot.submitParts appName cmdline content path world).1].countP reachesTool := by
  rw [submitParts]
  cases Seed.ofParts content path with
  | ok seed => exact depot.submit_calls world _
  | error fault =>
    rw [(depot.conclude_untouched world _ _).invocations]
    rfl

end

end Depot

/-! ## Calls and sessions -/

namespace Turn
variable (turn : Turn) (world : World)

theorem take_counters (hm : turn.depot.metered) :
    (turn.take world).counters = world.counters.recordAll (turn.outcomes world) := by
  obtain ⟨depot, call⟩ := turn
  cases call with
  | stage label content => exact (depot.stage_accounted world hm label content).counters
  | locate label fingerprint => exact depot.resolve_counters world hm _
  | resolve filename => exact depot.resolve_counters world hm filename
  | downloadPath filename => exact depot.resolve_counters world hm filename
  | submit request =>
    simp only [outcomes, bareLookups, List.map_nil, List.append_nil]
    exact depot.submit_counters world hm request
  | submitParts appName cmdline content path =>
    simp only [outcomes, bareLookups, List.map_nil, List.append_nil]
    exact depot.submitParts_counters world appName cmdline content path hm

theorem take_lookups (hm : turn.depot.metered) : (turn.take world).lookups.length =
    world.lookups.length + (turn.stagings world).length + (turn.bareLookups world).length := by
  have hone (filename : Text) :
      (turn.depot.resolve filename world).2.lookups.length = world.lookups.length + 1 := by
    rw [turn.depot.resolve_lookups, List.length_append, List.length_singleton]
  obtain ⟨depot, call⟩ := turn
  cases call with
  | stage label content => exact (depot.stage_accounted world hm label content).length_lookups
  | locate label fingerprint => exact hone _
  | resolve filename => exact hone filename
  | downloadPath filename => exact hone filename
  | submit request => exact depot.submit_lookups world hm request
  | submitParts appName cmdline content path =>
    exact depot.submitParts_lookups world appName cmdline content path hm

theorem take_calls : (turn.take world).invocations.length =
    world.invocations.length + (turn.submissions world).countP Depot.reachesTool := by
  obtain ⟨depot, call⟩ := turn
  cases call with
  | stage label content =>
    exact congrArg List.length (depot.stage_invocations world label content)
  | locate label fingerprint =>
    exact congrArg List.length (depot.resolve_invocations world _)
  | resolve filename => exact congrArg List.length (depot.resolve_invocations world _)
  | downloadPath filename => exact congrArg List.length (depot.resolve_invocations world _)
  | submit request => exact depot.submit_calls world request
  | submitParts appName cmdline content path =>
    exact depot.submitParts_calls world appName cmdline content path

end Turn
end WorkDepot
