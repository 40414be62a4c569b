import WorkDepot.Proofs.Submission.Perform
import WorkDepot.Proofs.Text.Cut

/-! # Refused requests

A request is refused for its seed when both forms of it are given or neither is, and otherwise for a
blank application. It is refused before any work: what a depot works with is as it was, and only the
refusal is counted and reported. Refusals are the failures that are the caller's, and no others are.
-/
namespace WorkDepot

/-- Between the worlds no file has been touched, nothing has been looked up or staged, and the tool
has not been called. -/
structure World.Untouched (before after : World) : Prop where
  files : after.files = before.files
  lookups : after.lookups = before.lookups
  invocations : after.invocations = before.invocations
  lookupCounts : after.counters.lookups = before.counters.lookups
  stagedCounts : after.counters.staged = before.counters.staged

namespace Submission

/-- A part of a request counts as given when it is there and is not empty. -/
def Given {α : Type} (part : Option (List α)) : Prop := ∃ whole, part = some whole ∧ whole ≠ []

theorem filter_eq_none_iff {α : Type} {part : Option (List α)} :
    part.filter (!·.isEmpty) = none ↔ ¬ Given part := by
  cases part <;> simp [Given]

theorem given_of_filter {α : Type} {part : Option (List α)} {whole : List α}
    (h : part.filter (!·.isEmpty) = some whole) : Given part := by
  obtain ⟨hp, hne⟩ := Option.filter_eq_some_iff.mp h
  exact ⟨whole, hp, by simpa using hne⟩

theorem ofParts_cases (content : Option Bytes) (path : Option Text) :
    (Given content ∧ Given path ∧ Seed.ofParts content path = .error .bothSeeds) ∨
      (¬ Given content ∧ ¬ Given path ∧ Seed.ofParts content path = .error .noSeed) ∨
      ¬ (Given content ↔ Given path) ∧ ∃ seed, Seed.ofParts content path = .ok seed := by
  rw [Seed.ofParts]
  split
  · next hc hp => exact .inl ⟨given_of_filter hc, given_of_filter hp, rfl⟩
  · next hc hp =>
    exact .inr (.inl ⟨filter_eq_none_iff.mp hc, filter_eq_none_iff.mp hp, rfl⟩)
  · next hc hp =>
    have hnone := filter_eq_none_iff.mp hp
    exact .inr (.inr ⟨fun h => hnone (h.mp (given_of_filter hc)), _, rfl⟩)
  · next hc hp =>
    have hnone := filter_eq_none_iff.mp hc
    exact .inr (.inr ⟨fun h => hnone (h.mpr (given_of_filter hp)), _, rfl⟩)

theorem isCallers_kind_iff (error : Error) :
    error.kind.isCallers ↔ ∃ fault, error = .request fault := by
  rw [Kind.isCallers, decide_eq_true_iff]
  cases error with
  | request fault => simp [Error.kind]
  | staging artifact cause => cases cause <;> simp [Error.kind]
  | tool cause => simp [Error.kind]
  | protocol output violation => simp [Error.kind]

end Submission

namespace Depot
open Submission
variable (depot : Depot) (request : Request) (world : World)

theorem conclude_untouched (step : Step) (result : Except Error Nat) :
    world.Untouched (depot.conclude step result world) := by
  cases result <;>
  · rw [conclude, record]
    split <;> exact ⟨rfl, rfl, rfl, rfl, rfl⟩

/-! ## The shapes of failures -/

variable {depot request world} in
theorem stageArtifact_eq_error {artifact : Artifact} {content : Bytes} {error : Error}
    {after : World} (h : depot.stageArtifact artifact content world = (.error error, after)) :
    ∃ cause, depot.stage artifact.label content world = (.error cause, after) ∧
      error = .staging artifact cause := by
  rw [stageArtifact] at h
  split at h
  · cases h
  · next cause after' hstage =>
    cases h
    exact ⟨cause, hstage, rfl⟩

variable {depot request world} in
theorem stageSeed_eq_error {seed : Seed} {error : Error} {after : World}
    (h : depot.stageSeed seed world = (.error error, after)) :
    ∃ content cause, seed = .inline content ∧
      depot.stage Artifact.seed.label content world = (.error cause, after) ∧
      error = .staging .seed cause := by
  cases seed with
  | inline content =>
    obtain ⟨cause, hstage, he⟩ := stageArtifact_eq_error h
    exact ⟨content, cause, rfl, hstage, he⟩
  | staged path => cases h

variable {depot request world} in
theorem stageCmdline_eq_error {cmdline : Text} {error : Error} {after : World}
    (h : depot.stageCmdline cmdline world = (.error error, after)) :
    ∃ cause, error = .staging .cmdline cause := by
  rw [stageCmdline] at h
  split at h
  · next hartifact =>
    obtain ⟨cause, _, he⟩ := stageArtifact_eq_error hartifact
    cases h
    exact ⟨cause, he⟩
  · split at h
    · cases h
    · cases h
      exact ⟨_, rfl⟩

theorem readReply_ne_request (answer : Except ToolFailure ToolOutput) (fault : RequestFault) :
    (readReply answer).2 ≠ .error (.request fault) := by
  cases answer with
  | error failure => simp [readReply]
  | ok reply =>
    rw [readReply]
    split
    · rw [readId]
      cases IdLine.read reply.output <;> simp [Except.mapError]
    · simp

theorem perform_eq_request_iff (fault : RequestFault) :
    (depot.perform request world).1.2 = .error (.request fault) ↔
      fault = .blankApplication ∧ Text.isBlank request.appName := by
  have hperformed := depot.perform_performed request world
  generalize depot.perform request world = ending at hperformed
  cases hperformed with
  | blank hblank => simp [hblank, eq_comm]
  | seedFailed hblank hseed =>
    obtain ⟨content, cause, _, _, rfl⟩ := stageSeed_eq_error hseed
    simp [hblank]
  | cmdlineFailed hblank _ hcmdline =>
    obtain ⟨cause, rfl⟩ := stageCmdline_eq_error hcmdline
    simp [hblank]
  | called hblank _ _ => simp [hblank, readReply_ne_request]

/-- A submission without an application does nothing before it is concluded. -/
theorem perform_world_of_blank (h : Text.isBlank request.appName) :
    (depot.perform request world).2 = world := by
  simp [perform, h]

/-! ## Refusal -/

/-- When a request by parts is refused, for which of its fields, and that nothing has been done. -/
structure Vetted (appName : Text) (content : Option Bytes) (path : Option Text)
    (result : Except Error Nat) (before after : World) : Prop where
  refused_iff : (∃ fault, result = .error (.request fault)) ↔
    Given content ∧ Given path ∨ ¬ Given content ∧ ¬ Given path ∨ Text.trim appName = []
  both : Given content → Given path → result = .error (.request .bothSeeds)
  neither : ¬ Given content → ¬ Given path → result = .error (.request .noSeed)
  field : ∀ fault, result = .error (.request fault) →
    (Given content ↔ Given path) ∧ fault.field = "seed".toList ∨
      ¬ (Given content ↔ Given path) ∧ fault.field = "app_name".toList
  untouched : ∀ fault, result = .error (.request fault) → before.Untouched after

theorem vetted_of_both {appName : Text} {content : Option Bytes} {path : Option Text}
    {after : World} (hc : Given content) (hp : Given path) (huntouched : world.Untouched after) :
    Vetted appName content path (.error (.request .bothSeeds)) world after where
  refused_iff := ⟨fun _ => .inl ⟨hc, hp⟩, fun _ => ⟨.bothSeeds, rfl⟩⟩
  both _ _ := rfl
  neither hc' _ := absurd hc hc'
  field := by
    rintro _ ⟨⟩
    exact .inl ⟨iff_of_true hc hp, rfl⟩
  untouched _ _ := huntouched

theorem vetted_of_neither {appName : Text} {content : Option Bytes} {path : Option Text}
    {after : World} (hc : ¬ Given content) (hp : ¬ Given path)
    (huntouched : world.Untouched after) :
    Vetted appName content path (.error (.request .noSeed)) world after where
  refused_iff := ⟨fun _ => .inr (.inl ⟨hc, hp⟩), fun _ => ⟨.noSeed, rfl⟩⟩
  both hc' _ := absurd hc' hc
  neither _ _ := rfl
  field := by
    rintro _ ⟨⟩
    exact .inl ⟨iff_of_false hc hp, rfl⟩
  untouched _ _ := huntouched

/-- With one form of the seed, a request by parts is the request that has this seed. -/
theorem vetted_of_one {content : Option Bytes} {path : Option Text}
    (hone : ¬ (Given content ↔ Given path)) :
    Vetted request.appName content path (depot.submit request world).1 world
      (depot.submit request world).2 where
  refused_iff := by
    simp only [submit, perform_eq_request_iff, exists_eq_left, Text.trim_eq_nil_iff]
    tauto
  both hc hp := absurd (iff_of_true hc hp) hone
  neither hc hp := absurd (iff_of_false hc hp) hone
  field := by
    intro fault hf
    obtain ⟨rfl, _⟩ := (depot.perform_eq_request_iff request world fault).mp hf
    exact .inr ⟨hone, rfl⟩
  untouched := by
    intro fault hf
    obtain ⟨_, hblank⟩ := (depot.perform_eq_request_iff request world fault).mp hf
    simp only [submit, depot.perform_world_of_blank request world hblank]
    exact depot.conclude_untouched world _ _

/-- Refusals are for the seed first and for the application otherwise, come before any work, and
alone of all failures are the caller's. -/
theorem submitParts_vetted (appName cmdline : Text) (content : Option Bytes) (path : Option Text) :
    let outcome := depot.submitParts appName cmdline content path world
    Vetted appName content path outcome.1 world outcome.2 ∧
      RequestFault.bothSeeds.reason ≠ RequestFault.noSeed.reason ∧
      ∀ error, outcome.1 = .error error ∨ (depot.submit request world).1 = .error error →
        (error.kind.isCallers ↔ ∃ fault, error = .request fault) := by
  refine ⟨?_, by decide, fun error _ => isCallers_kind_iff error⟩
  rw [submitParts]
  rcases ofParts_cases content path with ⟨hc, hp, he⟩ | ⟨hc, hp, he⟩ | ⟨hone, seed, he⟩
  · simp only [he]
    exact vetted_of_both world hc hp (depot.conclude_untouched world _ _)
  · simp only [he]
    exact vetted_of_neither world hc hp (depot.conclude_untouched world _ _)
  · simp only [he]
    exact depot.vetted_of_one ⟨appName, cmdline, seed⟩ world hone

end Depot
end WorkDepot
