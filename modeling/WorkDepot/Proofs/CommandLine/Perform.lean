import WorkDepot.CommandLine.Run
import WorkDepot.Proofs.Metrics.Conservation

/-! # What commands do

A command that is at fault itself is refused before any work. Every other command amounts to one
call of the depot: it yields what the call yields and leaves what the call leaves. Such a call fails
exactly when something in it does, be it a lookup, a staging or the submission.
-/
namespace WorkDepot
open Submission

namespace Turn
variable (turn : Turn) (world : World)

/-- What a turn yields, unless it fails. -/
def result? : Option CommandLine.Result :=
  match turn.call with
  | .stage label content => (turn.depot.stage label content world).1.toOption.map .staged
  | .locate label fingerprint =>
    (turn.depot.locate label fingerprint world).1.toOption.map
      (.path (Staging.filename label fingerprint))
  | .resolve filename => (turn.depot.resolve filename world).1.toOption.map (.path filename)
  | .downloadPath filename =>
    (turn.depot.downloadPath filename world).1.toOption.map (.path filename)
  | .submit request => (turn.depot.submit request world).1.toOption.map .workUnit
  | .submitParts appName cmdline content path =>
    (turn.depot.submitParts appName cmdline content path world).1.toOption.map .workUnit

/-- Something in a turn fails: a lookup, a staging, or a submission that has not been refused. -/
inductive Fails : Prop
  | lookup {failure : Placement.Failure} : .error failure ∈ turn.answers world → Fails
  | staging {call : StageCall} {error : Staging.Error} :
      call ∈ turn.stagings world → call.result = .error error → Fails
  | submission {error : Error} :
      .error error ∈ turn.submissions world → (∀ fault, error ≠ .request fault) → Fails

end Turn

/-! ## Failures of calls -/

theorem StageCall.result_of_failure {call : StageCall} {failure : Placement.Failure}
    (h : call.answer = .error failure) : call.result = .error (.oracle failure) :=
  (call.depot.stage_of_failure call.label call.content call.world h).1

/-- A lookup that is part of a staging makes it fail. -/
theorem Turn.fails_iff (turn : Turn) (world : World) : turn.Fails world ↔
    (∃ failure, .error failure ∈ turn.bareLookups world) ∨
      (∃ call ∈ turn.stagings world, ∃ error, call.result = .error error) ∨
      ∃ error, .error error ∈ turn.submissions world ∧ ∀ fault, error ≠ .request fault := by
  constructor
  · rintro (hlookup | ⟨hmem, herror⟩ | ⟨hmem, hne⟩)
    · rcases List.mem_append.mp hlookup with hmem | hmem
      · obtain ⟨call, hcall, hanswer⟩ := List.mem_map.mp hmem
        exact .inr (.inl ⟨call, hcall, _, StageCall.result_of_failure hanswer⟩)
      · exact .inl ⟨_, hmem⟩
    · exact .inr (.inl ⟨_, hmem, _, herror⟩)
    · exact .inr (.inr ⟨_, hmem, hne⟩)
  · rintro (⟨failure, hmem⟩ | ⟨call, hmem, error, herror⟩ | ⟨error, hmem, hne⟩)
    · exact .lookup (List.mem_append_right _ hmem)
    · exact .staging hmem herror
    · exact .submission hmem hne

theorem toOption_eq_none_iff {ε α : Type} {result : Except ε α} :
    result.toOption = none ↔ ∃ error, result = .error error := by
  cases result <;> simp [Except.toOption]

theorem eq_ok_of_toOption {ε α : Type} {result : Except ε α} {value : α}
    (h : result.toOption = some value) : result = .ok value := by
  cases result with
  | error error => cases h
  | ok found => exact congrArg Except.ok (Option.some.inj h)

theorem toOption_map {ε α β : Type} (answer : Except ε α) (f : α → β) :
    (answer.map f).toOption = answer.toOption.map f := by
  cases answer <;> rfl

theorem toOption_mapError {ε ε' α : Type} (answer : Except ε α) (f : ε → ε') :
    (answer.mapError f).toOption = answer.toOption := by
  cases answer <;> rfl

/-- A turn that only looks a name up fails with the lookup. -/
theorem Turn.fails_iff_of_lookup {turn : Turn} {world : World}
    {answer : Except Placement.Failure Text} (hlookups : turn.bareLookups world = [answer])
    (hstagings : turn.stagings world = []) (hsubmissions : turn.submissions world = []) :
    turn.Fails world ↔ answer.toOption = none := by
  rw [fails_iff, hlookups, hstagings, hsubmissions, toOption_eq_none_iff]
  simp [eq_comm]

namespace Depot
variable {depot : Depot} {request : Request} {world : World}

theorem resolve_result (depot : Depot) (filename : Text) (world : World) :
    (depot.resolve filename world).1 = (depot.ask filename world).1 :=
  (depot.resolve_eq world filename).1

/-- A submission in which a staging fails has failed itself. -/
theorem perform_of_staging {call : StageCall} {error : Staging.Error}
    (hcall : call ∈ depot.stagings request world) (herror : call.result = .error error) :
    ∃ error, (depot.perform request world).1.2 = .error error := by
  have hperformed := depot.perform_performed request world
  generalize depot.perform request world = ending at hperformed ⊢
  cases hperformed with
  | blank _ => exact ⟨_, rfl⟩
  | seedFailed _ _ => exact ⟨_, rfl⟩
  | cmdlineFailed _ _ _ => exact ⟨_, rfl⟩
  | called hblank hseed hcmdline =>
    -- both artifacts have been staged, so there is no such staging
    exfalso
    rw [stagings, if_neg hblank, hseed] at hcall
    rcases List.mem_append.mp hcall with hmem | hmem
    · cases hs : request.seed with
      | inline content =>
        rw [hs] at hmem hseed
        obtain rfl := List.mem_singleton.mp hmem
        obtain ⟨staged, hstage, _⟩ := stageArtifact_eq_ok hseed
        have hresult := congrArg Prod.fst hstage
        cases hresult.symm.trans herror
      | staged path => simp [hs, seedStagings] at hmem
    · obtain rfl := List.mem_singleton.mp hmem
      obtain ⟨staged, hstage, _⟩ := stageCmdline_eq_ok hcmdline
      have hresult := congrArg Prod.fst hstage
      cases hresult.symm.trans herror

theorem submit_ne_request (depot : Depot) (world : World) (hname : Text.trim request.appName ≠ [])
    (fault : RequestFault) : (depot.submit request world).1 ≠ .error (.request fault) := by
  intro h
  obtain ⟨-, hblank⟩ := (depot.perform_eq_request_iff request world fault).mp h
  exact hname (Text.trim_eq_nil_iff.mpr hblank)

/-- With a good request, a submission fails exactly when something in it does. -/
theorem submit_fails_iff (hname : Text.trim request.appName ≠ []) :
    Turn.Fails ⟨depot, .submit request⟩ world ↔
      ∃ error, (depot.submit request world).1 = .error error := by
  rw [Turn.fails_iff]
  constructor
  · rintro (⟨failure, hmem⟩ | ⟨call, hmem, error, herror⟩ | ⟨error, hmem, -⟩)
    · cases hmem
    · exact perform_of_staging hmem herror
    · exact ⟨error, (List.mem_singleton.mp hmem).symm⟩
  · rintro ⟨error, herror⟩
    refine .inr (.inr ⟨error, List.mem_singleton.mpr herror.symm, ?_⟩)
    rintro fault rfl
    exact depot.submit_ne_request world hname fault herror

/-- What a refusal leaves is the same for all depots that count. -/
theorem exists_concluded (step : Step) (error : Error) (world : World) :
    ∃ after, world.Untouched after ∧
      ∀ depot : Depot, depot.metered → depot.conclude step (.error error) world = after := by
  let event := Event.submissionFailed step error.kind error.message (error.toolOutput?.getD [])
  let counters := world.counters.record (.submissionFailed error.kind)
  refine ⟨{ world.emit event with counters }, ⟨rfl, rfl, rfl, rfl, rfl⟩, fun depot hm => ?_⟩
  rw [conclude, record, if_pos hm]
  rfl

/-- A bad request is refused for the same fault by all depots. -/
theorem submitParts_of_bad {appName : Text} {content : Option Bytes} {path : Option Text}
    (hbad : (Given content ↔ Given path) ∨ Text.trim appName = []) (cmdline : Text) :
    ∃ fault, ∀ (depot : Depot) (world : World),
      depot.submitParts appName cmdline content path world = (.error (.request fault),
        depot.conclude .validateRequest (.error (.request fault)) world) := by
  rcases ofParts_cases content path with ⟨-, -, hparts⟩ | ⟨-, -, hparts⟩ | ⟨hone, seed, hparts⟩
  · exact ⟨.bothSeeds, fun depot world => by rw [submitParts, hparts]⟩
  · exact ⟨.noSeed, fun depot world => by rw [submitParts, hparts]⟩
  · have hblank : Text.isBlank appName := Text.trim_eq_nil_iff.mp (hbad.resolve_left hone)
    refine ⟨.blankApplication, fun depot world => ?_⟩
    simp [submitParts, hparts, submit, perform, hblank]

end Depot

namespace CommandLine

/-! ## The call that a command amounts to -/

/-- What a command is refused for: a blank label, a hash with anything but hexadecimal digits or
without any, a file that cannot be read, or a bad request. -/
inductive Command.Faulty (host : Host) : Command → Prop
  | blankLabel {label source : Text} : Text.trim label = [] → Faulty host (.stage label source)
  | badHash {label hash : Text} : hash = [] ∨ (∃ c ∈ hash, ¬ isHexDigit c) →
      Faulty host (.locate label hash)
  | unreadable {command : Command} {source : Text} {cause : IoFault} :
      command.source? = some source → ¬ isStandardInput source →
      host.files.read source = .error cause → Faulty host command
  | badRequest {appName cmdline : Text} {seedFile seedPath : Option Text}
      {content : Option Bytes} : seedFile.mapM host.readSource = .ok content →
      (Submission.Given content ↔ Submission.Given seedPath) ∨ Text.trim appName = [] →
      Faulty host (.submit appName cmdline seedFile seedPath)

/-- The call of a depot that a command amounts to. -/
inductive Command.Asks (host : Host) : Command → WorkDepot.Call → Prop
  | resolve (filename : Text) : Asks host (.resolve filename) (.resolve filename)
  | downloadPath (filename : Text) : Asks host (.downloadPath filename) (.downloadPath filename)
  | stage {label source : Text} {content : Bytes} : Text.trim label ≠ [] →
      host.readSource source = .ok content → Asks host (.stage label source) (.stage label content)
  | locate {label hash : Text} : hash ≠ [] → (∀ c ∈ hash, isHexDigit c) →
      Asks host (.locate label hash) (.locate label (Text.toLowerAscii hash))
  | submit {appName cmdline : Text} {seedFile seedPath : Option Text} {content : Option Bytes}
      {seed : Seed} : seedFile.mapM host.readSource = .ok content →
      Seed.ofParts content seedPath = .ok seed → Text.trim appName ≠ [] →
      Asks host (.submit appName cmdline seedFile seedPath) (.submit ⟨appName, cmdline, seed⟩)

variable {host : Host} {command : Command} {asked : WorkDepot.Call}

theorem readSource_cases (host : Host) (source : Text) :
    (∃ content, host.readSource source = .ok content) ∨
      ¬ isStandardInput source ∧ ∃ cause, host.files.read source = .error cause := by
  rw [Host.readSource]
  split
  · exact .inl ⟨_, rfl⟩
  · next hinput =>
    cases hread : host.files.read source with
    | ok content => exact .inl ⟨content, rfl⟩
    | error cause => exact .inr ⟨hinput, cause, rfl⟩

/-- A command amounts to a call, unless it is at fault. -/
theorem Command.asks_or_faulty (host : Host) (command : Command) :
    (∃ asked, command.Asks host asked) ∨ command.Faulty host := by
  cases command with
  | resolve filename => exact .inl ⟨_, .resolve filename⟩
  | downloadPath filename => exact .inl ⟨_, .downloadPath filename⟩
  | stage label source =>
    by_cases hlabel : Text.trim label = []
    · exact .inr (.blankLabel hlabel)
    rcases readSource_cases host source with ⟨content, hread⟩ | ⟨hinput, cause, hread⟩
    · exact .inl ⟨_, .stage hlabel hread⟩
    · exact .inr (.unreadable rfl hinput hread)
  | locate label hash =>
    by_cases hempty : hash = []
    · exact .inr (.badHash (.inl hempty))
    by_cases hdigits : ∀ c ∈ hash, isHexDigit c
    · exact .inl ⟨_, .locate hempty hdigits⟩
    · exact .inr (.badHash (.inr (by simpa using hdigits)))
  | submit appName cmdline seedFile seedPath =>
    have hseed (content : Option Bytes) (hread : seedFile.mapM host.readSource = .ok content) :
        (∃ asked, Asks host (.submit appName cmdline seedFile seedPath) asked) ∨
          Faulty host (.submit appName cmdline seedFile seedPath) := by
      by_cases hname : Text.trim appName = []
      · exact .inr (.badRequest hread (.inr hname))
      rcases ofParts_cases content seedPath with ⟨hc, hp, -⟩ | ⟨hc, hp, -⟩ | ⟨-, seed, hparts⟩
      · exact .inr (.badRequest hread (.inl (iff_of_true hc hp)))
      · exact .inr (.badRequest hread (.inl (iff_of_false hc hp)))
      · exact .inl ⟨_, .submit hread hparts hname⟩
    cases seedFile with
    | none => exact hseed none rfl
    | some source =>
      rcases readSource_cases host source with ⟨content, hread⟩ | ⟨hinput, cause, hread⟩
      · exact hseed (some content) (by simp [hread])
      · exact .inr (.unreadable rfl hinput hread)

/-- Failures of a depot are not the caller's. -/
theorem not_isCallers_of_map {ε α β : Type} {answer : Except ε α} {report : ε → Text} {g : α → β}
    {complaint : Complaint}
    (h : (answer.mapError fun error => Complaint.ofFailure (report error)).map g =
      .error complaint) : ¬ complaint.isCallers := by
  cases answer with
  | ok value => cases h
  | error error =>
    cases h
    exact Bool.false_ne_true

theorem not_isCallers_of_submission {α : Type} {answer : Except Error α} {g : α → Result}
    {complaint : Complaint} (hne : ∀ fault, answer ≠ .error (.request fault))
    (h : (answer.mapError Complaint.ofSubmission).map g = .error complaint) :
    ¬ complaint.isCallers := by
  cases answer with
  | ok value => cases h
  | error error =>
    cases h
    intro hcallers
    obtain ⟨fault, rfl⟩ := (isCallers_kind_iff error).mp hcallers
    exact hne fault rfl

/-- A command that amounts to a call yields what the call yields and leaves what the call leaves,
and when it fails its caller is not at fault. -/
theorem Command.perform_of_asks (h : command.Asks host asked) (depot : Depot) (world : World) :
    (command.perform host depot world).1.toOption = Turn.result? ⟨depot, asked⟩ world ∧
      (command.perform host depot world).2 = Turn.take ⟨depot, asked⟩ world ∧
      ∀ complaint, (command.perform host depot world).1 = .error complaint →
        ¬ complaint.isCallers := by
  cases h with
  | resolve filename =>
    simp only [perform, Turn.result?, Turn.take]
    exact ⟨by rw [toOption_map, toOption_mapError], trivial, fun _ => not_isCallers_of_map⟩
  | downloadPath filename =>
    simp only [perform, Turn.result?, Turn.take]
    exact ⟨by rw [toOption_map, toOption_mapError], trivial, fun _ => not_isCallers_of_map⟩
  | stage hlabel hread =>
    rw [Ne, Text.trim_eq_nil_iff] at hlabel
    simp only [perform, Turn.result?, Turn.take, if_neg hlabel, hread]
    exact ⟨by rw [toOption_map, toOption_mapError], trivial, fun _ => not_isCallers_of_map⟩
  | @locate label hash hempty hdigits =>
    have hgood : ¬ (hash.isEmpty || !hash.all isHexDigit) := by simpa [hempty] using hdigits
    simp only [perform, Turn.result?, Turn.take, if_neg hgood]
    exact ⟨by rw [toOption_map, toOption_mapError], trivial, fun _ => not_isCallers_of_map⟩
  | submit hread hparts hname =>
    simp only [perform, Turn.result?, Turn.take, hread, Depot.submitParts, hparts]
    refine ⟨by rw [toOption_map, toOption_mapError], trivial, fun complaint => ?_⟩
    exact not_isCallers_of_submission (depot.submit_ne_request world hname)

theorem readSource_of_unreadable {source : Text} {cause : IoFault}
    (hinput : ¬ isStandardInput source) (hread : host.files.read source = .error cause) :
    ∃ text, host.readSource source = .error ⟨true, text⟩ := by
  rw [Host.readSource, if_neg hinput, hread]
  exact ⟨_, rfl⟩

/-- The call that a command amounts to yields nothing exactly when something in it fails. -/
theorem Command.fails_iff (h : command.Asks host asked) (depot : Depot) (world : World) :
    Turn.Fails ⟨depot, asked⟩ world ↔ Turn.result? ⟨depot, asked⟩ world = none := by
  cases h with
  | resolve filename =>
    rw [Turn.fails_iff_of_lookup rfl rfl rfl, ← Depot.resolve_result]
    simp only [Turn.result?, Option.map_eq_none_iff]
  | downloadPath filename =>
    rw [Turn.fails_iff_of_lookup rfl rfl rfl, ← Depot.resolve_result]
    simp only [Turn.result?, Depot.downloadPath, toOption_map, Option.map_eq_none_iff]
  | stage _ _ =>
    simp [Turn.fails_iff, Turn.bareLookups, Turn.stagings, Turn.submissions, Turn.result?,
      toOption_eq_none_iff, StageCall.result]
  | locate _ _ =>
    rw [Turn.fails_iff_of_lookup rfl rfl rfl, ← Depot.resolve_result]
    simp only [Turn.result?, Depot.locate, toOption_mapError, Option.map_eq_none_iff]
  | submit _ _ hname =>
    rw [Depot.submit_fails_iff hname]
    simp only [Turn.result?, Option.map_eq_none_iff, toOption_eq_none_iff]

/-- A command at fault is refused before any work, and in the same way by all depots that count. -/
theorem Command.perform_of_faulty (h : command.Faulty host) (world : World) :
    ∃ complaint after, complaint.isCallers ∧ world.Untouched after ∧ ∀ depot : Depot,
      depot.metered → command.perform host depot world = (.error complaint, after) := by
  have hsame : world.Untouched world := ⟨rfl, rfl, rfl, rfl, rfl⟩
  cases h with
  | blankLabel hlabel =>
    rw [Text.trim_eq_nil_iff] at hlabel
    exact ⟨_, world, rfl, hsame, fun depot _ => by simp only [perform, if_pos hlabel]; rfl⟩
  | @badHash label hash hbad =>
    have hbad : hash.isEmpty || !hash.all isHexDigit := by
      rw [Bool.or_eq_true, List.isEmpty_iff, Bool.not_eq_true', List.all_eq_false]
      exact hbad
    exact ⟨_, world, rfl, hsame, fun depot _ => by simp only [perform, if_pos hbad]; rfl⟩
  | @unreadable command source cause hsource hinput hread =>
    obtain ⟨text, hread⟩ := readSource_of_unreadable hinput hread
    cases command with
    | resolve | downloadPath | locate => cases hsource
    | stage label path =>
      obtain rfl : path = source := Option.some.inj hsource
      by_cases hlabel : Text.isBlank label
      · exact ⟨_, world, rfl, hsame, fun depot _ => by simp only [perform, if_pos hlabel]; rfl⟩
      · refine ⟨⟨true, text⟩, world, rfl, hsame, fun depot _ => ?_⟩
        simp only [perform, if_neg hlabel, hread]
    | submit appName cmdline seedFile seedPath =>
      obtain rfl : seedFile = some source := hsource
      have hread : (some source).mapM host.readSource = .error ⟨true, text⟩ := by simp [hread]
      exact ⟨_, world, rfl, hsame, fun depot _ => by simp only [perform, hread]; rfl⟩
  | @badRequest appName cmdline seedFile seedPath content hread hbad =>
    obtain ⟨fault, hparts⟩ := Depot.submitParts_of_bad hbad cmdline
    obtain ⟨after, huntouched, hafter⟩ :=
      Depot.exists_concluded .validateRequest (.request fault) world
    refine ⟨.ofSubmission (.request fault), after, rfl, huntouched, fun depot hm => ?_⟩
    simp only [perform, hread, hparts, hafter depot hm]
    rfl

end CommandLine
end WorkDepot
