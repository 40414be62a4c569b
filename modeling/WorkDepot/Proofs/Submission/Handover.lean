import WorkDepot.Proofs.Session

/-! # What the tool is shown

A submission that calls the tool has staged the command line just before, and the seed before that
unless it was given as a path. Since every later call keeps the files, what the tool has been shown
stays there for the rest of the session, whatever later submissions are given and wherever the
oracles place it.
-/
namespace WorkDepot.Depot
open Submission
variable {depot : Depot} {request : Request} {world : World} {invocation : Invocation}

/-- What the request has is what can be read at the paths. -/
structure Holds (request : Request) (seedPath cmdlinePath : Text) (files : FileSystem) : Prop where
  seed : ∀ content, request.seed = .inline content → files.read seedPath = .ok content
  cmdline : files.read cmdlinePath = .ok (Text.encode request.cmdline)

theorem Holds.mono {seedPath cmdlinePath : Text} {files later : FileSystem}
    (h : Holds request seedPath cmdlinePath files) (hle : files ≤ later) :
    Holds request seedPath cmdlinePath later where
  seed content hs := FileSystem.read_mono hle (h.seed content hs)
  cmdline := FileSystem.read_mono hle h.cmdline

/-- A submission that adds to the calls of the tool has staged both artifacts before. -/
theorem called_of_invocations
    (h : (depot.submit request world).2.invocations = world.invocations ++ [invocation]) :
    ∃ seedPath seeded cmdlineFile moment,
      depot.stageSeed request.seed world = (.ok seedPath, seeded) ∧
      depot.stageCmdline request.cmdline seeded = (.ok cmdlineFile, moment) ∧
      invocation = ⟨request.appName, seedPath, cmdlineFile⟩ ∧
      depot.perform request world =
        (readReply (depot.callTool invocation moment).1, (depot.callTool invocation moment).2) := by
  have hcalls : (depot.perform request world).2.invocations =
      world.invocations ++ [invocation] := by
    simpa only [submit, conclude_invocations] using h
  have hnone : world.invocations ≠ world.invocations ++ [invocation] := by simp
  have hseed := depot.stageSeed_invocations world request.seed
  have hperformed := depot.perform_performed request world
  generalize depot.perform request world = ending at hperformed hcalls ⊢
  cases hperformed with
  | blank _ => exact absurd hcalls hnone
  | seedFailed _ he =>
    rw [he] at hseed
    exact absurd (hseed.symm.trans hcalls) hnone
  | @cmdlineFailed seedPath seeded after error _ he he' =>
    have hcmdline := depot.stageCmdline_invocations seeded request.cmdline
    rw [he] at hseed
    rw [he'] at hcmdline
    exact absurd ((hcmdline.trans hseed).symm.trans hcalls) hnone
  | @called seedPath seeded moment cmdlineFile _ he he' =>
    have hcmdline := depot.stageCmdline_invocations seeded request.cmdline
    rw [he] at hseed
    rw [he'] at hcmdline
    have hshown : moment.invocations ++ [⟨request.appName, seedPath, cmdlineFile⟩] =
        world.invocations ++ [invocation] := hcalls
    rw [hcmdline.trans hseed, List.append_cancel_left_eq, List.singleton_inj] at hshown
    subst hshown
    exact ⟨seedPath, seeded, cmdlineFile, moment, he, he', rfl, rfl⟩

/-- The seed is staged as the request has it, or is a path that is passed on. -/
theorem stageSeed_shown {seedPath : Text} {seeded : World}
    (h : depot.stageSeed request.seed world = (.ok seedPath, seeded)) :
    (∀ content, request.seed = .inline content → seeded.files.read seedPath = .ok content) ∧
      ∀ path, request.seed = .staged path → seedPath = path ∧ seeded = world := by
  cases hseed : request.seed with
  | inline content =>
    rw [hseed] at h
    obtain ⟨staged, hstage, rfl⟩ := stageArtifact_eq_ok h
    have hread := depot.stage_read Artifact.seed.label content world (congrArg Prod.fst hstage)
    rw [hstage] at hread
    constructor
    · rintro _ ⟨⟩
      exact hread
    · rintro _ ⟨⟩
  | staged path =>
    rw [hseed] at h
    cases h
    constructor
    · rintro _ ⟨⟩
    · rintro _ ⟨⟩
      exact ⟨rfl, rfl⟩

/-- The tool is called once what it is shown is there, and that is there ever after. -/
theorem invocation_kept (start : World) (earlier : List Turn) (depot : Depot) (request : Request)
    (invocation : Invocation) (later : List Turn)
    (hk : ∀ turn ∈ ⟨depot, .submit request⟩ :: later, turn.depot.KeepsFiles)
    (hcall : (depot.submit request (session earlier start)).2.invocations =
      (session earlier start).invocations ++ [invocation]) :
    let world := session earlier start
    let seeded := (depot.stageSeed request.seed world).2
    let (result, moment) :=
      depot.stage Artifact.cmdline.label (Text.encode request.cmdline) seeded
    let (answer, replied) := depot.callTool invocation moment
    let last := session (earlier ++ ⟨depot, .submit request⟩ :: later) start
    depot.perform request world = (readReply answer, replied) ∧
      ∃ staged, result = .ok staged ∧
        Path.fileName? staged.path = some invocation.cmdlineFile ∧
        Holds request invocation.seedPath staged.path moment.files ∧
        Holds request invocation.seedPath staged.path last.files ∧
        ∀ path, request.seed = .staged path → invocation.seedPath = path ∧ seeded = world := by
  intro world seeded
  have hdepot : depot.KeepsFiles := hk _ List.mem_cons_self
  obtain ⟨seedPath, seeded', cmdlineFile, moment, hseed, hcmdline, rfl, hperform⟩ :=
    called_of_invocations hcall
  obtain ⟨staged, hstage, hname⟩ := stageCmdline_eq_ok hcmdline
  have hseeded : seeded = seeded' := congrArg Prod.snd hseed
  obtain ⟨hinline, hpassed⟩ := stageSeed_shown hseed
  have hread := depot.stage_read Artifact.cmdline.label (Text.encode request.cmdline) seeded'
    (congrArg Prod.fst hstage)
  have hkept := stage_le hdepot seeded' Artifact.cmdline.label (Text.encode request.cmdline)
  rw [hstage] at hread hkept
  have hholds : Holds request seedPath staged.path moment.files :=
    ⟨fun content hs => FileSystem.read_mono hkept (hinline content hs), hread⟩
  have hcalled := callTool_le hdepot moment ⟨request.appName, seedPath, cmdlineFile⟩
  have hlater := session_le (fun turn ht => hk turn (List.mem_cons_of_mem _ ht))
    (depot.submit request world).2
  have hlast : moment.files ≤
      (session (earlier ++ ⟨depot, .submit request⟩ :: later) start).files := by
    rw [session_append]
    refine le_trans ?_ hlater
    rw [submit, conclude_files, hperform]
    exact hcalled
  rw [hseeded, hstage]
  exact ⟨hperform, staged, rfl, hname, hholds, hholds.mono hlast, hpassed⟩

/-- Seed and command line may share one file, and a later submission of another seed that is placed
there does not change it. -/
theorem invocation_kept_shared :
    let depot : Depot :=
      { oracle := .fixed "/d/a".toList, fingerprinter := .constant [], tool := .created 7 }
    let request : Request := ⟨"app".toList, "run".toList, .inline (Text.encode "run".toList)⟩
    let other : Request := ⟨"app".toList, "run".toList, .inline [0]⟩
    let start : World := { files := .empty }
    let invocation : Invocation := ⟨"app".toList, "/d/a".toList, "a".toList⟩
    (depot.submit request start).2.invocations = [invocation] ∧
      (session [⟨depot, .submit request⟩, ⟨depot, .submit other⟩] start).files.read "/d/a".toList =
        .ok (Text.encode "run".toList) := by
  intro depot request other start invocation
  have hfixed : depot.KeepsFiles := ⟨fun _ _ _ => le_rfl, fun _ _ _ => le_rfl⟩
  have hk : ∀ turn ∈ [⟨depot, .submit request⟩, ⟨depot, .submit other⟩],
      Depot.KeepsFiles (Turn.depot turn) := by
    intro turn ht
    simp only [List.mem_cons, List.not_mem_nil, or_false] at ht
    rcases ht with rfl | rfl <;> exact hfixed
  have hcall : (depot.submit request start).2.invocations = [invocation] := by decide +kernel
  obtain ⟨_, staged, _, _, _, hlast, _⟩ :=
    invocation_kept start [] depot request invocation [⟨depot, .submit other⟩] hk hcall
  exact ⟨hcall, hlast.seed _ rfl⟩

end WorkDepot.Depot
