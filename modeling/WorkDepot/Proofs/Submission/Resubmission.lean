import WorkDepot.Proofs.Metrics.Ledger
import WorkDepot.Proofs.Submission.Course

/-! # Submitting a request again

Once a request has come to the tool, what it has is staged for good where a steadfast oracle places
it. So later submissions of the request find it there, whatever has been submitted between: they
call the tool again, as before, and leave the files as the oracle leaves them.
-/
namespace WorkDepot

namespace Placement.Oracle

/-- The oracle keeps the files that are there, and says again what it has said of a name, whatever
it has been asked since, as long as the files that it has left are kept. -/
structure Steadfast (oracle : Oracle) : Prop where
  keeps : ∀ earlier files filename, files ≤ (oracle.ask earlier files filename).files
  again : ∀ earlier files filename answer, (oracle.ask earlier files filename).answer = .ok answer →
    ∀ since later, (oracle.ask earlier files filename).files ≤ later →
      (oracle.ask since later filename).answer = .ok answer

variable {oracle : Oracle}

theorem Steadfast.of_answer {place : Text → Except Failure Text}
    (hk : ∀ earlier files filename, files ≤ (oracle.ask earlier files filename).files)
    (ha : ∀ earlier files filename, (oracle.ask earlier files filename).answer = place filename) :
    oracle.Steadfast where
  keeps := hk
  again earlier files filename answer h since later _ := by
    rw [ha] at h ⊢
    exact h

/-- The files as the oracle leaves them when it is asked for names, one after the other. -/
def filesAsked (oracle : Oracle) (earlier : List Text) (files : FileSystem) :
    (names : List Text) → FileSystem
  | [] => files
  | name :: names =>
    oracle.filesAsked (earlier ++ [name]) (oracle.ask earlier files name).files names

theorem filesAsked_append (earlier : List Text) (files : FileSystem) (first second : List Text) :
    oracle.filesAsked earlier files (first ++ second) =
      oracle.filesAsked (earlier ++ first) (oracle.filesAsked earlier files first) second := by
  induction first generalizing earlier files with
  | nil => simp [filesAsked]
  | cons name first ih =>
    simp only [List.cons_append, filesAsked, ih, List.append_assoc, List.nil_append]

/-- What every question does to the files, they do together. -/
theorem filesAsked_of_ask (relates : FileSystem → FileSystem → Prop)
    (hrefl : ∀ files, relates files files)
    (htrans : ∀ before middle after, relates before middle → relates middle after →
      relates before after)
    (hask : ∀ earlier files filename, relates files (oracle.ask earlier files filename).files)
    (earlier : List Text) (files : FileSystem) (names : List Text) :
    relates files (oracle.filesAsked earlier files names) := by
  induction names generalizing earlier files with
  | nil => exact hrefl files
  | cons name names ih => exact htrans _ _ _ (hask earlier files name) (ih _ _)

end Placement.Oracle

namespace Depot
open Submission Placement

/-- The oracle is steadfast, the tool leaves the files as they are, and the disk does not fail. -/
structure Dependable (depot : Depot) : Prop where
  oracle : depot.oracle.Steadfast
  tool : ∀ earlier files invocation, (depot.tool.call earlier files invocation).files = files
  disk : depot.disk = .sound

theorem Dependable.keepsFiles {depot : Depot} (h : depot.Dependable) : depot.KeepsFiles :=
  ⟨h.oracle.keeps, fun earlier files invocation => (h.tool earlier files invocation).ge⟩

/-- Between the worlds the stagings have been made, and each has found its content: the files are
as the oracle leaves them. -/
structure Reused (depot : Depot) (before after : World) (calls : List StageCall) : Prop where
  found : ∀ call ∈ calls, call.outcome? = some .alreadyPresent
  files : after.files =
    depot.oracle.filesAsked before.lookups before.files (calls.map StageCall.filename)
  lookups : after.lookups = before.lookups ++ calls.map StageCall.filename

/-- How a request is submitted once more after it has come to the tool. -/
structure Resubmitted (depot : Depot) (request : Request) (invocation : Invocation)
    (before : World) (result : Except Error Nat) (after : World) : Prop where
  called : after.invocations = before.invocations ++ [invocation]
  result : result =
    (readReply (depot.tool.call before.invocations after.files invocation).answer).2
  reused : depot.Reused before after (depot.stagings request before)
  unchanged : before.files ≤ after.files
  noneAdded : (∀ earlier files filename,
      FileSystem.newFiles files (depot.oracle.ask earlier files filename).files = ∅) →
    FileSystem.newFiles before.files after.files = ∅
  untouched : (∀ earlier files filename, (depot.oracle.ask earlier files filename).files = files) →
    after.files = before.files

section
variable {depot : Depot} {request : Request} {world later : World}

theorem Reused.nil : depot.Reused world world [] where
  found := by simp
  files := rfl
  lookups := (List.append_nil _).symm

theorem Reused.append {before middle after : World} {first second : List StageCall}
    (h : depot.Reused before middle first) (h' : depot.Reused middle after second) :
    depot.Reused before after (first ++ second) where
  found call hcall := (List.mem_append.mp hcall).elim (h.found call) (h'.found call)
  files := by
    rw [h'.files, h.lookups, h.files, List.map_append, Oracle.filesAsked_append]
  lookups := by rw [h'.lookups, h.lookups, List.map_append, List.append_assoc]

/-- A steadfast oracle gives the same path again. -/
theorem ask_again (hdepot : depot.Dependable) {filename path : Text}
    (h : (depot.ask filename world).1 = .ok path)
    (hle : depot.filesAsked world filename ≤ later.files) :
    (depot.ask filename later).1 = .ok path := by
  simp only [ask, Except.bind] at h ⊢
  cases hanswer : (depot.oracle.ask world.lookups world.files filename).answer with
  | error failure =>
    rw [hanswer] at h
    cases h
  | ok answer =>
    rw [hanswer] at h
    rw [hdepot.oracle.again _ _ _ _ hanswer later.lookups later.files hle]
    exact h

/-- What has been staged is found when it is staged again. -/
theorem stage_again (hdepot : depot.Dependable) {label : Text} {content : Bytes}
    {staged : Staging.Staged} {after : World}
    (h : depot.stage label content world = (.ok staged, after)) (hle : after.files ≤ later.files) :
    ∃ found again, depot.stage label content later = (.ok found, again) ∧
      found.path = staged.path ∧ depot.Reused later again [⟨depot, label, content, later⟩] := by
  have hresult := congrArg Prod.fst h
  have hasked := depot.filesAsked_le_stage label content world
  have hread := depot.stage_read label content world hresult
  rw [h] at hasked hread
  obtain ⟨_, _, hask⟩ := depot.stage_eq_ok label content world hresult
  have hask' := ask_again hdepot hask (hasked.trans hle)
  have hread' := FileSystem.read_mono
    (hle.trans (filesAsked_le hdepot.keepsFiles later (depot.filenameOf label content))) hread
  obtain ⟨hfound, hfiles⟩ := depot.stage_of_read label content later hdepot.disk hask' hread'
  refine ⟨_, _, Prod.ext hfound rfl, rfl, ?_, hfiles, depot.stage_lookups later label content⟩
  intro call hcall
  rw [List.mem_singleton.mp hcall, StageCall.outcome?, StageCall.result, hfound]
  rfl

theorem stageSeed_again (hdepot : depot.Dependable) {seed : Seed} {seedPath : Text} {after : World}
    (h : depot.stageSeed seed world = (.ok seedPath, after)) (hle : after.files ≤ later.files) :
    ∃ again, depot.stageSeed seed later = (.ok seedPath, again) ∧
      depot.Reused later again (depot.seedStagings seed later) := by
  cases seed with
  | inline content =>
    obtain ⟨staged, hstage, rfl⟩ := stageArtifact_eq_ok h
    obtain ⟨found, again, hagain, hpath, hreused⟩ := stage_again hdepot hstage hle
    refine ⟨again, ?_, hreused⟩
    rw [stageSeed, stageArtifact_of_staged hagain, hpath]
  | staged path =>
    cases h
    exact ⟨later, rfl, .nil⟩

theorem stageCmdline_again (hdepot : depot.Dependable) {cmdline : Text} {name : Name}
    {after : World} (h : depot.stageCmdline cmdline world = (.ok name, after))
    (hle : after.files ≤ later.files) :
    ∃ again, depot.stageCmdline cmdline later = (.ok name, again) ∧
      depot.Reused later again [⟨depot, "cmdline".toList, Text.encode cmdline, later⟩] := by
  obtain ⟨staged, hstage, hname⟩ := stageCmdline_eq_ok h
  obtain ⟨found, again, hagain, hpath, hreused⟩ := stage_again hdepot hstage hle
  obtain ⟨name', hname', hcmdline⟩ := stageCmdline_of_staged hagain
  rw [hpath, hname, Option.some_inj] at hname'
  subst hname'
  exact ⟨again, hcmdline, hreused⟩

/-- A submission that has come to the tool is of a named application. -/
theorem named_of_invocations {invocation : Invocation}
    (h : (depot.submit request world).2.invocations = world.invocations ++ [invocation]) :
    Text.trim request.appName ≠ [] := by
  intro hunnamed
  have hafter : world.Untouched (depot.submit request world).2 := (submit_of_unnamed hunnamed).2
  exact absurd (hafter.invocations.symm.trans h) (ne_append_singleton _ _)

/-- The same artifacts are found in the same places when all is kept. -/
theorem perform_again (hdepot : depot.Dependable) {invocation : Invocation}
    (h : (depot.submit request world).2.invocations = world.invocations ++ [invocation])
    (hle : (depot.submit request world).2.files ≤ later.files) :
    ∃ moment, depot.perform request later =
        (readReply (depot.callTool invocation moment).1, (depot.callTool invocation moment).2) ∧
      moment.invocations = later.invocations ∧
      depot.Reused later moment (depot.stagings request later) := by
  have hnamed := named_of_invocations h
  obtain ⟨seedPath, seeded, cmdlineFile, moment, hseed, hcmdline, rfl, hperform⟩ :=
    called_of_invocations h
  have hmoment : moment.files ≤ later.files := by
    refine le_trans ?_ hle
    rw [submit, conclude_files, hperform]
    exact callTool_le hdepot.keepsFiles moment _
  have hseeded : seeded.files ≤ moment.files := by
    have hcmdlineLe := stageCmdline_le hdepot.keepsFiles seeded request.cmdline
    rw [hcmdline] at hcmdlineLe
    exact hcmdlineLe
  obtain ⟨seeded', hseed', hreused⟩ := stageSeed_again hdepot hseed (hseeded.trans hmoment)
  have hlater : later.files ≤ seeded'.files := by
    have hseedLe := stageSeed_le hdepot.keepsFiles later request.seed
    rw [hseed'] at hseedLe
    exact hseedLe
  obtain ⟨moment', hcmdline', hreused'⟩ :=
    stageCmdline_again hdepot hcmdline (hmoment.trans hlater)
  have hinvocations := depot.stageCmdline_invocations seeded' request.cmdline
  have hinvocations' := depot.stageSeed_invocations later request.seed
  rw [hcmdline'] at hinvocations
  rw [hseed'] at hinvocations'
  refine ⟨moment', perform_of_staged hnamed hseed' hcmdline',
    hinvocations.trans hinvocations', ?_⟩
  rw [stagings, if_neg (not_isBlank hnamed), hseed']
  exact hreused.append hreused'

/-- Between two submissions of a request anything may be submitted, staged or looked up. -/
theorem submit_resubmitted (start : World) (earlier : List Turn) (depot : Depot)
    (request : Request) (invocation : Invocation) (between : List Turn)
    (hdepot : depot.Dependable) (hbetween : ∀ turn ∈ between, turn.depot.KeepsFiles)
    (hcall : (depot.submit request (session earlier start)).2.invocations =
      (session earlier start).invocations ++ [invocation]) :
    let later := session (earlier ++ ⟨depot, .submit request⟩ :: between) start
    Resubmitted depot request invocation later (depot.submit request later).1
      (depot.submit request later).2 := by
  intro later
  have hle : (depot.submit request (session earlier start)).2.files ≤ later.files := by
    have hkept := session_le hbetween (depot.submit request (session earlier start)).2
    simp only [later, session_append]
    exact hkept
  obtain ⟨moment, hperform, hinvocations, hreused⟩ := perform_again hdepot hcall hle
  obtain ⟨hresult, hafter⟩ := submit_of_perform hperform
  have hfiles : (depot.submit request later).2.files = moment.files :=
    hafter.files.trans (hdepot.tool _ _ _)
  have hasked : (depot.submit request later).2.files = depot.oracle.filesAsked later.lookups
      later.files ((depot.stagings request later).map StageCall.filename) :=
    hfiles.trans hreused.files
  exact {
    called := by
      rw [← hinvocations]
      exact hafter.invocations
    result := by
      rw [hresult, hfiles, ← hinvocations]
      rfl
    reused := ⟨hreused.found, hasked, hafter.lookups.trans hreused.lookups⟩
    unchanged := submit_le hdepot.keepsFiles later request
    noneAdded := by
      intro hnone
      rw [hasked]
      simp only [FileSystem.newFiles_eq_empty_iff] at hnone ⊢
      exact Oracle.filesAsked_of_ask
        (fun before after => ∀ location, after.IsFile location → before.IsFile location)
        (fun _ _ hfile => hfile)
        (fun _ _ _ hfirst hsecond location hfile => hfirst location (hsecond location hfile))
        hnone _ _ _
    untouched := by
      intro hsame
      rw [hasked]
      exact Oracle.filesAsked_of_ask (fun before after => after = before) (fun _ => rfl)
        (fun _ _ _ hfirst hsecond => hsecond.trans hfirst) hsame _ _ _ }

end

/-- The name of each artifact is its place, and the digest is the same for all content. The seed has
been staged before the first submission. Between the two, other content comes to both places and is
refused there. -/
theorem submit_resubmitted_contended :
    let oracle : Oracle :=
      { ask := fun _ files filename => { answer := .ok ("/d/".toList ++ filename), files } }
    let depot : Depot := { oracle, fingerprinter := .constant [], tool := .created 7 }
    let request : Request := ⟨"app".toList, "run".toList, .inline [0]⟩
    let other : Request := ⟨"app".toList, "run".toList, .inline [1]⟩
    let invocation : Invocation := ⟨"app".toList, "/d/input_".toList, "cmdline_".toList⟩
    let earlier : List Turn := [⟨depot, .stage "input".toList [0]⟩]
    let between : List Turn := [⟨depot, .submit other⟩, ⟨depot, .stage "cmdline".toList [2]⟩]
    let start : World := { files := .empty }
    let later := session (earlier ++ ⟨depot, .submit request⟩ :: between) start
    (depot.submit request (session earlier start)).2.invocations =
        (session earlier start).invocations ++ [invocation] ∧
      (depot.submit other (depot.submit request (session earlier start)).2).1 =
        .error (.staging .seed (.conflict "input_".toList "/d/input_".toList)) ∧
      (depot.submit request later).1 = .ok 7 ∧
      (depot.submit request later).2.invocations = later.invocations ++ [invocation] ∧
      (depot.submit request later).2.files = later.files := by
  intro oracle depot request other invocation earlier between start
  dsimp only
  have hsteadfast : oracle.Steadfast :=
    .of_answer (fun _ _ _ => le_rfl) (fun _ _ filename => rfl)
  have hdepot : depot.Dependable := ⟨hsteadfast, fun _ _ _ => rfl, rfl⟩
  have hbetween : ∀ turn ∈ between, turn.depot.KeepsFiles := by
    intro turn ht
    simp only [between, List.mem_cons, List.not_mem_nil, or_false] at ht
    rcases ht with rfl | rfl <;> exact hdepot.keepsFiles
  have hcall : (depot.submit request (session earlier start)).2.invocations =
      (session earlier start).invocations ++ [invocation] := by decide +kernel
  have hagain :=
    submit_resubmitted start earlier depot request invocation between hdepot hbetween hcall
  refine ⟨hcall, by decide +kernel, ?_, hagain.called, hagain.untouched fun _ _ _ => rfl⟩
  rw [hagain.result]
  decide +kernel

end Depot
end WorkDepot
