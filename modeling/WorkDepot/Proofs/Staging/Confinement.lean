import WorkDepot.Proofs.Placement.Lookup

/-! # Where staging may write

Without links, everything that staging creates lies on the way of the path that the content goes to.
In a hashed layout below a project this way begins in the bucket, two levels down, so that it stays
in the project as long as the file's name is relative and does not go up further than that. Nothing
checks this: a label with a slash at the front, or with too many double dots, leads out of the
project.
-/
namespace WorkDepot
open FileSystem

/-! ## Steps that go up -/

namespace Path

/-- Whether steps never leave a place that they begin so many levels below. -/
def staysWithin : (depth : Nat) → List Step → Bool
  | _, [] => true
  | depth, .stay :: steps => staysWithin depth steps
  | 0, .up :: _ => false
  | depth + 1, .up :: steps => staysWithin depth steps
  | depth, .into _ :: steps => staysWithin (depth + 1) steps

theorem staysWithin_suffix {taken rest : List Step} (below top : Location)
    (h : staysWithin below.length (taken ++ rest)) :
    top <:+ taken.foldl placeAfter (below ++ top) := by
  induction taken generalizing below with
  | nil => exact List.suffix_append below top
  | cons step taken ih =>
    cases step with
    | stay => exact ih below h
    | up =>
      cases below with
      | nil => cases h
      | cons name below => exact ih below h
    | into name => exact ih (name :: below) h

end Path

namespace FileSystem
variable {fs : FileSystem} {path : Text} {location : Location}

/-- All that a path goes through is there when the path leads to a directory. -/
theorem directory_of_visits (hf : fs.LinkFree) (hd : fs.isDirectory path)
    (hv : Visits path location) : fs.node? location = some .directory := by
  obtain ⟨finish, hl, hfinish⟩ := isDirectory_iff.mp hd
  obtain ⟨_, left, hw⟩ := locate_eq_ok_iff.mp hl
  obtain ⟨taken, rest, hsteps, rfl⟩ := hv
  obtain ⟨middle, between, hfirst, hrest⟩ := hw.split hsteps
  rw [← hfirst.finish_eq hf]
  cases hrest with
  | arrive => exact hfinish
  | stay hd _ | up hd _ | enter hd _ _ _ _ | follow hd _ _ _ => exact hd

end FileSystem

namespace Staging
variable {before middle after : FileSystem} {path : Text} {content : Bytes} {mode : Mode}
variable {placed : Except StorageFault Placed} {location : Location}

theorem visits_of_made (hf : before.LinkFree) (hm : MadeAbove path before middle)
    (hb : before.node? location = none) (hn : middle.node? location ≠ none) :
    Visits path location := by
  rcases hm.new_node hb with hnone | ⟨_, above, ha, hl⟩
  · exact absurd hnone hn
  · rw [locate_eq_place (hm.linkFree hf) hl]
    exact (visits_place above).of_above ha

/-- What is new once a path is settled lies on its way. -/
theorem visits_of_settled (hf : before.LinkFree) (hm : MadeAbove path before middle)
    (hs : Settled middle path content mode placed after) (hb : before.node? location = none)
    (hn : after.node? location ≠ none) : Visits path location := by
  cases hs with
  | @written place hv hl =>
    by_cases he : location = place
    · have hfile (target : Text) : Node.file content (permissionBits mode) ≠ .link target := nofun
      rw [he, locate_eq_place ((hm.linkFree hf).insert hv.ne_nil hfile) hl]
      exact visits_place path
    · rw [node?_insert_of_ne he] at hn
      exact visits_of_made hf hm hb hn
  | identical | conflict | failed => exact visits_of_made hf hm hb hn

end Staging

namespace Depot
variable {depot : Depot} {label : Text} {content : Bytes} {world : World} {location : Location}

/-- If asking the oracle makes directories above its answer only, what is new after staging lies on
the way of the answer. -/
theorem visits_of_staged {path : Text} (hf : world.files.LinkFree)
    (hm : MadeAbove path world.files (depot.filesAsked world (depot.filenameOf label content)))
    (hanswer : ∀ answer, (depot.ask (depot.filenameOf label content) world).1 = .ok answer →
      answer = path)
    (hb : world.files.node? location = none)
    (hn : (depot.stage label content world).2.files.node? location ≠ none) :
    Visits path location := by
  cases hask : (depot.ask (depot.filenameOf label content) world).1 with
  | error failure =>
    rw [(depot.stage_of_failure label content world hask).2] at hn
    exact Staging.visits_of_made hf hm hb hn
  | ok answer =>
    obtain rfl := hanswer answer hask
    rw [(depot.stage_of_answer label content world hask).2] at hn
    obtain ⟨middle, hmore, hs⟩ := Staging.placeContent_settled depot.disk
      (depot.filesAsked world (depot.filenameOf label content)) answer content depot.fileMode
    exact Staging.visits_of_settled hf (hm.trans hmore) hs hb hn

end Depot

/-! ## The hashed layout below a project -/

namespace Placement.Hashed.Layout
variable {layout : Layout} {projectDir filename : Text} {location : Location}

/-- The steps to a name begin with those to the project. -/
theorem steps_expectedPath (hlayout : layout.directory = Path.join projectDir "download".toList)
    (ha : Path.isAbsolute projectDir) (hr : ¬ Path.isAbsolute filename) : ∃ base more,
      Path.steps projectDir = base ++ more ∧ base.foldl placeAfter [] = place projectDir ∧
      Path.steps (layout.expectedPath filename) = base ++
        .into "download".toList :: .into (layout.bucketName filename) :: Path.steps filename := by
  have hplain : Path.Plain "download".toList := by decide
  obtain ⟨base, hjoin, hbase⟩ := Path.join_entry ha hplain.unslashed
  have hbucket : layout.bucketPath filename =
      base ++ '/' :: "download".toList ++ '/' :: layout.bucketName filename := by
    have hrelative := Path.not_isAbsolute_of_notMem (layout.bucketName_plain filename).unslashed
    rw [bucketPath, hlayout, hjoin]
    exact (Path.endsIn_entry base hplain.unslashed).join_eq hplain hrelative
  have hsteps : Path.steps (layout.expectedPath filename) = Path.steps base ++
      .into "download".toList :: .into (layout.bucketName filename) :: Path.steps filename := by
    rw [layout.expectedPath_of_relative hr, hbucket, Path.steps_append, Path.steps_append,
      Path.steps_append, hplain.steps, (layout.bucketName_plain filename).steps]
    simp
  rcases hbase with rfl | rfl
  · exact ⟨Path.steps projectDir, [], (List.append_nil _).symm, rfl, hsteps⟩
  · refine ⟨Path.steps base, [.stay], Path.steps_append base [], ?_, hsteps⟩
    rw [place, Path.steps_append, List.foldl_append]
    rfl

/-- The way to a name that does not go up too far leads to the project and stays there. -/
theorem suffix_of_visits (hlayout : layout.directory = Path.join projectDir "download".toList)
    (ha : Path.isAbsolute projectDir) (hr : ¬ Path.isAbsolute filename)
    (hstays : Path.staysWithin 2 (Path.steps filename))
    (hv : Visits (layout.expectedPath filename) location) :
    Visits projectDir location ∨ place projectDir <:+ location := by
  obtain ⟨base, more, hproject, hplace, hsteps⟩ := steps_expectedPath hlayout ha hr
  obtain ⟨taken, rest, htaken, rfl⟩ := hv
  rcases List.append_eq_append_iff.mp (hsteps.symm.trans htaken) with
    ⟨inside, rfl, hinside⟩ | ⟨before, rfl, -⟩
  · right
    rw [List.foldl_append, hplace]
    have hway : Path.staysWithin 0 (inside ++ rest) := by
      rw [← hinside]
      exact hstays
    exact Path.staysWithin_suffix [] _ hway
  · left
    exact ⟨taken, before ++ more, by rw [hproject, List.append_assoc], rfl⟩

end Placement.Hashed.Layout

namespace Depot
open Placement.Hashed
variable {depot : Depot} {label : Text} {content : Bytes} {world : World}

/-- What is new after a call lies in the project. -/
def Confined (projectDir : Text) (before after : FileSystem) : Prop :=
  ∀ location, before.node? location = none → after.node? location ≠ none →
    place projectDir <:+ location

section
variable {layout : Layout} {algorithm : Digest.Algorithm}
variable (horacle : depot.oracle = layout.oracle)
variable (hdigest : depot.fingerprinter = algorithm.fingerprinter)
include horacle hdigest

theorem answer_eq_expectedPath (ha : Path.isAbsolute layout.directory)
    (hr : ¬ Path.isAbsolute (depot.filenameOf label content)) {answer : Text}
    (h : (depot.ask (depot.filenameOf label content) world).1 = .ok answer) :
    answer = layout.expectedPath (depot.filenameOf label content) := by
  have hhex : Text.IsLowerHex (depot.fingerprinter.fingerprint content) := by
    rw [hdigest]
    exact Bytes.toHex_isLowerHex _
  exact answer_of_isLowerHex horacle (Layout.unindented_of_isAbsolute ha) hhex hr h

/-- In a project that is there, without links, everything that staging creates lies in the project
if the name of the file is relative and does not go up by more than two levels. -/
theorem stage_confined {projectDir : Text}
    (hlayout : layout.directory = Path.join projectDir "download".toList)
    (ha : Path.isAbsolute projectDir) (hd : world.files.isDirectory projectDir)
    (hf : world.files.LinkFree) (hr : ¬ Path.isAbsolute (depot.filenameOf label content))
    (hstays : Path.staysWithin 2 (Path.steps (depot.filenameOf label content))) :
    Confined projectDir world.files (depot.stage label content world).2.files := by
  have ha' : Path.isAbsolute layout.directory := by
    rw [hlayout]
    exact Path.join_isAbsolute ha
  intro location hb hn
  have hmade : MadeAbove (layout.expectedPath (depot.filenameOf label content)) world.files
      (depot.filesAsked world (depot.filenameOf label content)) := by
    rw [filesAsked, ask, horacle]
    exact Layout.oracle_made layout _ _ _
  have hvisits := visits_of_staged hf hmade
    (fun _ => answer_eq_expectedPath horacle hdigest ha' hr) hb hn
  rcases Layout.suffix_of_visits hlayout ha hr hstays hvisits with hproject | hinside
  · rw [directory_of_visits hf hd hproject] at hb
    cases hb
  · exact hinside

end

/-- A label may lead out of the bucket. -/
theorem stage_confined_upwards :
    let layout : Layout := ⟨"/p/download".toList, 1024⟩
    let depot : Depot :=
      { oracle := layout.oracle
        fingerprinter := Digest.Algorithm.sha256.fingerprinter
        tool := .created 7 }
    let world : World := { files := FileSystem.empty.insert ["p".toList] .directory }
    let after := (depot.stage "../in".toList [] world).2.files
    after.node? ["download".toList, "p".toList] = some .directory ∧
      Confined "/p".toList world.files after := by
  intro layout depot world after
  have hlinks : world.files.LinkFree := linkFree_empty.insert (by decide) nofun
  have hconfined := @stage_confined depot "../in".toList [] world layout .sha256 rfl rfl "/p".toList
    (by decide +kernel) (by decide +kernel) (by decide +kernel) hlinks (by decide +kernel)
    (by decide +kernel)
  exact ⟨by decide +kernel, hconfined⟩

/-- With a label that is an absolute path, or that goes up too far, staging makes a directory beside
the project. -/
theorem stage_unconfined :
    let depot : Depot :=
      { oracle := (⟨"/p/download".toList, 1024⟩ : Layout).oracle
        fingerprinter := Digest.Algorithm.sha256.fingerprinter
        tool := .created 7 }
    let files : FileSystem := FileSystem.empty.insert ["p".toList] .directory
    files.LinkFree ∧ files.isDirectory "/p".toList ∧
      ∀ label ∈ ["/out/in".toList, "../../../out/in".toList],
        ¬ Confined "/p".toList files (depot.stage label [] { files }).2.files := by
  intro depot files
  refine ⟨linkFree_empty.insert (by decide) nofun, by decide +kernel, fun label hlabel h => ?_⟩
  have hnew : ∀ label ∈ ["/out/in".toList, "../../../out/in".toList],
      (depot.stage label [] { files }).2.files.node? ["out".toList] = some .directory := by
    decide +kernel
  have hinside := h ["out".toList] (by decide +kernel) (by rw [hnew label hlabel]; simp)
  exact absurd hinside (by decide +kernel)

end Depot
end WorkDepot
