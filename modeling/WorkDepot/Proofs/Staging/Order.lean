import WorkDepot.Proofs.Staging.Verdict
import WorkDepot.Proofs.Staging.WriteOnce

/-! # The order of calls

Calls of staging for different names can change places: each reports what it would have reported as
the only one, and the same files are there in the end. They may share a bucket that either of them
has to make, and each may be refused after it has made one. They may even share the layout's
directory, if its path does not go up. A path that begins with a blank is read back as another one,
and what the calls find there is not the layout's affair.
-/
namespace WorkDepot
open FileSystem Placement.Hashed

namespace Staging
variable {depot : Depot} {layout : Layout} {call first second : Text × Bytes}
variable {files : FileSystem} {top : Location}

/-- The layout's directory has no links in it. If it is not there, whatever is missing or stands in
the way, then its path does not go up: a path that does may lead through what the first call makes.
-/
structure Sheltered (layout : Layout) (files : FileSystem) : Prop where
  unindented : layout.Unindented
  tree : files.IsTree
  unlinked : ∀ top, files.reach (Path.way layout.directory) = .ok top →
    ∀ location target, top <:+ location → files.node? location ≠ some (.link target)
  straight : (∃ top, files.reach (Path.way layout.directory) = .ok top) ∨
    .up ∉ Path.steps layout.directory

/-! ## Calls below a directory that is there -/

/-- The layout's directory is reached at `top`, and there are no links in it. -/
structure Laid (layout : Layout) (files : FileSystem) (top : Location) : Prop where
  unindented : layout.Unindented
  tree : files.IsTree
  reached : files.reach (Path.way layout.directory) = .ok top
  unlinked : ∀ location target, top <:+ location → files.node? location ≠ some (.link target)

theorem Laid.stageOn_eq_verdict (h : Laid layout files top) (hd : IsHashed depot layout)
    (hl : '/' ∉ call.1)
    (hc : checkPath (layout.bucketPath (depot.filenameOf call.1 call.2)) = .ok ()) :
    let decided := verdict depot layout top call
      (files.node? (layout.bucketAt (depot.filenameOf call.1 call.2) top))
      (files.node? (layout.entryAt (depot.filenameOf call.1 call.2) top))
    stageOn depot layout call files = (decided.1, decided.2.foldl supply files) := by
  have hbucket : top <:+ layout.bucketAt (depot.filenameOf call.1 call.2) top :=
    List.suffix_cons _ _
  have hentry : top <:+ layout.entryAt (depot.filenameOf call.1 call.2) top :=
    hbucket.trans (List.suffix_cons _ _)
  exact Staging.stageOn_eq_verdict hd h.unindented h.reached hl hc
    (fun target => h.unlinked _ target hbucket) (fun target => h.unlinked _ target hentry)

theorem Laid.kept (h : Laid layout files top) (hd : IsHashed depot layout) (hl : '/' ∉ call.1) :
    Laid layout (stageOn depot layout call files).2 top where
  unindented := h.unindented
  tree := isTree_stageOn hd h.unindented hl h.tree
  reached := reach_mono (le_stageOn hd h.unindented hl files) h.reached
  unlinked location target hs hn :=
    h.unlinked location target hs (link_of_stageOn hd h.unindented hl hn)

/-- Below a directory that is there, calls for different names can change places. -/
theorem Laid.stageOn_comm (h : Laid layout files top) (hd : IsHashed depot layout)
    (hl₁ : '/' ∉ first.1) (hl₂ : '/' ∉ second.1)
    (hc₁ : checkPath (layout.bucketPath (depot.filenameOf first.1 first.2)) = .ok ())
    (hc₂ : checkPath (layout.bucketPath (depot.filenameOf second.1 second.2)) = .ok ())
    (hne : depot.filenameOf first.1 first.2 ≠ depot.filenameOf second.1 second.2) :
    (stageOn depot layout second (stageOn depot layout first files).2).1 =
        (stageOn depot layout second files).1 ∧
      (stageOn depot layout second (stageOn depot layout first files).2).2 =
        (stageOn depot layout first (stageOn depot layout second files).2).2 := by
  have hfirst := h.stageOn_eq_verdict hd hl₁ hc₁
  have hsecond := h.stageOn_eq_verdict hd hl₂ hc₂
  have hthen := (h.kept hd hl₁).stageOn_eq_verdict hd hl₂ hc₂
  have hthen' := (h.kept hd hl₂).stageOn_eq_verdict hd hl₁ hc₁
  dsimp only at hfirst hsecond hthen hthen'
  rw [hfirst, verdict_supplies hne] at hthen
  rw [hsecond, verdict_supplies hne.symm] at hthen'
  rw [hfirst, hsecond, hthen, hthen']
  refine ⟨rfl, ?_⟩
  dsimp only
  rw [← List.foldl_append, ← List.foldl_append]
  refine supplies_perm List.perm_append_comm fun one hone other hother he => ?_
  rcases List.mem_append.mp hone with hone | hone <;>
    rcases List.mem_append.mp hother with hother | hother
  · exact eq_of_mem_verdict hone hother (.inl rfl) he
  · exact eq_of_mem_verdict hone hother (.inr hne) he
  · exact eq_of_mem_verdict hone hother (.inr hne.symm) he
  · exact eq_of_mem_verdict hone hother (.inl rfl) he

/-! ## Calls that come to nothing -/

theorem stageOn_congr {other : FileSystem}
    (h : files.makeDirectories (layout.bucketPath (depot.filenameOf call.1 call.2)) =
      other.makeDirectories (layout.bucketPath (depot.filenameOf call.1 call.2))) :
    stageOn depot layout call files = stageOn depot layout call other := by
  simp only [stageOn, h]

/-! ## The layout's directory -/

/-- Either the directory is there or can be made, and calls do what they do once it is there. Or it
cannot, and all calls fail alike. -/
theorem Sheltered.cases (hs : Sheltered layout files) (depot : Depot) :
    (∃ made top, Laid layout made top ∧ ∀ call,
        checkPath (layout.bucketPath (depot.filenameOf call.1 call.2)) = .ok () →
        stageOn depot layout call files = stageOn depot layout call made) ∨
      ∃ failure after, Sheltered layout after ∧ ∀ call,
        checkPath (layout.bucketPath (depot.filenameOf call.1 call.2)) = .ok () →
        stageOn depot layout call files = (.error failure, after) ∧
          stageOn depot layout call after = (.error failure, after) := by
  cases hr : files.reach (Path.way layout.directory) with
  | ok top =>
    exact .inl ⟨files, top, ⟨hs.unindented, hs.tree, hr, hs.unlinked top hr⟩, fun _ _ => rfl⟩
  | error fault =>
    have hup : .up ∉ Path.steps layout.directory := by
      refine hs.straight.resolve_left ?_
      rintro ⟨top, htop⟩
      rw [hr] at htop
      cases htop
    have hw := Path.into_of_mem_way hup
    have htree := hs.tree.makeWay (Path.way layout.directory)
    rcases hm : files.makeWay (Path.way layout.directory) with ⟨result, after⟩
    rw [hm] at htree
    cases result with
    | ok _ =>
      obtain ⟨top, htop, hempty⟩ := new_of_makeWay hs.tree hw hr hm
      refine .inl ⟨after, top, ⟨hs.unindented, htree, htop, ?_⟩, fun call hcall => ?_⟩
      · intro location target hsuffix hl
        obtain ⟨_, _, hdirectory⟩ := reach_eq_ok_iff.mp htop
        rcases htree.below_empty hempty hsuffix with rfl | hnone
        · rw [hl] at hdirectory
          cases hdirectory
        · rw [hl] at hnone
          cases hnone
      · apply stageOn_congr
        rw [Layout.makeDirectories_eq_makeWay hcall, Layout.makeDirectories_eq_makeWay hcall]
        exact makeWay_cons_of_ok hm _
    | error cause =>
      obtain ⟨fault', fault'', hafter, hmake⟩ := makeWay_cons_of_error hs.tree hw hm
      refine .inr ⟨.oracle (.notStarted "hashed-placement-oracle".toList fault'), after,
        ⟨hs.unindented, htree, ?_, .inr hup⟩, fun call hcall => ?_⟩
      · intro top htop
        rw [hafter] at htop
        cases htop
      · obtain ⟨hfirst, hagain⟩ :=
          hmake (layout.bucketName (depot.filenameOf call.1 call.2))
        have hfiles := Layout.makeDirectories_eq_makeWay hcall files
        have hthen := Layout.makeDirectories_eq_makeWay hcall after
        constructor
        · simp only [stageOn, hfiles, hfirst]
        · simp only [stageOn, hthen, hagain]

/-- A call leaves the layout's directory sheltered. -/
theorem Sheltered.kept (hs : Sheltered layout files) (hd : IsHashed depot layout)
    (hl : '/' ∉ call.1) : Sheltered layout (stageOn depot layout call files).2 := by
  cases hc : checkPath (layout.bucketPath (depot.filenameOf call.1 call.2)) with
  | error cause =>
    rw [stageOn_of_checkPath hc]
    exact hs
  | ok _ =>
    rcases hs.cases depot with ⟨_, top, hmade, hsame⟩ | ⟨_, _, hafter, hfails⟩
    · rw [hsame call hc]
      have hlaid := hmade.kept hd hl
      refine ⟨hs.unindented, hlaid.tree, ?_, .inl ⟨top, hlaid.reached⟩⟩
      intro top' htop
      rw [hlaid.reached] at htop
      cases htop
      exact hlaid.unlinked
    · rw [(hfails call hc).1]
      exact hafter

/-! ## Two calls -/

/-- Calls for different names can change places. -/
theorem Sheltered.stageOn_comm (hs : Sheltered layout files) (hd : IsHashed depot layout)
    (hl₁ : '/' ∉ first.1) (hl₂ : '/' ∉ second.1)
    (hne : depot.filenameOf first.1 first.2 ≠ depot.filenameOf second.1 second.2) :
    (stageOn depot layout second (stageOn depot layout first files).2).1 =
        (stageOn depot layout second files).1 ∧
      (stageOn depot layout second (stageOn depot layout first files).2).2 =
        (stageOn depot layout first (stageOn depot layout second files).2).2 := by
  cases hc₁ : checkPath (layout.bucketPath (depot.filenameOf first.1 first.2)) with
  | error cause => simp only [stageOn_of_checkPath hc₁, true_and]
  | ok _ =>
    cases hc₂ : checkPath (layout.bucketPath (depot.filenameOf second.1 second.2)) with
    | error cause => simp only [stageOn_of_checkPath hc₂, true_and]
    | ok _ =>
      rcases hs.cases depot with ⟨_, _, hmade, hsame⟩ | ⟨_, _, _, hfails⟩
      · rw [hsame first hc₁, hsame second hc₂]
        exact hmade.stageOn_comm hd hl₁ hl₂ hc₁ hc₂ hne
      · obtain ⟨hfirst, hfirst'⟩ := hfails first hc₁
        obtain ⟨hsecond, hsecond'⟩ := hfails second hc₂
        rw [hfirst, hsecond, hsecond', hfirst']
        exact ⟨rfl, rfl⟩

theorem Sheltered.kept_by_stage {world : World} (hs : Sheltered layout world.files)
    (hd : IsHashed depot layout) (hl : '/' ∉ call.1) :
    Sheltered layout (depot.stage call.1 call.2 world).2.files := by
  rw [(stage_eq_stageOn hd hs.unindented hl call.2 world).2]
  exact hs.kept hd hl

theorem Sheltered.stage_comm {world : World} (hs : Sheltered layout world.files)
    (hd : IsHashed depot layout) (hl₁ : '/' ∉ first.1) (hl₂ : '/' ∉ second.1)
    (hne : depot.filenameOf first.1 first.2 ≠ depot.filenameOf second.1 second.2) :
    let afterFirst := depot.stage first.1 first.2 world
    let afterSecond := depot.stage second.1 second.2 world
    (depot.stage second.1 second.2 afterFirst.2).1 = afterSecond.1 ∧
      (depot.stage second.1 second.2 afterFirst.2).2.files =
        (depot.stage first.1 first.2 afterSecond.2).2.files := by
  intro afterFirst afterSecond
  obtain ⟨_, hfirst⟩ := stage_eq_stageOn hd hs.unindented hl₁ first.2 world
  obtain ⟨hresult, hsecond⟩ := stage_eq_stageOn hd hs.unindented hl₂ second.2 world
  obtain ⟨hresult', hthen⟩ := stage_eq_stageOn hd hs.unindented hl₂ second.2 afterFirst.2
  obtain ⟨_, hthen'⟩ := stage_eq_stageOn hd hs.unindented hl₁ first.2 afterSecond.2
  obtain ⟨hresults, hfiles⟩ := hs.stageOn_comm hd hl₁ hl₂ hne
  rw [hfirst] at hresult' hthen
  rw [hsecond] at hthen'
  exact ⟨hresult'.trans (hresults.trans hresult.symm), hthen.trans (hfiles.trans hthen'.symm)⟩

/-! ## Any number of calls -/

/-- The calls have different names. -/
def Distinct (depot : Depot) (calls : List (Text × Bytes)) : Prop :=
  calls.Pairwise fun first second =>
    depot.filenameOf first.1 first.2 ≠ depot.filenameOf second.1 second.2

section
variable {calls order : List (Text × Bytes)} {world : World}

theorem stageAll_files (hd : IsHashed depot layout) (hu : layout.Unindented)
    (hl : ∀ call ∈ calls, '/' ∉ call.1) (world : World) :
    (depot.stageAll calls world).2.files =
      calls.foldl (fun files call => (stageOn depot layout call files).2) world.files := by
  induction calls generalizing world with
  | nil => rfl
  | cons call calls ih =>
    obtain ⟨_, hfiles⟩ :=
      stage_eq_stageOn hd hu (hl call List.mem_cons_self) call.2 world
    rw [List.foldl_cons, ← hfiles]
    exact ih (fun call hc => hl call (List.mem_cons_of_mem _ hc)) _

/-- Each call reports what it would have reported as the first one. -/
theorem stageAll_results (hd : IsHashed depot layout) (hl : ∀ call ∈ calls, '/' ∉ call.1)
    (hs : Sheltered layout world.files) (hdistinct : Distinct depot calls) :
    (depot.stageAll calls world).1 = calls.map fun call => (depot.stage call.1 call.2 world).1 := by
  induction calls generalizing world with
  | nil => rfl
  | cons call calls ih =>
    have hcall := hl call List.mem_cons_self
    have hcalls : ∀ call ∈ calls, '/' ∉ call.1 :=
      fun call hc => hl call (List.mem_cons_of_mem _ hc)
    obtain ⟨hfirst, hrest⟩ := List.pairwise_cons.mp hdistinct
    have hlater := ih hcalls (hs.kept_by_stage hd hcall) hrest
    change (depot.stage call.1 call.2 world).1 ::
      (depot.stageAll calls (depot.stage call.1 call.2 world).2).1 = _
    rw [hlater, List.map_cons]
    congr 1
    exact List.map_congr_left fun later hm =>
      (hs.stage_comm hd hcall (hcalls later hm) (hfirst later hm)).1

/-- The files after all calls do not depend on their order. -/
theorem foldl_stageOn_perm (hd : IsHashed depot layout) (ho : order.Perm calls)
    (hl : ∀ call ∈ calls, '/' ∉ call.1) (hs : Sheltered layout files)
    (hdistinct : Distinct depot calls) :
    order.foldl (fun files call => (stageOn depot layout call files).2) files =
      calls.foldl (fun files call => (stageOn depot layout call files).2) files := by
  induction ho generalizing files with
  | nil => rfl
  | cons call _ ih =>
    exact ih (fun call hc => hl call (List.mem_cons_of_mem _ hc))
      (hs.kept hd (hl call List.mem_cons_self)) (List.pairwise_cons.mp hdistinct).2
  | swap first second calls =>
    have hne := (List.pairwise_cons.mp hdistinct).1 second List.mem_cons_self
    have hfirst := hl first List.mem_cons_self
    have hsecond := hl second (List.mem_cons_of_mem _ List.mem_cons_self)
    simp only [List.foldl_cons]
    rw [(hs.stageOn_comm hd hfirst hsecond hne).2]
  | trans hfirst hsecond ih₁ ih₂ =>
    rw [ih₁ (fun call hc => hl call (hsecond.subset hc)) hs
      ((hsecond.pairwise_iff fun h => Ne.symm h).mpr hdistinct), ih₂ hl hs hdistinct]

/-- Calls whose order does not matter: two of them can change places, each reports the same among
the others as alone, and the files are the same in the end. -/
structure Unordered (depot : Depot) (calls : List (Text × Bytes)) (world : World) : Prop where
  swapped : ∀ first ∈ calls, ∀ second ∈ calls,
    depot.filenameOf first.1 first.2 ≠ depot.filenameOf second.1 second.2 →
    let afterFirst := depot.stage first.1 first.2 world
    let afterSecond := depot.stage second.1 second.2 world
    (depot.stage second.1 second.2 afterFirst.2).1 = afterSecond.1 ∧
      (depot.stage first.1 first.2 afterSecond.2).1 = afterFirst.1 ∧
      (depot.stage second.1 second.2 afterFirst.2).2.files =
        (depot.stage first.1 first.2 afterSecond.2).2.files
  results : ∀ order, order.Perm calls → (depot.stageAll order world).1 =
    order.map fun call => (depot.stage call.1 call.2 world).1
  files : ∀ order, order.Perm calls →
    (depot.stageAll order world).2.files = (depot.stageAll calls world).2.files

/-- With the hashed layout, calls for different names can be made in any order. -/
theorem stageAll_unordered (hd : IsHashed depot layout) (hs : Sheltered layout world.files)
    (hl : ∀ call ∈ calls, '/' ∉ call.1) (hdistinct : Distinct depot calls) :
    Unordered depot calls world := by
  refine ⟨?_, ?_, ?_⟩
  · intro first hf second hm hne afterFirst afterSecond
    obtain ⟨hresult, hfiles⟩ := hs.stage_comm hd (hl first hf) (hl second hm) hne
    obtain ⟨hresult', _⟩ := hs.stage_comm hd (hl second hm) (hl first hf) hne.symm
    exact ⟨hresult, hresult', hfiles⟩
  · intro order ho
    exact stageAll_results hd (fun call hc => hl call (ho.subset hc)) hs
      ((ho.pairwise_iff fun h => Ne.symm h).mpr hdistinct)
  · intro order ho
    rw [stageAll_files hd hs.unindented (fun call hc => hl call (ho.subset hc)),
      stageAll_files hd hs.unindented hl]
    exact foldl_stageOn_perm hd ho hl hs hdistinct

end

/-- It does not matter that the layout's directory and the bucket are missing at first, nor that one
of the calls is refused after it has made them. -/
theorem stageAll_unordered_missing :
    let calls : List (Text × Bytes) :=
      [("p".toList, [1]), (['\x00'], [1]), ("q".toList, [1])]
    let world : World := { files := FileSystem.empty }
    let staged (label : Text) : Except Error Staged := .ok
      ⟨label ++ "_ab".toList, "ab".toList, "/d/0/".toList ++ label ++ "_ab".toList, .created⟩
    let refused : Except Error Staged :=
      .error (.storage ⟨.stat, "/d/0/\x00_ab".toList, .nulInPath⟩)
    Sheltered narrow world.files ∧ Distinct (confused narrow) calls ∧
      ((confused narrow).stageAll calls world).1 = [staged "p".toList, refused, staged "q".toList] ∧
      ((confused narrow).stageAll calls.reverse world).1 =
        [staged "q".toList, refused, staged "p".toList] ∧
      ((confused narrow).stageAll calls.reverse world).2.files =
        ((confused narrow).stageAll calls world).2.files := by
  intro calls world staged refused
  have hd := isHashed_confused narrow
  have hs : Sheltered narrow world.files :=
    ⟨Layout.unindented_of_isAbsolute (by decide), isTree_empty,
      fun _ _ location target _ => linkFree_empty location target, .inr (by decide)⟩
  have hl : ∀ call ∈ calls, '/' ∉ call.1 := by decide
  have hdistinct : Distinct (confused narrow) calls := by
    unfold Distinct
    decide
  have hunordered := stageAll_unordered hd hs hl hdistinct
  have hp : ((confused narrow).stage "p".toList [1] world).1 = staged "p".toList := by
    decide +kernel
  have hq : ((confused narrow).stage "q".toList [1] world).1 = staged "q".toList := by
    decide +kernel
  have hnul : ((confused narrow).stage ['\x00'] [1] world).1 = refused := by decide +kernel
  have hreverse : calls.reverse.Perm calls := calls.reverse_perm
  refine ⟨hs, hdistinct, ?_, ?_, hunordered.files _ hreverse⟩
  · rw [hunordered.results _ (List.Perm.refl _)]
    simp only [calls, List.map_cons, List.map_nil, hp, hq, hnul]
  · rw [hunordered.results _ hreverse]
    simp only [calls, List.reverse_cons, List.reverse_nil, List.nil_append, List.cons_append,
      List.map_cons, List.map_nil, hp, hq, hnul]

/-- The path goes up through a directory that can be made. -/
def upwards : Layout := ⟨"/x/../f/y".toList, 1⟩

/-- Without the blank in front, the path is that of another directory. -/
def indented : Layout := ⟨" /d".toList, 1⟩

/-- Where the layout's directory cannot be made and its path goes up, the first call fails in its
own way. Where the answers are read as paths in another directory, a link from one file to the other
tells the calls apart. -/
theorem not_unordered_unsheltered :
    let calls : List (Text × Bytes) := [("p".toList, [1]), ("q".toList, [1])]
    let barred : World := { files := FileSystem.empty.insert ["f".toList] (.file [] 0o644) }
    let linked : World :=
      { files := ((FileSystem.empty.insert ["d".toList] .directory).insert
          ["0".toList, "d".toList] .directory).insert
          ["p_ab".toList, "0".toList, "d".toList] (.link "q_ab".toList) }
    (∀ call ∈ calls, '/' ∉ call.1 ∧ '\n' ∉ call.1) ∧
      (IsHashed (confused upwards) upwards ∧ Distinct (confused upwards) calls ∧
        barred.files.IsTree ∧ barred.files.LinkFree ∧
        ¬ Unordered (confused upwards) calls barred) ∧
      IsHashed (confused indented) indented ∧ Distinct (confused indented) calls ∧
        linked.files.IsTree ∧
        linked.files.reach (Path.way indented.directory) = .error .notFound ∧
        ¬ Unordered (confused indented) calls linked := by
  intro calls barred linked
  have hdistinct (layout : Layout) : Distinct (confused layout) calls := by
    simp [Distinct, calls, Depot.filenameOf, confused, filename]
  have hbarred : barred.files.IsTree := isTree_empty.insert ⟨by decide, by decide⟩ _
  have hfree : barred.files.LinkFree := linkFree_empty.insert (by decide) fun _ he => by cases he
  have hlinked : linked.files.IsTree :=
    ((isTree_empty.insert ⟨by decide, by decide⟩ _).insert ⟨by decide, by decide⟩ _).insert
      ⟨by decide, by decide⟩ _
  refine ⟨by decide, ⟨isHashed_confused _, hdistinct _, hbarred, hfree, ?_⟩,
    isHashed_confused _, hdistinct _, hlinked, by decide +kernel, ?_⟩
  · intro h
    have hdiffers : ((confused upwards).stageAll calls barred).1 ≠
        calls.map fun call => ((confused upwards).stage call.1 call.2 barred).1 := by
      decide +kernel
    exact hdiffers (h.results _ (List.Perm.refl _))
  · intro h
    have hdiffers : ((confused indented).stageAll calls.reverse linked).1 ≠
        calls.reverse.map fun call =>
          ((confused indented).stage call.1 call.2 linked).1 := by
      decide +kernel
    exact hdiffers (h.results _ calls.reverse_perm)

end Staging
end WorkDepot
