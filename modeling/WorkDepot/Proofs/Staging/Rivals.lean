import WorkDepot.Proofs.Staging.Interleaving

/-! # Rival placings

Placing content without interruption is one of the runs, and a run can always go on, as there are
private names for ever. Of the calls that have one path, one wins when all of them come to an end
and nothing was there; the others find its content, and no temporary file is left.
-/
namespace WorkDepot.Staging
open FileSystem
variable {ι : Type}

/-! ## Calls that nothing comes between -/

section
variable [DecidableEq ι] {jobs : ι → Job}

omit [DecidableEq ι] in
theorem private_freshName (files : FileSystem)
    (hnames : ∀ i number directory, place (jobs i).path ≠ tempName number :: directory) :
    Private jobs files fun directory => files.freshName directory tempName := by
  intro directory
  exact ⟨files.freshName_free tempName_injective directory, fun i => hnames i _ directory⟩

theorem run_alone (disk : Disk) (i : ι)
    (hnames : ∀ i number directory, place (jobs i).path ≠ tempName number :: directory)
    (count : Nat) (scene : Scene ι) :
    Run jobs scene
      ⟨((advanceAlone disk (jobs i))^[count] (scene.phase i, scene.files)).2,
        Function.update scene.phase i
          ((advanceAlone disk (jobs i))^[count] (scene.phase i, scene.files)).1⟩ := by
  induction count generalizing scene with
  | zero =>
    simp only [Function.iterate_zero, id, Function.update_eq_self]
    exact .refl
  | succ count ih =>
    let state := advanceAlone disk (jobs i) (scene.phase i, scene.files)
    have hstep : Step jobs scene ⟨state.2, Function.update scene.phase i state.1⟩ :=
      .step i disk _ (private_freshName scene.files hnames)
    have hrest := ih ⟨state.2, Function.update scene.phase i state.1⟩
    simp only [Function.update_self, Function.update_idem] at hrest
    rw [Function.iterate_succ_apply]
    exact .head hstep hrest

omit [DecidableEq ι] in
/-- There are always private names, so that no call ever has to wait. -/
theorem exists_private [Finite ι] (jobs : ι → Job) (files : FileSystem) :
    ∃ pick, Private jobs files pick := by
  have hall : ∀ directory : Location, ∃ name, files.node? (name :: directory) = none ∧
      ∀ i, place (jobs i).path ≠ name :: directory := by
    intro directory
    let used : Set Location := {location | location ∈ files.nodes.keys} ∪
      Set.range fun i => place (jobs i).path
    have hused : used.Finite := (List.finite_toSet _).union (Set.finite_range _)
    have hinj : Function.Injective fun number => tempName number :: directory := by
      intro first second he
      exact tempName_injective (List.cons.inj he).1
    obtain ⟨_, ⟨number, rfl⟩, hfree⟩ :=
      (Set.infinite_range_of_injective hinj).exists_notMem_finite hused
    simp only [used, Set.mem_union, Set.mem_range, not_or, not_exists] at hfree
    obtain ⟨hkeys, hplaces⟩ := hfree
    refine ⟨tempName number, ?_, hplaces⟩
    rw [node?_cons]
    simpa using hkeys
  choose pick hpick using hall
  exact ⟨pick, hpick⟩

/-- Placing content is one of the ways in which its steps may be taken. -/
theorem run_placeContent (disk : Disk) (i : ι) (scene : Scene ι)
    (hnames : ∀ i number directory, place (jobs i).path ≠ tempName number :: directory)
    (hi : scene.phase i = .checking) :
    let outcome := placeContent disk scene.files (jobs i).path (jobs i).content (jobs i).mode
    Run jobs scene ⟨outcome.2, Function.update scene.phase i (.finished outcome.1)⟩ := by
  have hrun := run_alone disk i hnames 8 scene
  rw [hi, alone_placeContent] at hrun
  exact hrun

end

/-! ## The target at every moment -/

section
variable [DecidableEq ι] {jobs : ι → Job} {target : Location} {start : FileSystem}
variable {scene : Scene ι}

/-- What holds at each moment of each run for the calls that have the path of the target. -/
structure Safe (jobs : ι → Job) (target : Location) (start : FileSystem) (scene : Scene ι) :
    Prop where
  whole : scene.files.node? target = start.node? target ∨
    (start.node? target = none ∧ ∃ writer, (jobs writer).path = Helper.pathOf target ∧
      scene.files.node? target = some (jobs writer).node)
  stable : ∀ node later, scene.files.node? target = some node → Run jobs scene later →
    later.files.node? target = some node
  wonOnce : start.node? target = none →
    (∀ i, (jobs i).path = Helper.pathOf target → ∃ placed, scene.phase i = .finished (.ok placed)) →
    ∃ winner, (jobs winner).path = Helper.pathOf target ∧
      scene.phase winner = .finished (.ok .written) ∧
      scene.files.node? target = some (jobs winner).node ∧
      ∀ i, (jobs i).path = Helper.pathOf target → i ≠ winner →
        scene.phase i = .finished (.ok ((jobs i).verdict (jobs winner).content))
  neverWon : ∀ existing bits, start.node? target = some (.file existing bits) →
    (∀ i, (jobs i).path = Helper.pathOf target → ∃ placed, scene.phase i = .finished (.ok placed)) →
    scene.files.node? target = some (.file existing bits) ∧
      ∀ i, (jobs i).path = Helper.pathOf target →
        scene.phase i = .finished (.ok ((jobs i).verdict existing))
  clean : (∀ i, ∃ result, scene.phase i = .finished result) → ∀ location,
    scene.files.IsFile location → start.IsFile location ∨
      ∃ i, scene.phase i = .finished (.ok .written) ∧ location = place (jobs i).path

/-- In every interleaving the target is filled at most once, with all of one content. -/
theorem placings_safe (hset : Setting jobs target) (hlinks : start.LinkFree)
    (hrun : Run jobs (.start start) scene) : Safe jobs target start scene := by
  have ho : Orderly jobs target start scene := run_orderly hset (orderly_start hlinks) hrun
  constructor
  · rcases ho.filled with ⟨hsame, _⟩ | ⟨hfree, winner, haimed, _, hnode, _⟩
    · exact .inl hsame
    · exact .inr ⟨hfree, winner, haimed, hnode⟩
  · intro node later hn hlater
    exact run_target hset ho hlater hn
  · intro hfree hall
    rcases ho.filled with ⟨hsame, hnone⟩ | ⟨_, winner, haimed, hphase, hnode, honly⟩
    · exfalso
      obtain ⟨first, hfirst⟩ := hset.aimed
      obtain ⟨placed, hplaced⟩ := hall first hfirst
      have hp : placed ≠ .written := by
        rintro rfl
        exact hnone first hfirst hplaced
      obtain ⟨existing, bits, hn, _⟩ := ho.compared first placed hfirst hplaced hp
      rw [hsame, hfree] at hn
      cases hn
    · refine ⟨winner, haimed, hphase, hnode, ?_⟩
      intro i hi hne
      obtain ⟨placed, hplaced⟩ := hall i hi
      have hp : placed ≠ .written := by
        rintro rfl
        exact hne (honly i hi hplaced)
      obtain ⟨existing, bits, hn, rfl⟩ := ho.compared i placed hi hplaced hp
      rw [hnode] at hn
      cases hn
      exact hplaced
  · intro existing bits hthere hall
    have hn := ho.kept _ _ hthere
    refine ⟨hn, ?_⟩
    intro i hi
    obtain ⟨placed, hplaced⟩ := hall i hi
    have hp : placed ≠ .written := by
      rintro rfl
      rcases ho.filled with ⟨_, hnone⟩ | ⟨hfree, _⟩
      · exact hnone i hi hplaced
      · rw [hthere] at hfree
        cases hfree
    obtain ⟨found, mode, hfound, rfl⟩ := ho.compared i placed hi hplaced hp
    rw [hn] at hfound
    cases hfound
    exact hplaced
  · intro hall location hfile
    rcases ho.accounted location hfile with hstart | ⟨i, ht⟩ | hwritten
    · exact .inl hstart
    · obtain ⟨result, hresult⟩ := hall i
      rw [hresult] at ht
      cases ht
    · exact .inr hwritten

/-- Two calls with one path and different contents, and a third one with a path beside it. -/
def rivals (i : Fin 3) : Job :=
  if i = 2 then ⟨Helper.pathOf ["b".toList, "d".toList], [3], 0o644⟩
  else ⟨Helper.pathOf ["a".toList, "d".toList], [i.val.toUInt8], 0o600⟩

theorem rivals_setting : Setting rivals ["a".toList, "d".toList] where
  nonempty := by decide
  plain := by decide
  aimed := ⟨0, rfl⟩
  apart := by
    intro i
    fin_cases i
    · exact .inl rfl
    · exact .inl rfl
    · right
      change ¬ Visits (Helper.pathOf ["b".toList, "d".toList]) _
      intro hvisits
      have hsuffix := suffix_of_visits (by decide) (by decide) hvisits
      exact absurd hsuffix (by decide)

/-- One of the rivals wins, and the file has its content when all are done. -/
theorem placings_safe_rivals : ∃ scene, Run rivals (.start .empty) scene ∧
    Setting rivals ["a".toList, "d".toList] ∧ FileSystem.empty.LinkFree ∧
    ∃ winner, scene.files.node? ["a".toList, "d".toList] = some (rivals winner).node ∧
      ∀ i, i ≠ 2 → i ≠ winner → scene.phase i =
        .finished (.ok ((rivals i).verdict (rivals winner).content)) := by
  have hlinks : FileSystem.empty.LinkFree := by
    intro location target hn
    cases location <;> simp [node?, FileSystem.empty] at hn
  have hnames : ∀ i number directory, place (rivals i).path ≠ tempName number :: directory := by
    intro i number directory he
    have hdot : (place (rivals i).path).head?.bind List.head? = some '.' := by
      rw [he]
      rfl
    fin_cases i <;> exact absurd hdot (by decide)
  have hfirst : (placeContent .sound .empty (rivals 0).path (rivals 0).content
      (rivals 0).mode).1 = .ok .written := by decide +kernel
  have hsecond : (placeContent .sound (placeContent .sound .empty (rivals 0).path
      (rivals 0).content (rivals 0).mode).2 (rivals 1).path (rivals 1).content
      (rivals 1).mode).1 = .ok .conflict := by decide +kernel
  have hrun := run_placeContent .sound 0 (.start .empty) hnames rfl
  rw [Scene.start] at hrun
  generalize placeContent .sound .empty (rivals 0).path (rivals 0).content (rivals 0).mode = first
    at hfirst hsecond hrun
  have hrun' := hrun.trans (run_placeContent .sound 1 _ hnames rfl)
  generalize placeContent .sound first.2 (rivals 1).path (rivals 1).content (rivals 1).mode = second
    at hsecond hrun'
  rw [hfirst, hsecond] at hrun'
  have hsafe := placings_safe rivals_setting hlinks hrun'
  refine ⟨_, hrun', rivals_setting, hlinks, ?_⟩
  have hall : ∀ i, (rivals i).path = Helper.pathOf ["a".toList, "d".toList] →
      ∃ placed, (Function.update (Function.update (fun _ => Phase.checking) 0
        (.finished (.ok .written))) 1 (.finished (.ok .conflict))) i = .finished (.ok placed) := by
    intro i hi
    fin_cases i
    · exact ⟨_, rfl⟩
    · exact ⟨_, rfl⟩
    · exact absurd hi (by decide)
  obtain ⟨winner, _, _, hnode, hothers⟩ := hsafe.wonOnce rfl hall
  refine ⟨winner, hnode, ?_⟩
  intro i hi hne
  exact hothers i (by simp [rivals, hi]) hne

end

end WorkDepot.Staging
