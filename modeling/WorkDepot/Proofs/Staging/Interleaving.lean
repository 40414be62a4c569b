import WorkDepot.Proofs.Staging.Advances

/-! # Interleaved placings

Any number of calls take their steps in any order, some of them perhaps only a few, and the disk may
fail at any step. All that matters for the calls that have one path is that the place of that path
is filled at most once, at the one step that publishes a complete file. The invariant says so, and
keeps account of where every file comes from.
-/
namespace WorkDepot.Staging
open FileSystem
variable {ι : Type}

/-- The files, and where each of the calls stands. -/
structure Scene (ι : Type) where
  files : FileSystem
  phase : ι → Phase

def Scene.start (files : FileSystem) : Scene ι := ⟨files, fun _ => .checking⟩

/-- The names that are picked are those of nothing that is there and of nothing that is placed. -/
def Private (jobs : ι → Job) (files : FileSystem) (pick : Location → Name) : Prop :=
  ∀ directory, files.node? (pick directory :: directory) = none ∧
    ∀ i, place (jobs i).path ≠ pick directory :: directory

/-- One of the calls takes a step. -/
inductive Step [DecidableEq ι] (jobs : ι → Job) (scene : Scene ι) : Scene ι → Prop
  | step (i : ι) (disk : Disk) (pick : Location → Name) : Private jobs scene.files pick →
      Step jobs scene
        ⟨(advance disk pick (jobs i) scene.files (scene.phase i)).2,
          Function.update scene.phase i
            (advance disk pick (jobs i) scene.files (scene.phase i)).1⟩

abbrev Run [DecidableEq ι] (jobs : ι → Job) : Scene ι → Scene ι → Prop :=
  Relation.ReflTransGen (Step jobs)

/-- The calls in view are those whose path is that of the target, spelled without empty segments and
dots. The paths of other calls do not go through the target. -/
structure Setting (jobs : ι → Job) (target : Location) : Prop where
  nonempty : target ≠ []
  plain : ∀ name ∈ target, Path.Plain name
  aimed : ∃ i, (jobs i).path = Helper.pathOf target
  apart : ∀ i, (jobs i).path = Helper.pathOf target ∨ ¬ Visits (jobs i).path target

/-- What a job leaves when it is the one that writes. -/
def Job.node (job : Job) : Node := .file job.content (job.mode % 0o10000)

/-- What a call says that finds content at its path. -/
def Job.verdict (job : Job) (existing : Bytes) : Placed :=
  if existing = job.content then .identical else .conflict

theorem Setting.place_eq {jobs : ι → Job} {target : Location} (h : Setting jobs target) {i : ι}
    (hi : (jobs i).path = Helper.pathOf target) : place (jobs i).path = target := by
  rw [hi]
  exact place_pathOf h.nonempty h.plain

/-- The invariant of all runs from the files `start`. -/
structure Orderly (jobs : ι → Job) (target : Location) (start : FileSystem) (scene : Scene ι) :
    Prop where
  kept : start ≤ scene.files
  linkFree : scene.files.LinkFree
  held : ∀ i, Held (jobs i) scene.files (scene.phase i)
  own : ∀ i j temp, (scene.phase i).temp? = some temp → (scene.phase j).temp? = some temp → i = j
  fresh : ∀ i temp, (scene.phase i).temp? = some temp →
    start.node? temp = none ∧ temp ≠ target
  filled : (scene.files.node? target = start.node? target ∧
      ∀ i, (jobs i).path = Helper.pathOf target → scene.phase i ≠ .finished (.ok .written)) ∨
    (start.node? target = none ∧ ∃ winner, (jobs winner).path = Helper.pathOf target ∧
      scene.phase winner = .finished (.ok .written) ∧
      scene.files.node? target = some (jobs winner).node ∧
      ∀ i, (jobs i).path = Helper.pathOf target → scene.phase i = .finished (.ok .written) →
        i = winner)
  compared : ∀ i placed, (jobs i).path = Helper.pathOf target →
    scene.phase i = .finished (.ok placed) → placed ≠ .written →
    ∃ existing bits, scene.files.node? target = some (.file existing bits) ∧
      placed = (jobs i).verdict existing
  accounted : ∀ location, scene.files.IsFile location → start.IsFile location ∨
    (∃ i, (scene.phase i).temp? = some location) ∨
    ∃ i, scene.phase i = .finished (.ok .written) ∧ location = place (jobs i).path

theorem orderly_start {jobs : ι → Job} {target : Location} {start : FileSystem}
    (hf : start.LinkFree) : Orderly jobs target start (.start start) where
  kept := le_rfl
  linkFree := hf
  held := by rintro i temp ⟨⟩
  own := by rintro i j temp ⟨⟩
  fresh := by rintro i temp ⟨⟩
  filled := by
    refine .inl ⟨rfl, ?_⟩
    rintro i _ ⟨⟩
  compared := by rintro i placed _ ⟨⟩
  accounted location h := .inl h

/-! ## What one step keeps -/

section
variable [DecidableEq ι] {jobs : ι → Job} {target : Location} {start after : FileSystem}
variable {scene : Scene ι}
variable {pick : Location → Name} {i : ι} {next : Phase}
variable (hset : Setting jobs target) (ho : Orderly jobs target start scene)
variable (hpick : Private jobs scene.files pick)
variable (h : Advances pick (jobs i) scene.files (scene.phase i) next after)

section
include ho hpick h

omit [DecidableEq ι] in
theorem step_kept : start ≤ after := by
  intro location node hn
  apply h.kept (fun directory => (hpick directory).1) (ho.kept _ _ hn)
  intro ht
  rw [(ho.fresh i location ht).1] at hn
  cases hn

theorem step_held (j : ι) : Held (jobs j) after (Function.update scene.phase i next j) := by
  by_cases hj : j = i
  · subst hj
    rw [Function.update_self]
    exact h.held (ho.held j) fun directory => (hpick directory).1
  · rw [Function.update_of_ne hj]
    intro temp ht
    obtain ⟨content, mode, hn, hfilled⟩ := ho.held j temp ht
    refine ⟨content, mode, ?_, hfilled⟩
    apply h.kept (fun directory => (hpick directory).1) hn
    intro ht'
    exact hj (ho.own j i temp ht ht')

omit [DecidableEq ι] in
/-- Another call has no temporary file where this one has. -/
theorem step_temp_ne {j : ι} {temp : Location} (hj : j ≠ i) (ht : next.temp? = some temp)
    (ht' : (scene.phase j).temp? = some temp) : False := by
  rcases h.temp_cases ht with hold | ⟨directory, rfl⟩
  · exact hj (ho.own j i temp ht' hold)
  · obtain ⟨content, mode, hn, _⟩ := ho.held j _ ht'
    rw [(hpick directory).1] at hn
    cases hn

theorem step_own (j k : ι) (temp : Location)
    (hj : (Function.update scene.phase i next j).temp? = some temp)
    (hk : (Function.update scene.phase i next k).temp? = some temp) : j = k := by
  by_cases hji : j = i
  · by_cases hki : k = i
    · rw [hji, hki]
    · rw [hji, Function.update_self] at hj
      rw [Function.update_of_ne hki] at hk
      exact (step_temp_ne ho hpick h hki hj hk).elim
  · rw [Function.update_of_ne hji] at hj
    by_cases hki : k = i
    · rw [hki, Function.update_self] at hk
      exact (step_temp_ne ho hpick h hji hk hj).elim
    · rw [Function.update_of_ne hki] at hk
      exact ho.own j k temp hj hk

theorem step_accounted (location : Location) (hfile : after.IsFile location) :
    start.IsFile location ∨
      (∃ j, (Function.update scene.phase i next j).temp? = some location) ∨
      ∃ j, Function.update scene.phase i next j = .finished (.ok .written) ∧
        location = place (jobs j).path := by
  obtain ⟨content, mode, hn'⟩ := hfile
  cases hn : scene.files.node? location with
  | none =>
    rcases h.born ho.linkFree (ho.held i) hn hn' with ⟨he, _⟩ | ⟨_, ht, _⟩ | ⟨_, hplace, hnext⟩
    · cases he
    · exact .inr (.inl ⟨i, by rw [Function.update_self]; exact ht⟩)
    · exact .inr (.inr ⟨i, by rw [Function.update_self]; exact hnext, hplace⟩)
  | some node =>
    by_cases ht : (scene.phase i).temp? = some location
    · by_cases ht' : next.temp? = some location
      · exact .inr (.inl ⟨i, by rw [Function.update_self]; exact ht'⟩)
      · rw [h.gone (ho.held i) ht ht'] at hn'
        cases hn'
    · have hkept := h.kept (fun directory => (hpick directory).1) hn ht
      rw [hn'] at hkept
      cases hkept
      rcases ho.accounted location ⟨content, mode, hn⟩ with hstart | ⟨j, hj⟩ | ⟨j, hj, hplace⟩
      · exact .inl hstart
      · have hji : j ≠ i := by
          rintro rfl
          exact ht hj
        exact .inr (.inl ⟨j, by rw [Function.update_of_ne hji]; exact hj⟩)
      · refine .inr (.inr ⟨j, ?_, hplace⟩)
        by_cases hji : j = i
        · subst hji
          rw [Function.update_self]
          exact (h.finished hj).1
        · rw [Function.update_of_ne hji]
          exact hj

end

section
include hset ho hpick h

theorem step_fresh (j : ι) (temp : Location)
    (ht : (Function.update scene.phase i next j).temp? = some temp) :
    start.node? temp = none ∧ temp ≠ target := by
  by_cases hj : j = i
  · rw [hj, Function.update_self] at ht
    rcases h.temp_cases ht with hold | ⟨directory, rfl⟩
    · exact ho.fresh i temp hold
    · constructor
      · exact node?_eq_none_of_le ho.kept (hpick directory).1
      · obtain ⟨first, hfirst⟩ := hset.aimed
        rw [← hset.place_eq hfirst]
        exact ((hpick directory).2 first).symm
  · rw [Function.update_of_ne hj] at ht
    exact ho.fresh j temp ht

omit [DecidableEq ι] in
/-- A step leaves the target alone, unless it publishes there what a call has to place. -/
theorem step_target : after.node? target = scene.files.node? target ∨
    (scene.files.node? target = none ∧ next = .finished (.ok .written) ∧
      (jobs i).path = Helper.pathOf target ∧ after.node? target = some (jobs i).node) := by
  cases hn : scene.files.node? target with
  | some node =>
    left
    apply h.kept (fun directory => (hpick directory).1) hn
    intro ht
    exact (ho.fresh i target ht).2 rfl
  | none =>
    cases hn' : after.node? target with
    | none => exact .inl rfl
    | some node =>
      right
      rcases h.born ho.linkFree (ho.held i) hn hn' with
        ⟨_, above, ha, hplace⟩ | ⟨_, _, directory, he⟩ | ⟨rfl, hplace, hnext⟩
      · exfalso
        rcases hset.apart i with haimed | haside
        · rw [haimed] at ha
          exact place_ne_of_above hset.nonempty hset.plain ha hplace
        · have hvisits := (visits_place above).of_above ha
          rw [hplace] at hvisits
          exact haside hvisits
      · exfalso
        obtain ⟨first, hfirst⟩ := hset.aimed
        exact (hpick directory).2 first ((hset.place_eq hfirst).trans he)
      · rcases hset.apart i with haimed | haside
        · exact ⟨rfl, hnext, haimed, rfl⟩
        · exfalso
          have hvisits := visits_place (jobs i).path
          rw [← hplace] at hvisits
          exact haside hvisits

omit [DecidableEq ι] hpick in
/-- A call with the path of the target that writes has found the target free. -/
theorem step_written (hi : (jobs i).path = Helper.pathOf target)
    (hnext : next = .finished (.ok .written)) : scene.phase i = .finished (.ok .written) ∨
      (scene.files.node? target = none ∧ after.node? target = some (jobs i).node) := by
  by_cases hf : ∃ result, scene.phase i = .finished result
  · obtain ⟨result, hresult⟩ := hf
    have hsame := (h.finished hresult).1
    rw [hnext] at hsame
    exact .inl (hresult.trans hsame.symm)
  · right
    rw [not_exists] at hf
    rcases h.result ho.linkFree (ho.held i) hf hnext with
      ⟨_, hfree, hwritten⟩ | ⟨existing, bits, _, _, he⟩
    · rw [hset.place_eq hi] at hfree hwritten
      exact ⟨hfree, hwritten⟩
    · split at he <;> cases he

/-- The target is filled once: by the call that publishes there while nothing is there. -/
theorem step_filled :
    (after.node? target = start.node? target ∧ ∀ j, (jobs j).path = Helper.pathOf target →
        Function.update scene.phase i next j ≠ .finished (.ok .written)) ∨
      (start.node? target = none ∧ ∃ winner, (jobs winner).path = Helper.pathOf target ∧
        Function.update scene.phase i next winner = .finished (.ok .written) ∧
        after.node? target = some (jobs winner).node ∧
        ∀ j, (jobs j).path = Helper.pathOf target →
          Function.update scene.phase i next j = .finished (.ok .written) → j = winner) := by
  have htarget := step_target hset ho hpick h
  rcases ho.filled with ⟨hsame, hnone⟩ | ⟨hfree, winner, haimed, hphase, hnode, honly⟩
  · rcases htarget with hstill | ⟨hfree, hnext, haimed, hwritten⟩
    · left
      refine ⟨hstill.trans hsame, ?_⟩
      intro j hj hphase
      by_cases hji : j = i
      · subst hji
        rw [Function.update_self] at hphase
        rcases step_written hset ho h hj hphase with hold | ⟨hfree, hwritten⟩
        · exact hnone j hj hold
        · rw [hstill, hfree] at hwritten
          cases hwritten
      · rw [Function.update_of_ne hji] at hphase
        exact hnone j hj hphase
    · right
      refine ⟨hsame.symm.trans hfree, i, haimed, ?_, hwritten, ?_⟩
      · rw [Function.update_self]
        exact hnext
      · intro j hj hphase
        by_contra hji
        rw [Function.update_of_ne hji] at hphase
        exact hnone j hj hphase
  · have hstill : after.node? target = scene.files.node? target := by
      rcases htarget with hstill | ⟨habsent, _⟩
      · exact hstill
      · rw [hnode] at habsent
        cases habsent
    right
    refine ⟨hfree, winner, haimed, ?_, hstill.trans hnode, ?_⟩
    · by_cases hwi : winner = i
      · subst hwi
        rw [Function.update_self]
        exact (h.finished hphase).1
      · rw [Function.update_of_ne hwi]
        exact hphase
    · intro j hj hj'
      by_cases hji : j = i
      · subst hji
        rw [Function.update_self] at hj'
        rcases step_written hset ho h hj hj' with hold | ⟨habsent, _⟩
        · exact honly j hj hold
        · rw [hnode] at habsent
          cases habsent
      · rw [Function.update_of_ne hji] at hj'
        exact honly j hj hj'

theorem step_compared (j : ι) (placed : Placed) (hj : (jobs j).path = Helper.pathOf target)
    (hphase : Function.update scene.phase i next j = .finished (.ok placed))
    (hp : placed ≠ .written) :
    ∃ existing bits, after.node? target = some (.file existing bits) ∧
      placed = (jobs j).verdict existing := by
  have hold : scene.phase j = .finished (.ok placed) →
      ∃ existing bits, after.node? target = some (.file existing bits) ∧
        placed = (jobs j).verdict existing := by
    intro hbefore
    obtain ⟨existing, bits, hn, hverdict⟩ := ho.compared j placed hj hbefore hp
    refine ⟨existing, bits, ?_, hverdict⟩
    rcases step_target hset ho hpick h with hstill | ⟨hfree, _⟩
    · exact hstill.trans hn
    · rw [hn] at hfree
      cases hfree
  by_cases hji : j = i
  · subst hji
    rw [Function.update_self] at hphase
    by_cases hf : ∃ result, scene.phase j = .finished result
    · obtain ⟨result, hresult⟩ := hf
      have hsame := (h.finished hresult).1
      rw [hphase] at hsame
      exact hold (hresult.trans hsame.symm)
    · rw [not_exists] at hf
      rcases h.result ho.linkFree (ho.held j) hf hphase with
        ⟨hwritten, _⟩ | ⟨existing, bits, hn, rfl, hverdict⟩
      · exact absurd hwritten hp
      · rw [hset.place_eq hj] at hn
        exact ⟨existing, bits, hn, hverdict⟩
  · rw [Function.update_of_ne hji] at hphase
    exact hold hphase

end
end

/-! ## What a whole run keeps -/

section
variable [DecidableEq ι] {jobs : ι → Job} {target : Location} {start : FileSystem}
variable {scene later : Scene ι} (hset : Setting jobs target)
include hset

theorem step_orderly (ho : Orderly jobs target start scene) (hstep : Step jobs scene later) :
    Orderly jobs target start later := by
  obtain ⟨i, disk, pick, hpick⟩ := hstep
  have h := advance_advances disk pick (jobs i) scene.files (scene.phase i)
  exact
    { kept := step_kept ho hpick h
      linkFree := h.linkFree ho.linkFree (ho.held i) fun directory => (hpick directory).1
      held := step_held ho hpick h
      own := step_own ho hpick h
      fresh := step_fresh hset ho hpick h
      filled := step_filled hset ho hpick h
      compared := step_compared hset ho hpick h
      accounted := step_accounted ho hpick h }

theorem run_orderly (ho : Orderly jobs target start scene) (hrun : Run jobs scene later) :
    Orderly jobs target start later := by
  induction hrun with
  | refl => exact ho
  | tail _ hstep ih => exact step_orderly hset ih hstep

/-- What is at the target stays there. -/
theorem run_target (ho : Orderly jobs target start scene) (hrun : Run jobs scene later)
    {node : Node} (hn : scene.files.node? target = some node) :
    later.files.node? target = some node := by
  induction hrun with
  | refl => exact hn
  | @tail between _ hbefore hstep ih =>
    have hbetween := run_orderly hset ho hbefore
    obtain ⟨i, disk, pick, hpick⟩ := hstep
    have h := advance_advances disk pick (jobs i) between.files (between.phase i)
    rcases step_target hset hbetween hpick h with hstill | ⟨hfree, _⟩
    · exact hstill.trans ih
    · rw [ih] at hfree
      cases hfree

end

end WorkDepot.Staging
