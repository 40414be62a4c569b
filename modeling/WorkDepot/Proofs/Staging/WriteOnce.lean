import WorkDepot.Proofs.Staging.Bindings

/-! # Staging as a write-once map

Since each call does to the files what binding does to the map, the files after any number of calls
are those of the map, whatever fingerprints coincide. A name that has been bound stays bound to its
content, so a later call for it is answered as the first one was, or refused. All this is within the
operating system's limits for paths: beyond them the first call of a name is refused.
-/
namespace WorkDepot
open FileSystem Placement.Hashed

/-- Stages contents one after the other. -/
def Depot.stageAll (depot : Depot) :
    List (Text × Bytes) → World → List (Except Staging.Error Staging.Staged) × World
  | [], world => ([], world)
  | (label, content) :: calls, world =>
    let (result, world) := depot.stage label content world
    let (results, world) := stageAll depot calls world
    (result :: results, world)

namespace Staging

/-- What calls report and bind when they are made to the map. -/
def bindAll (depot : Depot) (layout : Layout) :
    List (Text × Bytes) → Bindings → List (Except Error Staged) × Bindings
  | [], bindings => ([], bindings)
  | (label, content) :: calls, bindings =>
    let (placed, bindings) := bindings.bind (depot.filenameOf label content) content
    let (results, bindings) := bindAll depot layout calls bindings
    (reported (named depot layout label content) (.ok placed) :: results, bindings)

section
variable {depot : Depot} {layout : Layout} {top : Location} {names : Set Text} {world : World}

variable (depot layout) in
theorem bindAll_bound {name : Text} {existing : Bytes} (calls : List (Text × Bytes))
    {bindings : Bindings} (h : bindings name = some existing) :
    (bindAll depot layout calls bindings).2 name = some existing := by
  induction calls generalizing bindings with
  | nil => exact h
  | cons call calls ih => exact ih (Bindings.bind_bound h _ _)

variable (depot layout) in
theorem bindAll_append (first second : List (Text × Bytes)) (bindings : Bindings) :
    (bindAll depot layout (first ++ second) bindings).2 =
      (bindAll depot layout second (bindAll depot layout first bindings).2).2 := by
  induction first generalizing bindings with
  | nil => rfl
  | cons call first ih => exact ih _

/-- All calls together do what all bindings do. -/
theorem stageAll_binds {calls : List (Text × Bytes)} (hd : IsHashed depot layout)
    (hs : ∀ call ∈ calls, Stageable depot call)
    (hm : ∀ call ∈ calls, depot.filenameOf call.1 call.2 ∈ names)
    (hr : Ready layout top names world.files)
    (hw : ∀ call ∈ calls, Within layout top world.files (depot.filenameOf call.1 call.2)) :
    let after := (depot.stageAll calls world).2.files
    let binding := bindAll depot layout calls (bound layout top world.files)
    (depot.stageAll calls world).1 = binding.1 ∧ bound layout top after = binding.2 ∧
      Ready layout top names after ∧ world.files ≤ after ∧
      ∀ location ∈ newFiles world.files after, ∃ call ∈ calls,
        location = layout.entryAt (depot.filenameOf call.1 call.2) top := by
  induction calls generalizing world with
  | nil =>
    refine ⟨rfl, rfl, hr, le_rfl, ?_⟩
    intro location hl
    change location ∈ newFiles world.files world.files at hl
    simp [newFiles_self] at hl
  | cons call calls ih =>
    obtain ⟨label, content⟩ := call
    obtain ⟨hresult, hbound, hready, hle, hnew, _⟩ := stage_binds hd (hs _ List.mem_cons_self) hr
      (hm _ List.mem_cons_self) (hw _ List.mem_cons_self)
    obtain ⟨hresults, hbounds, hreadies, hles, hnews⟩ := ih
      (fun call hc => hs call (List.mem_cons_of_mem _ hc))
      (fun call hc => hm call (List.mem_cons_of_mem _ hc)) hready
      (fun call hc => (hw call (List.mem_cons_of_mem _ hc)).later hle)
    rw [hbound] at hresults hbounds
    refine ⟨?_, hbounds, hreadies, hle.trans hles, ?_⟩
    · simp only [Depot.stageAll, bindAll, hresult, hresults]
    · rintro location ⟨hfile, hnot⟩
      by_cases hbetween : (depot.stage label content world).2.files.IsFile location
      · exact ⟨_, List.mem_cons_self, hnew ⟨hbetween, hnot⟩⟩
      · obtain ⟨call, hc, hl⟩ := hnews location ⟨hfile, hbetween⟩
        exact ⟨call, List.mem_cons_of_mem _ hc, hl⟩

theorem not_conflict_of_ok {staged found : Staged} {placed : Placed}
    (h : reported staged (.ok placed) = .ok found) : placed ≠ .conflict := by
  rintro rfl
  cases h

section
variable {earlier : List (Text × Bytes)} {label : Text} {content : Bytes}
variable (hd : IsHashed depot layout) (hr : Ready layout top names world.files)
include hd hr

/-- A call whose name has been bound by earlier calls changes nothing. -/
theorem stage_of_bound {existing : Bytes} (hs : ∀ call ∈ earlier, Stageable depot call)
    (hm : ∀ call ∈ earlier, depot.filenameOf call.1 call.2 ∈ names)
    (hw : ∀ call ∈ earlier, Within layout top world.files (depot.filenameOf call.1 call.2))
    (hcall : Stageable depot (label, content)) (hname : depot.filenameOf label content ∈ names)
    (hwithin : Within layout top world.files (depot.filenameOf label content))
    (hb : (bindAll depot layout earlier (bound layout top world.files)).2
      (depot.filenameOf label content) = some existing) :
    let before := (depot.stageAll earlier world).2
    (depot.stage label content before).1 = reported (named depot layout label content)
        (.ok (if existing = content then .identical else .conflict)) ∧
      (depot.stage label content before).2.files = before.files := by
  obtain ⟨_, hbefore, hready, hle, _⟩ := stageAll_binds hd hs hm hr hw
  rw [← hbefore] at hb
  obtain ⟨hresult, _, _, _, _, hsame⟩ :=
    stage_binds hd hcall hready hname (hwithin.later hle)
  rw [Bindings.bind_of_bound hb] at hresult
  exact ⟨hresult, hsame (by simp [hb])⟩

/-- The name of a call that succeeds stays bound to its content, whatever calls come after it. -/
theorem bound_of_ok {staged : Staged} (between : List (Text × Bytes))
    (hs : ∀ call ∈ earlier, Stageable depot call)
    (hm : ∀ call ∈ earlier, depot.filenameOf call.1 call.2 ∈ names)
    (hw : ∀ call ∈ earlier, Within layout top world.files (depot.filenameOf call.1 call.2))
    (hcall : Stageable depot (label, content)) (hname : depot.filenameOf label content ∈ names)
    (hwithin : Within layout top world.files (depot.filenameOf label content))
    (hok : (depot.stage label content (depot.stageAll earlier world).2).1 = .ok staged) :
    (bindAll depot layout (earlier ++ (label, content) :: between)
      (bound layout top world.files)).2 (depot.filenameOf label content) = some content := by
  obtain ⟨_, hbefore, hready, hle, _⟩ := stageAll_binds hd hs hm hr hw
  obtain ⟨hresult, _⟩ := stage_binds hd hcall hready hname (hwithin.later hle)
  have hself := Bindings.bind_self (not_conflict_of_ok (hresult.symm.trans hok))
  rw [hbefore] at hself
  rw [bindAll_append]
  exact bindAll_bound depot layout between hself

end

/-- Calls of staging, seen as calls of a write-once map: what they report, what they leave, and what
a call does whose name has been bound. -/
structure WriteOnce (depot : Depot) (layout : Layout) (top : Location)
    (calls : List (Text × Bytes)) (world : World) : Prop where
  results : (depot.stageAll calls world).1 =
    (bindAll depot layout calls (bound layout top world.files)).1
  bindings : bound layout top (depot.stageAll calls world).2.files =
    (bindAll depot layout calls (bound layout top world.files)).2
  kept : world.files ≤ (depot.stageAll calls world).2.files
  accounted : ∀ location ∈ newFiles world.files (depot.stageAll calls world).2.files,
    ∃ call ∈ calls, location = layout.entryAt (depot.filenameOf call.1 call.2) top
  unchanged : ∀ earlier label content later, calls = earlier ++ (label, content) :: later →
    (bindAll depot layout earlier (bound layout top world.files)).2
      (depot.filenameOf label content) ≠ none →
    (depot.stage label content (depot.stageAll earlier world).2).2.files =
      (depot.stageAll earlier world).2.files
  again : ∀ earlier label content between label' content' later,
    calls = earlier ++ (label, content) :: (between ++ (label', content') :: later) →
    depot.filenameOf label' content' = depot.filenameOf label content →
    (∃ staged, (depot.stage label content (depot.stageAll earlier world).2).1 = .ok staged) →
    let before := (depot.stageAll (earlier ++ (label, content) :: between) world).2
    (depot.stage label' content' before).1 = reported (named depot layout label' content')
        (.ok (if content = content' then .identical else .conflict)) ∧
      (depot.stage label' content' before).2.files = before.files

/-- With the hashed layout, staging refines a write-once map, within the limits for paths. -/
theorem stageAll_writeOnce {calls : List (Text × Bytes)} (hd : IsHashed depot layout)
    (hs : ∀ call ∈ calls, Stageable depot call)
    (hr : Ready layout top {name | ∃ call ∈ calls, name = depot.filenameOf call.1 call.2}
      world.files)
    (hw : ∀ call ∈ calls, Within layout top world.files (depot.filenameOf call.1 call.2)) :
    WriteOnce depot layout top calls world := by
  have hm : ∀ call ∈ calls, depot.filenameOf call.1 call.2 ∈
      {name | ∃ call ∈ calls, name = depot.filenameOf call.1 call.2} :=
    fun call hc => ⟨call, hc, rfl⟩
  obtain ⟨hresults, hbindings, _, hle, hnew⟩ := stageAll_binds hd hs hm hr hw
  refine ⟨hresults, hbindings, hle, hnew, ?_, ?_⟩
  · rintro earlier label content later rfl hbound
    have hearlier : ∀ call ∈ earlier, call ∈ earlier ++ (label, content) :: later :=
      fun call hc => List.mem_append_left _ hc
    have hcall : (label, content) ∈ earlier ++ (label, content) :: later := by simp
    obtain ⟨existing, hb⟩ := Option.ne_none_iff_exists'.mp hbound
    exact (stage_of_bound hd hr (fun call hc => hs call (hearlier call hc))
      (fun call hc => hm call (hearlier call hc)) (fun call hc => hw call (hearlier call hc))
      (hs _ hcall) (hm _ hcall) (hw _ hcall) hb).2
  · rintro earlier label content between label' content' later rfl hname ⟨staged, hok⟩
    have hearlier : ∀ call ∈ earlier ++ (label, content) :: between,
        call ∈ earlier ++ (label, content) :: (between ++ (label', content') :: later) := by
      rw [← List.cons_append, ← List.append_assoc]
      exact fun call hc => List.mem_append_left _ hc
    have hbefore : ∀ call ∈ earlier, call ∈ earlier ++ (label, content) :: between :=
      fun call hc => List.mem_append_left _ hc
    have hfirst := hearlier (label, content) (by simp)
    have hagain : (label', content') ∈
        earlier ++ (label, content) :: (between ++ (label', content') :: later) := by simp
    have hb := bound_of_ok hd hr between (fun call hc => hs call (hearlier call (hbefore call hc)))
      (fun call hc => hm call (hearlier call (hbefore call hc)))
      (fun call hc => hw call (hearlier call (hbefore call hc)))
      (hs _ hfirst) (hm _ hfirst) (hw _ hfirst) hok
    rw [← hname] at hb
    exact stage_of_bound hd hr (fun call hc => hs call (hearlier call hc))
      (fun call hc => hm call (hearlier call hc)) (fun call hc => hw call (hearlier call hc))
      (hs _ hagain) (hm _ hagain) (hw _ hagain) hb

/-- The limits cannot be left out: a first call beyond them is refused. -/
theorem within_of_writeOnce {label : Text} {content : Bytes} {calls : List (Text × Bytes)}
    (hd : IsHashed depot layout) (hs : Stageable depot (label, content))
    (hr : Ready layout top names world.files) (hm : depot.filenameOf label content ∈ names)
    (h : WriteOnce depot layout top ((label, content) :: calls) world) :
    Within layout top world.files (depot.filenameOf label content) := by
  by_contra hw
  have hrefused := stage_of_beyond hd hs hr hm hw
  have hresult : (depot.stage label content world).1 = reported (named depot layout label content)
      (.ok ((bound layout top world.files).bind (depot.filenameOf label content) content).1) :=
    (List.cons.inj h.results).1
  rw [hresult] at hrefused
  generalize ((bound layout top world.files).bind _ content).1 = placed at hrefused
  cases placed <;> simp [reported] at hrefused

end

/-- A layout of one bucket. -/
def narrow : Layout := ⟨"/d".toList, 1⟩

/-- A depot over a layout that takes all contents to be the same. -/
def confused (layout : Layout) : Depot where
  oracle := layout.oracle
  fingerprinter := .constant "ab".toList
  tool := .scripted 0 []

theorem isHashed_confused (layout : Layout) : IsHashed (confused layout) layout where
  oracle := rfl
  disk := rfl
  fingerprints content := by
    have hhex : Text.IsLowerHex "ab".toList := by simp [Text.IsLowerHex, Text.hexDigits]
    exact hhex

theorem narrow_bucketName (filename : Text) : narrow.bucketName filename = ['0'] := by
  have hzero : narrow.bucket filename = 0 := Nat.mod_one _
  rw [Layout.bucketName, hzero]
  rfl

theorem narrow_expectedPath : narrow.expectedPath "p_ab".toList = "/d/0/p_ab".toList := by
  change Path.join (narrow.bucketPath "p_ab".toList) "p_ab".toList = _
  rw [Layout.bucketPath, narrow_bucketName]
  decide

theorem narrow_within (files : FileSystem) : Within narrow ["d".toList] files "p_ab".toList where
  path := by
    rw [narrow_expectedPath]
    decide
  temp _ := by
    rw [Layout.bucketPath, narrow_bucketName]
    decide

def emptyDepot : FileSystem := FileSystem.empty.insert ["d".toList] .directory

theorem emptyDepot_node? {location : Location} (h : 2 ≤ location.length) :
    emptyDepot.node? location = none := by
  have hne : location ≠ ["d".toList] := by
    rintro rfl
    simp at h
  have hroot : location ≠ [] := by
    rintro rfl
    simp at h
  rw [emptyDepot, node?_insert_of_ne hne, node?_of_ne hroot]
  simp [FileSystem.empty]

theorem narrow_ready (names : Set Text) : Ready narrow ["d".toList] names emptyDepot := by
  have hvacant : FileSystem.empty.Vacant ["d".toList] := ⟨rfl, rfl⟩
  refine ⟨isTree_empty.insert hvacant _, ⟨by decide, by decide, by decide +kernel, ?_⟩, ?_, ?_⟩
  · exact node?_insert_self hvacant.ne_nil
  · intro filename node hn
    rw [emptyDepot_node? (by simp [Layout.bucketAt])] at hn
    cases hn
  · intro filename _ node hn
    rw [emptyDepot_node? (by simp [Layout.entryAt, Layout.bucketAt])] at hn
    cases hn

/-- The first of two contents with one name is kept and found again, and the other one is
reported. -/
theorem stageAll_writeOnce_confused :
    let calls : List (Text × Bytes) := [("p".toList, [1]), ("p".toList, [2]), ("p".toList, [1])]
    let world : World := { files := emptyDepot }
    IsHashed (confused narrow) narrow ∧ (∀ call ∈ calls, Stageable (confused narrow) call) ∧
      ((confused narrow).stageAll calls world).1 =
        [.ok ⟨"p_ab".toList, "ab".toList, "/d/0/p_ab".toList, .created⟩,
          .error (.conflict "p_ab".toList "/d/0/p_ab".toList),
          .ok ⟨"p_ab".toList, "ab".toList, "/d/0/p_ab".toList, .alreadyPresent⟩] := by
  intro calls world
  have hd := isHashed_confused narrow
  have hlabel : ∀ call ∈ calls, call.1 = "p".toList := by
    intro call hc
    simp only [calls, List.mem_cons, List.not_mem_nil, or_false] at hc
    rcases hc with rfl | rfl | rfl <;> rfl
  have hfilename : ∀ call ∈ calls,
      (confused narrow).filenameOf call.1 call.2 = "p_ab".toList := by
    intro call hc
    rw [hlabel call hc]
    rfl
  have hs : ∀ call ∈ calls, Stageable (confused narrow) call := by
    intro call hc
    refine ⟨?_, ?_, ?_, ?_⟩
    · rw [hlabel call hc]
      decide
    · rw [hlabel call hc]
      decide
    · rw [hlabel call hc]
      decide
    · rw [hfilename call hc]
      decide
  have hr : Ready narrow ["d".toList]
      {name | ∃ call ∈ calls, name = (confused narrow).filenameOf call.1 call.2} world.files :=
    narrow_ready _
  have hw : ∀ call ∈ calls,
      Within narrow ["d".toList] world.files ((confused narrow).filenameOf call.1 call.2) := by
    intro call hc
    rw [hfilename call hc]
    exact narrow_within _
  have hresults := (stageAll_writeOnce hd hs hr hw).results
  have hname : ∀ content, (confused narrow).filenameOf "p".toList content = "p_ab".toList :=
    fun _ => rfl
  have hnamed : ∀ content, named (confused narrow) narrow "p".toList content =
      ⟨"p_ab".toList, "ab".toList, "/d/0/p_ab".toList, .created⟩ := by
    intro content
    rw [named, hname, narrow_expectedPath]
    rfl
  have hfree : bound narrow ["d".toList] world.files "p_ab".toList = none := by
    rw [bound, emptyDepot_node? (by simp [Layout.entryAt, Layout.bucketAt])]
  refine ⟨hd, hs, ?_⟩
  rw [hresults]
  simp only [calls, bindAll, hname, hnamed, Bindings.bind, hfree, Function.update_self]
  rfl

/-- A layout of one bucket in the root, which is spelled with so many slashes. -/
def deep (depth : Nat) : Layout := ⟨List.replicate depth '/', 1⟩

section
variable {depth : Nat}

theorem deep_bucketPath (h : 0 < depth) (filename : Text) :
    (deep depth).bucketPath filename = List.replicate depth '/' ++ ['0'] := by
  have hname : (deep depth).bucketName filename = ['0'] := narrow_bucketName filename
  have hempty : (List.replicate depth '/').isEmpty = false := by
    simpa using Nat.ne_of_gt h
  have hlast : (List.replicate depth '/').getLast? = some '/' := by
    rw [List.getLast?_replicate, if_neg (Nat.ne_of_gt h)]
  rw [Layout.bucketPath, hname]
  simp [Path.join, deep, hempty, hlast, Path.isAbsolute]

theorem byteLength_deep (h : 0 < depth) (filename : Text) {path : Text}
    (hr : ¬ Path.isAbsolute path) :
    Text.byteLength (Path.join ((deep depth).bucketPath filename) path) =
      depth + 2 + Text.byteLength path := by
  have hslash : (Text.encodeChar '/').length = 1 := by decide
  have hbucket : Text.byteLength ['0'] = 1 := by decide
  have hpath := Text.byteLength_cons '/' path
  rw [Layout.join_bucketPath _ _ hr, deep_bucketPath h, Text.byteLength_append,
    Text.byteLength_append, Text.byteLength_replicate, hpath, hbucket, hslash]
  omega

theorem deep_grounded (hpos : 0 < depth) (hlt : depth < pathLimit) :
    (deep depth).Grounded FileSystem.empty [] := by
  obtain ⟨before, rfl⟩ := Nat.exists_eq_succ_of_ne_zero (Nat.ne_of_gt hpos)
  have hc : checkPath (deep (before + 1)).directory = .ok () := by
    refine checkPath_eq_ok.mpr ⟨?_, List.cons_ne_nil _ _, ?_⟩
    · simp [deep]
    · rw [deep, Text.byteLength_replicate]
      simpa [Text.encodeChar] using hlt
  have hway (count : Nat) : Path.way (List.replicate count '/') = [] := by
    induction count with
    | zero => rfl
    | succ count ih => rw [List.replicate_succ, Path.way_cons_slash, ih]
  have hreach : FileSystem.empty.reach (Path.way (deep (before + 1)).directory) = .ok [] := by
    rw [deep, hway, reach_nil]
  obtain ⟨hlocated, hdirectory⟩ := (reach_way_eq_ok_iff hc).mp hreach
  exact ⟨rfl, by simp [deep], hlocated, hdirectory⟩

theorem deep_ready (hpos : 0 < depth) (hlt : depth < pathLimit) (names : Set Text) :
    Ready (deep depth) [] names FileSystem.empty := by
  refine ⟨isTree_empty, deep_grounded hpos hlt, ?_, ?_⟩
  · intro filename node hn
    simp [Layout.bucketAt, node?_cons, FileSystem.empty] at hn
  · intro filename _ node hn
    simp [Layout.entryAt, Layout.bucketAt, node?_cons, FileSystem.empty] at hn

theorem deep_refuted {label : Text} (hpos : 0 < depth) (hlt : depth < pathLimit)
    (hs : Stageable (confused (deep depth)) (label, []))
    (hw : ¬ Within (deep depth) [] .empty (filename label "ab".toList)) :
    ¬ WriteOnce (confused (deep depth)) (deep depth) [] [(label, [])] { files := .empty } := by
  have hd := isHashed_confused (deep depth)
  exact fun h => hw (within_of_writeOnce hd hs (deep_ready hpos hlt Set.univ) (Set.mem_univ _) h)

end

/-- Without the limits staging is not a write-once map. Below a directory that is there, a name may
be short enough and its path too long; or that path is short enough, and the one of the temporary
file is too long. -/
theorem not_writeOnce_deep :
    let refuted (depth : Nat) (label : Text) : Prop :=
      let calls : List (Text × Bytes) := [(label, [])]
      let world : World := { files := FileSystem.empty }
      let depot := confused (deep depth)
      let names := {name | ∃ call ∈ calls, name = depot.filenameOf call.1 call.2}
      IsHashed depot (deep depth) ∧ (∀ call ∈ calls, Stageable depot call) ∧
        Ready (deep depth) [] names world.files ∧
        ¬ WriteOnce depot (deep depth) [] calls world
    refuted 3850 (List.replicate 252 'p') ∧ refuted 4080 ['p'] := by
  intro refuted
  have hrefuted (depth : Nat) (label : Text) (hpos : 0 < depth) (hlt : depth < pathLimit)
      (hs : Stageable (confused (deep depth)) (label, []))
      (hw : ¬ Within (deep depth) [] .empty (filename label "ab".toList)) :
      refuted depth label :=
    ⟨isHashed_confused _, fun call hc => List.mem_singleton.mp hc ▸ hs,
      deep_ready hpos hlt _, deep_refuted hpos hlt hs hw⟩
  constructor
  · have hother {c : Char} (hc : c ≠ 'p') : c ∉ List.replicate 252 'p' :=
      fun hm => hc (List.eq_of_mem_replicate hm)
    have hlength : Text.byteLength (filename (List.replicate 252 'p') "ab".toList) = 255 := by
      rw [filename, Text.byteLength_append, Text.byteLength_replicate]
      decide
    have hrelative : ¬ Path.isAbsolute (filename (List.replicate 252 'p') "ab".toList) := by
      intro ha
      cases ha
    refine hrefuted 3850 _ (by decide) (by decide) ⟨hother (by decide), hother (by decide),
      hother (by decide), Nat.le_of_eq hlength⟩ fun hw => ?_
    have hpath := (byteLength_deep (by decide) _ hrelative).symm.trans_lt hw.path
    rw [hlength] at hpath
    exact absurd hpath (by decide)
  · refine hrefuted 4080 _ (by decide) (by decide) ⟨by decide, by decide, by decide, by decide⟩ ?_
    intro hw
    have htemp := (byteLength_deep (by decide) _ (by decide)).symm.trans_lt (hw.temp rfl)
    exact absurd htemp (by decide)

end Staging
end WorkDepot
