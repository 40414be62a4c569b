import WorkDepot.Proofs.Placement.Lookup

/-! # What decides a call

With the hashed layout, what a call of staging does is decided by two nodes: what stands at the
place of its bucket, and what stands at its own place. They decide what the call reports and which
nodes it supplies, for names that are refused as well. A call for another name leaves the verdict as
it is: it may supply the bucket of both, but to the verdict a bucket that is there and one that can
be made are the same.
-/
namespace WorkDepot
open FileSystem Placement.Hashed

namespace Staging
variable {depot : Depot} {layout : Layout} {call first second : Text × Bytes} {label : Text}
variable {files : FileSystem} {top directory : Location} {content : Bytes} {mode : Mode}
variable {base : Text} {name : Name} {cause : IoFault}

/-! ## Names and places -/

/-- The name as staging makes it, with its path in the layout. -/
def named (depot : Depot) (layout : Layout) (label : Text) (content : Bytes) : Staged where
  filename := depot.filenameOf label content
  fingerprint := depot.fingerprinter.fingerprint content
  path := layout.expectedPath (depot.filenameOf label content)
  outcome := .created

/-- A depot over a hashed layout, with a disk that does not fail. -/
structure IsHashed (depot : Depot) (layout : Layout) : Prop where
  oracle : depot.oracle = layout.oracle
  disk : depot.disk = .sound
  fingerprints : ∀ content, Text.IsLowerHex (depot.fingerprinter.fingerprint content)

theorem filename_ne_tempName (label fingerprint : Text) (number : Nat) :
    filename label fingerprint ≠ tempName number := by
  intro he
  have hmem := underscore_mem_filename label fingerprint
  rw [he] at hmem
  change '_' ∈ ".gridstage-".toList ++ (Text.decimal number).leftpad 6 '0' at hmem
  rw [List.leftpad, List.mem_append, List.mem_append] at hmem
  rcases hmem with hprefix | hzero | hdigits
  · simp at hprefix
  · exact absurd (List.eq_of_mem_replicate hzero) (by decide)
  · rw [Text.decimal] at hdigits
    exact Nat.underscore_not_in_toDigits hdigits

theorem entryAt_ne_bucketAt (first second : Text) :
    layout.entryAt first top ≠ layout.bucketAt second top := by
  intro he
  have hlength := congrArg List.length he
  simp [Layout.entryAt, Layout.bucketAt] at hlength

theorem entryAt_injective : Function.Injective fun filename => layout.entryAt filename top := by
  intro first second he
  exact (List.cons.inj he).1

/-! ## Staging as far as files go -/

/-- Staging with a hashed layout, on the files alone. -/
def stageOn (depot : Depot) (layout : Layout) (call : Text × Bytes) (files : FileSystem) :
    Except Error Staged × FileSystem :=
  let filename := depot.filenameOf call.1 call.2
  match files.makeDirectories (layout.bucketPath filename) with
  | (.error cause, files) =>
    (.error (.oracle (.notStarted "hashed-placement-oracle".toList cause)), files)
  | (.ok (), files) =>
    match Placement.readAnswer filename (layout.expectedPath filename ++ ['\n']) with
    | .error failure => (.error (.oracle failure), files)
    | .ok path =>
      let (placed, files) := placeContent .sound files path call.2 depot.fileMode
      (reported (named depot layout call.1 call.2) placed, files)

/-- A good answer is the path in the layout. -/
theorem path_of_readAnswer (hd : IsHashed depot layout) (hu : layout.Unindented)
    (hl : '/' ∉ label) {path : Text}
    (h : Placement.readAnswer (depot.filenameOf label content)
      (layout.expectedPath (depot.filenameOf label content) ++ ['\n']) = .ok path) :
    path = layout.expectedPath (depot.filenameOf label content) := by
  obtain ⟨rfl, -, -⟩ := Placement.readAnswer_eq_ok h
  exact Layout.trim_expectedPath hu
    (Path.not_isAbsolute_of_notMem (filename_plain hl (hd.fingerprints content)).unslashed)
    (filename_closed label (hd.fingerprints content))

theorem stage_eq_stageOn (hd : IsHashed depot layout) (hu : layout.Unindented)
    (hl : '/' ∉ label) (content : Bytes) (world : World) :
    (depot.stage label content world).1 = (stageOn depot layout (label, content) world.files).1 ∧
      (depot.stage label content world).2.files =
        (stageOn depot layout (label, content) world.files).2 := by
  rw [stageOn]
  rcases hmade : world.files.makeDirectories (layout.bucketPath (depot.filenameOf label content))
    with ⟨made, files⟩
  have hplain : Path.Plain (depot.filenameOf label content) :=
    filename_plain hl (hd.fingerprints content)
  obtain ⟨hask, hfiles⟩ := Depot.ask_of_made hd.oracle hplain hmade
  cases made with
  | error cause =>
    obtain ⟨hresult, hafter⟩ := depot.stage_of_failure label content world hask
    exact ⟨hresult, hafter.trans hfiles⟩
  | ok _ =>
    dsimp only
    split
    · next failure hread =>
      obtain ⟨hresult, hafter⟩ := depot.stage_of_failure label content world (hask.trans hread)
      exact ⟨hresult, hafter.trans hfiles⟩
    · next path hread =>
      obtain ⟨hresult, hafter⟩ := depot.stage_of_answer label content world (hask.trans hread)
      rw [hfiles, hd.disk] at hresult hafter
      obtain rfl := path_of_readAnswer hd hu hl hread
      exact ⟨hresult, hafter⟩

/-- The path of the bucket is no good, whatever the files. -/
theorem stageOn_of_checkPath {cause : IoFault}
    (hc : checkPath (layout.bucketPath (depot.filenameOf call.1 call.2)) = .error cause)
    (files : FileSystem) : stageOn depot layout call files =
      (.error (.oracle (.notStarted "hashed-placement-oracle".toList cause)), files) := by
  simp only [stageOn, makeDirectories_of_checkPath (layout.bucketPath_ne_nil _) hc]

/-- Directories are made, and then at most one file. -/
theorem stageOn_cases (hd : IsHashed depot layout) (hu : layout.Unindented) (hl : '/' ∉ call.1)
    (files : FileSystem) :
    ∃ path middle, MadeAbove path files middle ∧
      ((stageOn depot layout call files).2 = middle ∨
        ∃ location bits, middle.Vacant location ∧
          (stageOn depot layout call files).2 = middle.insert location (.file call.2 bits)) := by
  have hplain : Path.Plain (depot.filenameOf call.1 call.2) :=
    filename_plain hl (hd.fingerprints call.2)
  have hmade := makeDirectories_made files (layout.parent?_expectedPath hplain)
  rw [stageOn]
  dsimp only
  split
  · next he =>
    rw [he] at hmade
    exact ⟨_, _, hmade, .inl rfl⟩
  · next asked he =>
    rw [he] at hmade
    split
    · exact ⟨_, _, hmade, .inl rfl⟩
    · next path hread =>
      obtain rfl := path_of_readAnswer hd hu hl hread
      obtain ⟨middle, hmore, hsettled⟩ :=
        placeContent_settled .sound asked _ call.2 depot.fileMode
      refine ⟨_, middle, hmade.trans hmore, ?_⟩
      generalize placeContent .sound asked _ call.2 depot.fileMode = placing at hsettled ⊢
      obtain ⟨placed, after⟩ := placing
      cases hsettled with
      | written hv _ => exact .inr ⟨_, _, hv, rfl⟩
      | identical | conflict | failed => exact .inl rfl

theorem le_stageOn (hd : IsHashed depot layout) (hu : layout.Unindented) (hl : '/' ∉ call.1)
    (files : FileSystem) : files ≤ (stageOn depot layout call files).2 := by
  obtain ⟨_, _, hmade, he | ⟨_, _, hv, he⟩⟩ := stageOn_cases hd hu hl files <;> rw [he]
  · exact hmade.le
  · exact hmade.le.trans (le_insert hv.free)

theorem isTree_stageOn (hd : IsHashed depot layout) (hu : layout.Unindented) (hl : '/' ∉ call.1)
    (ht : files.IsTree) : (stageOn depot layout call files).2.IsTree := by
  obtain ⟨_, _, hmade, he | ⟨_, _, hv, he⟩⟩ := stageOn_cases hd hu hl files <;> rw [he]
  · exact hmade.isTree ht
  · exact (hmade.isTree ht).insert hv _

/-- Staging makes no links. -/
theorem link_of_stageOn (hd : IsHashed depot layout) (hu : layout.Unindented) (hl : '/' ∉ call.1)
    {location : Location} {target : Text}
    (h : (stageOn depot layout call files).2.node? location = some (.link target)) :
    files.node? location = some (.link target) := by
  obtain ⟨_, _, hmade, he | ⟨_, _, hv, he⟩⟩ := stageOn_cases hd hu hl files <;> rw [he] at h
  · exact hmade.node?_eq_of_ne h nofun
  · rw [node?_insert hv.ne_nil] at h
    split at h
    · cases h
    · exact hmade.node?_eq_of_ne h nofun

/-! ## Content at an entry of a directory -/

/-- Whether the operating system takes a path that ends in a name. -/
def checkEntry (path : Text) (name : Name) : Except IoFault Unit :=
  (checkPath path).bind fun _ =>
    if nameLimit < Text.byteLength name then .error .nameTooLong else .ok ()

/-- What placing content says in a directory, by what stands at its place. Where nothing is, the
operating system must take the path of a temporary file as well. -/
def placedAt (parent path : Text) (name : Name) (content : Bytes) (entry : Option Node) :
    Except StorageFault Placed :=
  match checkEntry path name with
  | .error cause => .error ⟨.stat, path, cause⟩
  | .ok () =>
    match entry with
    | none =>
      match checkPath (Path.join parent (tempName 0)) with
      | .error cause => .error ⟨.createTemp, parent, cause⟩
      | .ok () => .ok .written
    | some (.file existing _) => .ok (if existing = content then .identical else .conflict)
    | some _ => .error ⟨.read, path, .isDirectory⟩

/-- What comes of it: the content, if it is written. -/
def supplied (placed : Except StorageFault Placed) (location : Location) (node : Node) :
    List (Location × Node) :=
  match placed with
  | .ok .written => [(location, node)]
  | _ => []

section
variable {parent path : Text}

theorem placedAt_none (h : checkEntry path name = .ok ())
    (htemp : checkPath (Path.join parent (tempName 0)) = .ok ()) :
    placedAt parent path name content none = .ok .written := by
  simp only [placedAt, h, htemp]

theorem placedAt_file {existing : Bytes} (h : checkEntry path name = .ok ()) :
    placedAt parent path name content (some (.file existing mode)) =
      .ok (if existing = content then .identical else .conflict) := by
  simp only [placedAt, h]

theorem supplied_compared {same : Prop} [Decidable same] {location : Location} {node : Node} :
    supplied (.ok (if same then .identical else .conflict)) location node = [] := by
  split <;> rfl

theorem placeContent_of_unlocated (h : files.locate path = .error cause)
    (hc : cause ≠ .notFound) :
    placeContent .sound files path content mode = (.error ⟨.stat, path, cause⟩, files) := by
  have hexists : files.exists? path = .error cause := by
    rw [exists?, h]
    split <;> simp_all
  rw [placeContent, sound_try, hexists]
  rfl

theorem placeContent_of_directory (h : files.locate path = .ok directory)
    (hd : files.node? directory = some .directory) :
    placeContent .sound files path content mode = (.error ⟨.read, path, .isDirectory⟩, files) := by
  have hread : files.read path = .error .isDirectory := by
    simp [FileSystem.read, h, hd, bind, Except.bind, throw, throwThe, MonadExceptOf.throw]
  rw [placeContent, sound_try, exists?_of_locate h]
  simp [compareExisting, sound_try, hread, Except.mapError, bind, Except.bind]

end

variable (content mode) in
/-- Content placed in a directory that is there: what stands at its place decides, if the path is
good. -/
theorem placeContent_entry (hp : Path.Plain name) (htemp : ∀ number, name ≠ tempName number)
    (hc : checkPath base = .ok ()) (hr : files.reach (Path.way base) = .ok directory)
    (hparent : Path.parent? (base ++ '/' :: name) = some base)
    (hmade : files.makeDirectories base = (.ok (), files))
    (hlink : ∀ target, files.node? (name :: directory) ≠ some (.link target)) :
    let placed :=
      placedAt base (base ++ '/' :: name) name content (files.node? (name :: directory))
    placeContent .sound files (base ++ '/' :: name) content mode =
      (placed, (supplied placed (name :: directory)
        (.file content (permissionBits mode))).foldl supply files) := by
  intro placed
  have hne : base ++ '/' :: name ≠ [] := by simp
  cases hcheck : checkPath (base ++ '/' :: name) with
  | error cause =>
    have hlocate : files.locate (base ++ '/' :: name) = .error cause := by
      simp [locate, hcheck, bind, Except.bind]
    have hplaced : placed = .error ⟨.stat, base ++ '/' :: name, cause⟩ := by
      simp only [placed, placedAt, checkEntry, hcheck, Except.bind]
    have hcause : cause ≠ .notFound := by
      rintro rfl
      exact checkPath_ne_notFound hne hcheck
    rw [hplaced]
    exact placeContent_of_unlocated hlocate hcause
  | ok _ =>
    -- With a name that is too long there is no slot, and the first look fails.
    by_cases hlong : nameLimit < Text.byteLength name
    · have hplaced : placed = .error ⟨.stat, base ++ '/' :: name, .nameTooLong⟩ := by
        simp only [placed, placedAt, checkEntry, hcheck, Except.bind, if_pos hlong]
      rw [hplaced]
      exact placeContent_of_unlocated (locate_of_long hp hcheck hr hlong) (by simp)
    · have hslot := slot_of_reach hp hcheck hr (Nat.le_of_not_lt hlong)
      have hentry : checkEntry (base ++ '/' :: name) name = .ok () := by
        simp only [checkEntry, hcheck, Except.bind, if_neg hlong]
      cases hn : files.node? (name :: directory) with
      | none =>
        rw [placeContent_of_free hslot hn hparent hmade]
        cases htaken : checkPath (Path.join base (tempName 0)) with
        | error cause =>
          have hplaced : placed = .error ⟨.createTemp, base, cause⟩ := by
            simp only [placed, placedAt, hentry, hn, htaken]
          rw [hplaced]
          exact placeNew_of_error (tempDirectory_of_checkPath htaken files)
        | ok _ =>
          obtain ⟨hlead, hdirectory⟩ := (reach_way_eq_ok_iff hc).mp hr
          have hbelow :=
            tempDirectory_of_locate htaken (locateDirectory_of_locate hlead hdirectory)
          simp only [placed, hn, placedAt_none hentry htaken, supplied, List.foldl_cons,
            List.foldl_nil, supply_of_free hn]
          exact placeNew_of_free hslot rfl hn hbelow htemp
      | some node =>
        cases node with
        | directory =>
          have hplaced : placed = .error ⟨.read, base ++ '/' :: name, .isDirectory⟩ := by
            simp only [placed, placedAt, hentry, hn]
          have hlead := locate_of_slot hslot hn (fun target he => by cases he) (.inl rfl)
          rw [hplaced]
          exact placeContent_of_directory hlead hn
        | link target => exact absurd hn (hlink target)
        | file existing bits =>
          simp only [placed, hn, placedAt_file hentry, supplied_compared, List.foldl_nil]
          exact placeContent_of_file hslot rfl hn

/-! ## The verdict -/

/-- What a call reports and supplies when its bucket is there or can be made, by what stands at its
place. -/
def housedVerdict (depot : Depot) (layout : Layout) (top : Location) (call : Text × Bytes)
    (entry : Option Node) : Except Error Staged × List (Location × Node) :=
  let filename := depot.filenameOf call.1 call.2
  let house := (layout.bucketAt filename top, .directory)
  match Placement.readAnswer filename (layout.expectedPath filename ++ ['\n']) with
  | .error failure => (.error (.oracle failure), [house])
  | .ok path =>
    let placed := placedAt (layout.bucketPath filename) path filename call.2 entry
    (reported (named depot layout call.1 call.2) placed,
      house :: supplied placed (layout.entryAt filename top)
        (.file call.2 (permissionBits depot.fileMode)))

/-- What a call reports and supplies, by what stands at the place of its bucket and at its own. -/
def verdict (depot : Depot) (layout : Layout) (top : Location) (call : Text × Bytes)
    (bucket entry : Option Node) : Except Error Staged × List (Location × Node) :=
  match bucket with
  | some (.file ..) =>
    (.error (.oracle (.notStarted "hashed-placement-oracle".toList .alreadyExists)), [])
  | _ => housedVerdict depot layout top call entry

theorem verdict_of_housed {bucket : Option Node} (h : bucket = none ∨ bucket = some .directory)
    (entry : Option Node) : verdict depot layout top call bucket entry =
      housedVerdict depot layout top call entry := by
  rcases h with rfl | rfl <;> rfl

/-- Two nodes decide a call below a directory that is there. -/
theorem stageOn_eq_verdict (hd : IsHashed depot layout) (hu : layout.Unindented)
    (hr : files.reach (Path.way layout.directory) = .ok top) (hl : '/' ∉ call.1)
    (hc : checkPath (layout.bucketPath (depot.filenameOf call.1 call.2)) = .ok ())
    (hlink : ∀ target, files.node?
      (layout.bucketAt (depot.filenameOf call.1 call.2) top) ≠ some (.link target))
    (hlink' : ∀ target, files.node?
      (layout.entryAt (depot.filenameOf call.1 call.2) top) ≠ some (.link target)) :
    let decided := verdict depot layout top call
      (files.node? (layout.bucketAt (depot.filenameOf call.1 call.2) top))
      (files.node? (layout.entryAt (depot.filenameOf call.1 call.2) top))
    stageOn depot layout call files = (decided.1, decided.2.foldl supply files) := by
  have hplain : Path.Plain (depot.filenameOf call.1 call.2) :=
    filename_plain hl (hd.fingerprints call.2)
  have htemp := filename_ne_tempName call.1 (depot.fingerprinter.fingerprint call.2)
  rcases Layout.makeBucket hr hc hlink with ⟨⟨_, _, hn⟩, hmake⟩ | ⟨hb, hmake⟩
  · simp only [stageOn, hmake, verdict, hn]
    rfl
  · rw [verdict_of_housed hb]
    simp only [stageOn, hmake, housedVerdict]
    split
    · rfl
    · next path hread =>
      obtain rfl := path_of_readAnswer hd hu hl hread
      have hreached := reach_mono
        (le_supply files (layout.bucketAt (depot.filenameOf call.1 call.2) top, .directory)) hr
      have hbucket : (files.supply (layout.bucketAt (depot.filenameOf call.1 call.2) top,
          .directory)).node? (layout.bucketAt (depot.filenameOf call.1 call.2) top) =
            some .directory := by
        rcases hb with hb | hb <;> simp [node?_supply_self, hb]
      have hentry : (files.supply (layout.bucketAt (depot.filenameOf call.1 call.2) top,
          .directory)).node? (layout.entryAt (depot.filenameOf call.1 call.2) top) =
            files.node? (layout.entryAt (depot.filenameOf call.1 call.2) top) :=
        node?_supply_of_ne (entryAt_ne_bucketAt _ _)
      have hparent := layout.parent?_expectedPath hplain
      rw [← hentry] at hlink' ⊢
      rw [layout.expectedPath_eq hplain] at hparent ⊢
      have hplacing := placeContent_entry call.2 depot.fileMode hplain htemp hc
        (Layout.reach_bucket hreached hbucket) hparent
        (Layout.makeDirectories_of_bucket hreached hc hbucket) hlink'
      simp only [hplacing, List.foldl_cons]
      rfl

/-! ## What other calls leave of a verdict -/

section
variable {bucket bucket' entry entry' : Option Node} {added other : Location × Node}

theorem eq_of_mem_supplied {placed : Except StorageFault Placed} {location : Location} {node : Node}
    (h : added ∈ supplied placed location node) : added = (location, node) := by
  unfold supplied at h
  split at h
  · exact List.mem_singleton.mp h
  · cases h

/-- A call supplies its bucket and its entry at most. -/
theorem mem_verdict (h : added ∈ (verdict depot layout top call bucket entry).2) :
    added = (layout.bucketAt (depot.filenameOf call.1 call.2) top, .directory) ∨
      added = (layout.entryAt (depot.filenameOf call.1 call.2) top,
        .file call.2 (permissionBits depot.fileMode)) := by
  unfold verdict at h
  split at h
  · cases h
  · unfold housedVerdict at h
    dsimp only at h
    split at h
    · exact .inl (List.mem_singleton.mp h)
    · exact (List.mem_cons.mp h).imp_right eq_of_mem_supplied

/-- Calls for different names supply the same node where they supply the same location. -/
theorem eq_of_mem_verdict (h : added ∈ (verdict depot layout top first bucket entry).2)
    (h' : other ∈ (verdict depot layout top second bucket' entry').2)
    (hne : first = second ∨ depot.filenameOf first.1 first.2 ≠ depot.filenameOf second.1 second.2)
    (he : added.1 = other.1) : added = other := by
  rcases mem_verdict h with rfl | rfl <;> rcases mem_verdict h' with rfl | rfl
  · exact Prod.ext he rfl
  · exact absurd he.symm (entryAt_ne_bucketAt _ _)
  · exact absurd he (entryAt_ne_bucketAt _ _)
  · rcases hne with rfl | hne
    · rfl
    · exact absurd (entryAt_injective he) hne

end

/-- What one call supplies does not change the verdict of a call for another name. -/
theorem verdict_supplies {bucket entry : Option Node}
    (hne : depot.filenameOf first.1 first.2 ≠ depot.filenameOf second.1 second.2) :
    let after := (verdict depot layout top first bucket entry).2.foldl supply files
    verdict depot layout top second
        (after.node? (layout.bucketAt (depot.filenameOf second.1 second.2) top))
        (after.node? (layout.entryAt (depot.filenameOf second.1 second.2) top)) =
      verdict depot layout top second
        (files.node? (layout.bucketAt (depot.filenameOf second.1 second.2) top))
        (files.node? (layout.entryAt (depot.filenameOf second.1 second.2) top)) := by
  intro after
  have hentry : after.node? (layout.entryAt (depot.filenameOf second.1 second.2) top) =
      files.node? (layout.entryAt (depot.filenameOf second.1 second.2) top) := by
    rcases node?_supplies files (verdict depot layout top first bucket entry).2
      (layout.entryAt (depot.filenameOf second.1 second.2) top) with
      hsame | ⟨_, added, hm, hlocation, _⟩
    · exact hsame
    · rcases mem_verdict hm with rfl | rfl
      · exact absurd hlocation.symm (entryAt_ne_bucketAt _ _)
      · exact absurd (entryAt_injective hlocation) hne
  rw [hentry]
  -- The place of the bucket is as it was, or it was free and now has the bucket.
  rcases node?_supplies files (verdict depot layout top first bucket entry).2
    (layout.bucketAt (depot.filenameOf second.1 second.2) top) with
    hsame | ⟨hfree, added, hm, hlocation, hadded⟩
  · exact congrArg (verdict depot layout top second · _) hsame
  · rcases mem_verdict hm with rfl | rfl
    · rw [verdict_of_housed (.inr hadded), verdict_of_housed (.inl hfree)]
    · exact absurd hlocation (entryAt_ne_bucketAt _ _)

end Staging
end WorkDepot
