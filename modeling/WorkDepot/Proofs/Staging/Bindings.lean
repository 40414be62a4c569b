import WorkDepot.Proofs.Staging.Verdict

/-! # Names bound to contents

With the hashed layout, the files below its directory bind names to contents. Staging under a name
that is free binds it; under a name that is bound, it compares the contents and changes nothing. So
a call does to the files what binding does to the map of names, and reports the same.
-/
namespace WorkDepot
open FileSystem Placement.Hashed

namespace Staging

abbrev Bindings := Text → Option Bytes

/-- A free name is bound; where a name is bound already, the contents are compared. -/
def Bindings.bind (bindings : Bindings) (filename : Text) (content : Bytes) : Placed × Bindings :=
  match bindings filename with
  | none => (.written, Function.update bindings filename (some content))
  | some existing => (if existing = content then .identical else .conflict, bindings)

theorem Bindings.bind_of_bound {bindings : Bindings} {filename : Text} {existing : Bytes}
    (h : bindings filename = some existing) (content : Bytes) :
    bindings.bind filename content =
      (if existing = content then .identical else .conflict, bindings) := by
  simp [bind, h]

/-- What is bound stays bound. -/
theorem Bindings.bind_bound {bindings : Bindings} {name : Text} {existing : Bytes}
    (h : bindings name = some existing) (filename : Text) (content : Bytes) :
    (bindings.bind filename content).2 name = some existing := by
  rw [bind]
  split
  · next hfree =>
    have hne : name ≠ filename := by
      rintro rfl
      rw [h] at hfree
      cases hfree
    exact (Function.update_of_ne hne _ _).trans h
  · exact h

/-- A name that has been bound or found bound to the same content is bound to it afterwards. -/
theorem Bindings.bind_self {bindings : Bindings} {filename : Text} {content : Bytes}
    (h : (bindings.bind filename content).1 ≠ .conflict) :
    (bindings.bind filename content).2 filename = some content := by
  rw [bind] at h ⊢
  split
  · exact Function.update_self _ _ _
  · next existing hbound =>
    rw [hbound] at h
    dsimp only at h ⊢
    split at h
    · next he => rw [hbound, he]
    · exact absurd rfl h

/-- What the files say about names below a layout's directory. -/
def bound (layout : Layout) (top : Location) (files : FileSystem) : Bindings := fun filename =>
  match files.node? (layout.entryAt filename top) with
  | some (.file content _) => some content
  | _ => none

/-- A call whose name the operating system allows. -/
structure Stageable (depot : Depot) (call : Text × Bytes) : Prop where
  unslashed : '/' ∉ call.1
  oneLine : '\n' ∉ call.1
  withoutNul : '\x00' ∉ call.1
  short : Text.byteLength (depot.filenameOf call.1 call.2) ≤ nameLimit

/-- The layout's directory is there, its buckets are directories, and the names in question are
those of files if of anything. -/
structure Ready (layout : Layout) (top : Location) (names : Set Text) (files : FileSystem) :
    Prop where
  tree : files.IsTree
  grounded : layout.Grounded files top
  buckets : ∀ filename node, files.node? (layout.bucketAt filename top) = some node →
    node = .directory
  entries : ∀ filename ∈ names, ∀ node, files.node? (layout.entryAt filename top) = some node →
    ∃ content mode, node = .file content mode

/-- The operating system takes the path of a name and, where nothing is yet, that of a temporary
file beside it. -/
structure Within (layout : Layout) (top : Location) (files : FileSystem) (filename : Text) :
    Prop where
  path : Text.byteLength (layout.expectedPath filename) < pathLimit
  temp : files.node? (layout.entryAt filename top) = none →
    Text.byteLength (Path.join (layout.bucketPath filename) (tempName 0)) < pathLimit

theorem Within.later {layout : Layout} {top : Location} {files after : FileSystem}
    {filename : Text} (h : Within layout top files filename) (hle : files ≤ after) :
    Within layout top after filename :=
  ⟨h.path, fun hn => h.temp (node?_eq_none_of_le hle hn)⟩

/-! ## One call -/

section
variable {depot : Depot} {layout : Layout} {top : Location} {names : Set Text}
variable {label filename : Text} {content : Bytes} {world : World} {files : FileSystem}

theorem bound_eq_some_iff {existing : Bytes} : bound layout top files filename = some existing ↔
    ∃ mode, files.node? (layout.entryAt filename top) = some (.file existing mode) := by
  rw [bound]
  constructor
  · intro h
    split at h
    · next found mode hn =>
      cases h
      exact ⟨mode, hn⟩
    · cases h
  · rintro ⟨mode, hn⟩
    rw [hn]

theorem Ready.free_of_unbound (hr : Ready layout top names files) (hm : filename ∈ names)
    (h : bound layout top files filename = none) :
    files.node? (layout.entryAt filename top) = none := by
  cases hn : files.node? (layout.entryAt filename top) with
  | none => rfl
  | some node =>
    obtain ⟨existing, mode, rfl⟩ := hr.entries filename hm node hn
    rw [bound_eq_some_iff.mpr ⟨mode, hn⟩] at h
    cases h

/-- Where a name is bound its bucket is there. -/
theorem Ready.withBucket_of_bound (hr : Ready layout top names files) {node : Node}
    (hn : files.node? (layout.entryAt filename top) = some node) :
    layout.withBucket filename top files = files := by
  have hbucket := hr.tree filename (layout.bucketAt filename top) node hn
  rw [Layout.withBucket, hbucket]
  exact if_neg (by simp)

/-- The files after a name has been bound. -/
theorem bound_insert {mode : Mode} :
    bound layout top ((layout.withBucket filename top files).insert
        (layout.entryAt filename top) (.file content mode)) =
      Function.update (bound layout top files) filename (some content) := by
  have hroot : layout.entryAt filename top ≠ [] := List.cons_ne_nil _ _
  funext other
  by_cases ho : other = filename
  · subst ho
    rw [Function.update_self]
    exact bound_eq_some_iff.mpr ⟨mode, node?_insert_self hroot⟩
  · have hne : layout.entryAt other top ≠ layout.entryAt filename top :=
      fun he => ho (entryAt_injective he)
    rw [Function.update_of_ne ho, bound, bound, node?_insert_of_ne hne,
      Layout.node?_withBucket_of_ne (entryAt_ne_bucketAt other filename)]

theorem Ready.vacant_entry (hr : Ready layout top names files)
    (hfree : files.node? (layout.entryAt filename top) = none) :
    (layout.withBucket filename top files).Vacant (layout.entryAt filename top) where
  free := (Layout.node?_withBucket_of_ne (entryAt_ne_bucketAt filename filename)).trans hfree
  housed := Layout.node?_withBucket_bucket (hr.buckets filename)

/-- Binding a name keeps the layout in order. -/
theorem Ready.insert (hr : Ready layout top names files)
    (hfree : files.node? (layout.entryAt filename top) = none) {mode : Mode} :
    Ready layout top names ((layout.withBucket filename top files).insert
      (layout.entryAt filename top) (.file content mode)) := by
  have hv := hr.vacant_entry hfree
  have htree : (layout.withBucket filename top files).IsTree := by
    rw [Layout.withBucket]
    split
    · next hn => exact hr.tree.insert ⟨hn, hr.grounded.directory⟩ _
    · exact hr.tree
  have hle : files ≤ (layout.withBucket filename top files).insert (layout.entryAt filename top)
      (.file content mode) := (layout.le_withBucket filename files top).trans (le_insert hv.free)
  refine ⟨htree.insert hv _, hr.grounded.mono hle, ?_, ?_⟩
  · intro other node hn
    rw [node?_insert_of_ne (entryAt_ne_bucketAt filename other).symm] at hn
    by_cases he : layout.bucketAt other top = layout.bucketAt filename top
    · rw [he, Layout.node?_withBucket_bucket (hr.buckets filename)] at hn
      cases hn
      rfl
    · rw [Layout.node?_withBucket_of_ne he] at hn
      exact hr.buckets other node hn
  · intro other hm node hn
    by_cases ho : other = filename
    · subst ho
      rw [node?_insert_self hv.ne_nil] at hn
      cases hn
      exact ⟨content, mode, rfl⟩
    · have hne : layout.entryAt other top ≠ layout.entryAt filename top :=
        fun he => ho (entryAt_injective he)
      rw [node?_insert_of_ne hne,
        Layout.node?_withBucket_of_ne (entryAt_ne_bucketAt other filename)] at hn
      exact hr.entries other hm node hn

section
variable (hd : IsHashed depot layout) (hs : Stageable depot (label, content))
variable (hr : Ready layout top names world.files)

include hd hs in
theorem stageable_plain : Path.Plain (depot.filenameOf label content) :=
  filename_plain hs.unslashed (hd.fingerprints content)

section
include hd hs hr

theorem checkPath_expectedPath :
    checkPath (layout.expectedPath (depot.filenameOf label content)) =
      if pathLimit ≤ Text.byteLength (layout.expectedPath (depot.filenameOf label content)) then
        .error .nameTooLong
      else .ok () := by
  rw [layout.expectedPath_eq (stageable_plain hd hs)]
  exact Layout.checkPath_inBucket hr.grounded
    (notMem_filename hs.withoutNul (by decide) (hd.fingerprints content) (by decide))

theorem checkPath_bucketPath (hlength :
      Text.byteLength (layout.expectedPath (depot.filenameOf label content)) < pathLimit) :
    checkPath (layout.bucketPath (depot.filenameOf label content)) = .ok () := by
  have hcheck := (checkPath_expectedPath hd hs hr).trans (if_neg (Nat.not_le_of_lt hlength))
  rw [layout.expectedPath_eq (stageable_plain hd hs)] at hcheck
  exact checkPath_of_above hcheck ⟨layout.bucketPath_ne_nil _, _, rfl⟩

omit hd hs in
theorem checkPath_temp :
    checkPath (Path.join (layout.bucketPath (depot.filenameOf label content)) (tempName 0)) =
      if pathLimit ≤ Text.byteLength
          (Path.join (layout.bucketPath (depot.filenameOf label content)) (tempName 0)) then
        .error .nameTooLong
      else .ok () := by
  rw [layout.join_bucketPath _ (by decide)]
  exact Layout.checkPath_inBucket hr.grounded (by decide)

/-- What stands at the place of a name decides, once the bucket's path is good. -/
theorem stage_of_ready
    (hc : checkPath (layout.bucketPath (depot.filenameOf label content)) = .ok ())
    (hlink : ∀ target, world.files.node?
      (layout.entryAt (depot.filenameOf label content) top) ≠ some (.link target)) :
    let placed := placedAt (layout.bucketPath (depot.filenameOf label content))
      (layout.expectedPath (depot.filenameOf label content)) (depot.filenameOf label content)
      content (world.files.node? (layout.entryAt (depot.filenameOf label content) top))
    (depot.stage label content world).1 = reported (named depot layout label content) placed ∧
      (depot.stage label content world).2.files =
        (supplied placed (layout.entryAt (depot.filenameOf label content) top)
          (.file content (permissionBits depot.fileMode))).foldl supply
          (layout.withBucket (depot.filenameOf label content) top world.files) := by
  have hhex := hd.fingerprints content
  have hbuckets := hr.buckets (depot.filenameOf label content)
  have hbucket (target : Text) : world.files.node?
      (layout.bucketAt (depot.filenameOf label content) top) ≠ some (.link target) := by
    intro hn
    cases hbuckets _ hn
  have hhoused : world.files.node? (layout.bucketAt (depot.filenameOf label content) top) = none ∨
      world.files.node? (layout.bucketAt (depot.filenameOf label content) top) =
        some .directory := by
    cases hn : world.files.node? (layout.bucketAt (depot.filenameOf label content) top) with
    | none => exact .inl rfl
    | some node => exact .inr (by rw [hbuckets node hn])
  have hverdict := stageOn_eq_verdict hd hr.grounded.unindented hr.grounded.reached hs.unslashed hc
    hbucket hlink
  have hread := Layout.readAnswer_expectedPath hr.grounded.absolute hr.grounded.oneLine
    (Path.not_isAbsolute_of_notMem (stageable_plain hd hs).unslashed)
    (notMem_filename hs.oneLine (by decide) hhex (by decide)) (filename_closed label hhex)
  obtain ⟨hresult, hafter⟩ :=
    stage_eq_stageOn hd hr.grounded.unindented hs.unslashed content world
  rw [hverdict, verdict_of_housed hhoused] at hresult hafter
  simp only [housedVerdict, hread] at hresult hafter
  exact ⟨hresult, hafter⟩

theorem checkEntry_of_stageable (hlength :
      Text.byteLength (layout.expectedPath (depot.filenameOf label content)) < pathLimit) :
    checkEntry (layout.expectedPath (depot.filenameOf label content))
      (depot.filenameOf label content) = .ok () := by
  rw [checkEntry, checkPath_expectedPath hd hs hr, if_neg (Nat.not_le_of_lt hlength)]
  exact if_neg (Nat.not_lt.mpr hs.short)

theorem stage_of_file {existing : Bytes} {bits : Mode}
    (hw : Within layout top world.files (depot.filenameOf label content))
    (hn : world.files.node? (layout.entryAt (depot.filenameOf label content) top) =
      some (.file existing bits)) :
    (depot.stage label content world).1 = reported (named depot layout label content)
        (.ok (if existing = content then .identical else .conflict)) ∧
      (depot.stage label content world).2.files = world.files := by
  obtain ⟨hresult, hafter⟩ := stage_of_ready hd hs hr (checkPath_bucketPath hd hs hr hw.path)
    fun target he => by
      rw [hn] at he
      cases he
  rw [hn, placedAt_file (checkEntry_of_stageable hd hs hr hw.path)] at hresult hafter
  rw [supplied_compared, hr.withBucket_of_bound hn] at hafter
  exact ⟨hresult, hafter⟩

theorem stage_of_free
    (hw : Within layout top world.files (depot.filenameOf label content))
    (hn : world.files.node? (layout.entryAt (depot.filenameOf label content) top) = none) :
    (depot.stage label content world).1 =
        reported (named depot layout label content) (.ok .written) ∧
      (depot.stage label content world).2.files =
        (layout.withBucket (depot.filenameOf label content) top world.files).insert
          (layout.entryAt (depot.filenameOf label content) top)
          (.file content (permissionBits depot.fileMode)) := by
  have htaken := (checkPath_temp hr).trans (if_neg (Nat.not_le_of_lt (hw.temp hn)))
  obtain ⟨hresult, hafter⟩ := stage_of_ready hd hs hr (checkPath_bucketPath hd hs hr hw.path)
    fun target he => by
      rw [hn] at he
      cases he
  rw [hn, placedAt_none (checkEntry_of_stageable hd hs hr hw.path) htaken] at hresult hafter
  exact ⟨hresult, hafter.trans (supply_of_free (hr.vacant_entry hn).free)⟩

/-- Beyond the limits of the operating system a call is refused, and not for the content. -/
theorem stage_of_beyond (hm : depot.filenameOf label content ∈ names)
    (hw : ¬ Within layout top world.files (depot.filenameOf label content)) :
    let bucketPath := layout.bucketPath (depot.filenameOf label content)
    let path := layout.expectedPath (depot.filenameOf label content)
    (depot.stage label content world).1 ∈ [
      .error (.oracle (.notStarted "hashed-placement-oracle".toList .nameTooLong)),
      .error (.storage ⟨.stat, path, .nameTooLong⟩),
      .error (.storage ⟨.createTemp, bucketPath, .nameTooLong⟩)] := by
  intro bucketPath path
  have hbucket := Layout.checkPath_bucketPath (depot.filenameOf label content) hr.grounded
  split at hbucket
  · obtain ⟨hresult, -⟩ := stage_eq_stageOn hd hr.grounded.unindented hs.unslashed content world
    have hrefused :=
      @stageOn_of_checkPath depot layout (label, content) _ hbucket world.files
    rw [hrefused] at hresult
    simp [hresult]
  obtain ⟨hresult, -⟩ := stage_of_ready hd hs hr hbucket fun target he => by
    obtain ⟨_, _, hfile⟩ := hr.entries _ hm _ he
    cases hfile
  have hpath := checkPath_expectedPath hd hs hr
  by_cases hlong : pathLimit ≤ Text.byteLength path
  · rw [if_pos hlong] at hpath
    simp only [placedAt, checkEntry, hpath, Except.bind, reported] at hresult
    simp [hresult, path]
  -- The path is short enough, so it is the temporary file's that is not.
  have hlength := Nat.lt_of_not_le hlong
  cases hn : world.files.node? (layout.entryAt (depot.filenameOf label content) top) with
  | some node => exact absurd ⟨hlength, fun hfree => by rw [hn] at hfree; cases hfree⟩ hw
  | none =>
    have htemp := @checkPath_temp depot layout top names label content world hr
    split at htemp
    · have hentry := checkEntry_of_stageable hd hs hr hlength
      simp only [placedAt, hentry, hn, htemp, reported] at hresult
      simp [hresult, bucketPath]
    · next hshort => exact absurd ⟨hlength, fun _ => Nat.lt_of_not_le hshort⟩ hw

end

end

theorem newFiles_insert {mode : Mode} :
    newFiles files ((layout.withBucket filename top files).insert (layout.entryAt filename top)
      (.file content mode)) ⊆ {layout.entryAt filename top} := by
  rintro location ⟨⟨existing, bits, hn⟩, hnew⟩
  by_contra hne
  rw [node?_insert_of_ne hne, Layout.withBucket] at hn
  split at hn
  · next hfree =>
    by_cases hbucket : location = layout.bucketAt filename top
    · rw [hbucket, node?_insert_self (ne_nil_of_node?_eq_none hfree)] at hn
      cases hn
    · rw [node?_insert_of_ne hbucket] at hn
      exact hnew ⟨existing, bits, hn⟩
  · exact hnew ⟨existing, bits, hn⟩

/-- One call does what binding does. -/
theorem stage_binds (hd : IsHashed depot layout) (hs : Stageable depot (label, content))
    (hr : Ready layout top names world.files) (hm : depot.filenameOf label content ∈ names)
    (hw : Within layout top world.files (depot.filenameOf label content)) :
    let after := (depot.stage label content world).2.files
    let binding := (bound layout top world.files).bind (depot.filenameOf label content) content
    (depot.stage label content world).1 =
        reported (named depot layout label content) (.ok binding.1) ∧
      bound layout top after = binding.2 ∧ Ready layout top names after ∧ world.files ≤ after ∧
      newFiles world.files after ⊆ {layout.entryAt (depot.filenameOf label content) top} ∧
      (bound layout top world.files (depot.filenameOf label content) ≠ none →
        after = world.files) := by
  intro after binding
  cases hb : bound layout top world.files (depot.filenameOf label content) with
  | none =>
    have hn := hr.free_of_unbound hm hb
    obtain ⟨hresult, hafter⟩ := stage_of_free hd hs hr hw hn
    have hbinding : binding = (.written, Function.update (bound layout top world.files)
        (depot.filenameOf label content) (some content)) := by
      simp only [binding, Bindings.bind, hb]
    have hv := hr.vacant_entry hn
    rw [hbinding]
    change after = _ at hafter
    rw [hafter]
    refine ⟨hresult, bound_insert, hr.insert hn, ?_, newFiles_insert, fun h => absurd rfl h⟩
    exact (layout.le_withBucket _ _ top).trans (le_insert hv.free)
  | some existing =>
    obtain ⟨bits, hn⟩ := bound_eq_some_iff.mp hb
    obtain ⟨hresult, hafter⟩ := stage_of_file hd hs hr hw hn
    have hbinding := Bindings.bind_of_bound hb content
    change binding = _ at hbinding
    change after = _ at hafter
    rw [hbinding, hafter]
    exact ⟨hresult, rfl, hr, le_rfl, by simp [newFiles_self], fun _ => rfl⟩

end

end Staging
end WorkDepot
