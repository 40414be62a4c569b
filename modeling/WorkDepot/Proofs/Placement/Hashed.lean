import WorkDepot.Placement.Hashed
import WorkDepot.Proofs.FileSystem.Making
import WorkDepot.Proofs.Placement.Answer

/-! # The hashed layout among files

Where the directory of a layout stands, a name has its place two levels below: in the bucket that
its digest picks. The path of that place is spelled so that its parent is the path of the bucket.
The oracle makes directories above that path and nothing else, and the line that it prints is read
as the path again, unless the name has a blank at its end.
-/
namespace WorkDepot

namespace Placement.Hashed.Layout
open FileSystem
variable (layout : Layout) (filename : Text)

def bucketName : Name := Text.hexadecimal (layout.bucket filename)

def bucketPath : Text := Path.join layout.directory (layout.bucketName filename)

def bucketAt (top : Location) : Location := layout.bucketName filename :: top

/-- The place of a name when the layout's directory is at `top`. -/
def entryAt (top : Location) : Location := filename :: layout.bucketAt filename top

theorem bucket_lt : layout.bucket filename < 256 ^ 4 := by
  have hdigest := Bytes.toNatBigEndian_lt
    (((Digest.Sha2.sha256.digest (Text.encode filename)).toList).take 4)
  have hlength := Nat.pow_le_pow_right (show 0 < 256 by decide)
    (List.length_take_le 4 (Digest.Sha2.sha256.digest (Text.encode filename)).toList)
  exact (Nat.mod_le _ _).trans_lt (hdigest.trans_le hlength)

theorem bucketName_isLowerHex : Text.IsLowerHex (layout.bucketName filename) :=
  Text.hexadecimal_isLowerHex _

theorem bucketName_plain : Path.Plain (layout.bucketName filename) := by
  have hhex := layout.bucketName_isLowerHex filename
  have hne : layout.bucketName filename ≠ [] := Text.hexadecimal_ne_nil _
  obtain ⟨c, rest, hc⟩ := List.exists_cons_of_ne_nil hne
  have hmem : c ∈ layout.bucketName filename := by simp [hc]
  refine .of_mem (hhex.notMem (by decide)) hmem ?_
  rintro rfl
  exact hhex.notMem (by decide) hmem

theorem byteLength_bucketName_le : Text.byteLength (layout.bucketName filename) ≤ nameLimit := by
  rw [(layout.bucketName_isLowerHex filename).byteLength]
  have hlength := Text.length_hexadecimal_le (layout.bucket_lt filename)
  rw [bucketName, nameLimit]
  omega

/-- The layout's directory is there, at `top`. -/
structure Grounded (files : FileSystem) (top : Location) : Prop where
  absolute : Path.isAbsolute layout.directory
  oneLine : '\n' ∉ layout.directory
  located : files.locate layout.directory = .ok top
  directory : files.node? top = some .directory

variable {layout filename} {files : FileSystem} {top : Location}

theorem Grounded.mono (h : layout.Grounded files top) {later : FileSystem} (hle : files ≤ later) :
    layout.Grounded later top where
  absolute := h.absolute
  oneLine := h.oneLine
  located := locate_mono hle h.located
  directory := hle _ _ h.directory

/-! ## Paths of the layout -/

variable (layout filename) in
theorem bucketPath_eq (ha : Path.isAbsolute layout.directory) :
    ∃ base, layout.bucketPath filename = base ++ '/' :: layout.bucketName filename ∧
      (layout.directory = base ∨ layout.directory = base ++ ['/']) :=
  Path.join_entry ha (layout.bucketName_plain filename).unslashed

variable (layout filename) in
theorem endsIn_bucketPath :
    Path.EndsIn (layout.bucketPath filename) (layout.bucketName filename) :=
  Path.endsIn_join layout.directory (layout.bucketName_plain filename).unslashed

variable (layout filename) in
theorem bucketPath_ne_nil : layout.bucketPath filename ≠ [] :=
  (layout.endsIn_bucketPath filename).ne_nil (layout.bucketName_plain filename)

variable (layout filename) in
theorem join_bucketPath {path : Text} (hr : ¬ Path.isAbsolute path) :
    Path.join (layout.bucketPath filename) path = layout.bucketPath filename ++ '/' :: path :=
  (layout.endsIn_bucketPath filename).join_eq (layout.bucketName_plain filename) hr

variable (layout) in
theorem expectedPath_of_relative (hr : ¬ Path.isAbsolute filename) :
    layout.expectedPath filename = layout.bucketPath filename ++ '/' :: filename :=
  layout.join_bucketPath filename hr

variable (layout) in
theorem expectedPath_eq (hp : Path.Plain filename) :
    layout.expectedPath filename = layout.bucketPath filename ++ '/' :: filename :=
  layout.expectedPath_of_relative (Path.not_isAbsolute_of_notMem hp.unslashed)

variable (layout) in
theorem parent?_expectedPath (hp : Path.Plain filename) :
    Path.parent? (layout.expectedPath filename) = some (layout.bucketPath filename) := by
  rw [layout.expectedPath_eq hp]
  exact (layout.endsIn_bucketPath filename).parent?_eq (layout.bucketName_plain filename) hp

/-- The path of the layout's directory does not begin with a blank. -/
def Unindented (layout : Layout) : Prop :=
  ∀ c, layout.directory.head? = some c → Text.isBlankChar c = false

theorem unindented_of_isAbsolute (ha : Path.isAbsolute layout.directory) : layout.Unindented := by
  have hslash : Text.isBlankChar '/' = false := by decide +kernel
  intro c hc
  obtain ⟨rest, hrest⟩ := Path.isAbsolute_iff.mp ha
  rw [hrest] at hc
  cases hc
  exact hslash

theorem Grounded.unindented (hg : layout.Grounded files top) : layout.Unindented :=
  unindented_of_isAbsolute hg.absolute

/-- A path below the layout's directory does not begin with a blank either. -/
theorem Unindented.expectedPath (hu : layout.Unindented) (hr : ¬ Path.isAbsolute filename)
    {c : Char} (hc : (layout.expectedPath filename).head? = some c) :
    Text.isBlankChar c = false := by
  rw [layout.expectedPath_of_relative hr,
    List.head?_append_of_ne_nil _ (layout.bucketPath_ne_nil filename)] at hc
  by_cases hne : layout.directory = []
  · have hbucket : layout.bucketPath filename = layout.bucketName filename := by
      simp [bucketPath, hne, Path.join]
    rw [hbucket] at hc
    exact (layout.bucketName_isLowerHex filename).not_blank (List.mem_of_head? hc)
  · apply hu
    have hbucket := Path.not_isAbsolute_of_notMem (layout.bucketName_plain filename).unslashed
    rwa [bucketPath, Path.head?_join hne hbucket] at hc

/-- Nothing of a path is lost with the end of its line, unless the name ends in a blank. -/
theorem trimmed_expectedPath (hu : layout.Unindented) (hr : ¬ Path.isAbsolute filename)
    (hc : ∀ last, filename.getLast? = some last → Text.isBlankChar last = false) :
    Text.Trimmed (layout.expectedPath filename ++ ['\n']) (layout.expectedPath filename) := by
  have hslash : Text.isBlankChar '/' = false := by decide +kernel
  refine ⟨⟨[], ['\n'], rfl, by decide, rfl⟩, ?_, ?_⟩
  · exact fun c => hu.expectedPath hr
  · intro c hlast
    rw [layout.expectedPath_of_relative hr, List.getLast?_append_of_ne_nil _ (List.cons_ne_nil _ _),
      List.getLast?_cons] at hlast
    cases hname : filename.getLast? with
    | none =>
      rw [hname] at hlast
      cases hlast
      exact hslash
    | some last =>
      rw [hname] at hlast
      cases hlast
      exact hc last hname

/-- A name that ends in a character other than a blank does not end in a blank. -/
theorem not_blank_of_getLast?
    (hc : ∃ last, filename.getLast? = some last ∧ Text.isBlankChar last = false) :
    ∀ last, filename.getLast? = some last → Text.isBlankChar last = false := by
  obtain ⟨last, hlast, hblank⟩ := hc
  intro c hc
  rw [hlast] at hc
  cases hc
  exact hblank

theorem trim_expectedPath (hu : layout.Unindented) (hr : ¬ Path.isAbsolute filename)
    (hc : ∃ last, filename.getLast? = some last ∧ Text.isBlankChar last = false) :
    Text.trim (layout.expectedPath filename ++ ['\n']) = layout.expectedPath filename :=
  (trimmed_expectedPath hu hr (not_blank_of_getLast? hc)).trim_eq

variable (filename) in
theorem nul_notMem_bucketPath (hg : layout.Grounded files top) :
    '\x00' ∉ layout.bucketPath filename := by
  obtain ⟨hc, _⟩ := locate_eq_ok_iff.mp hg.located
  obtain ⟨hnul, _, _⟩ := checkPath_eq_ok.mp hc
  obtain ⟨base, hpath, hbase⟩ := layout.bucketPath_eq filename hg.absolute
  have hbucket : '\x00' ∉ layout.bucketName filename :=
    (layout.bucketName_isLowerHex filename).notMem (by decide)
  have hbase' : '\x00' ∉ base := by
    rcases hbase with he | he <;> simp_all
  rw [hpath]
  simp [hbucket, hbase']

variable (filename) in
/-- The path of a bucket is good unless it is too long. -/
theorem checkPath_bucketPath (hg : layout.Grounded files top) :
    checkPath (layout.bucketPath filename) =
      if pathLimit ≤ Text.byteLength (layout.bucketPath filename) then .error .nameTooLong
      else .ok () := by
  rw [checkPath, if_neg (nul_notMem_bucketPath filename hg),
    if_neg (layout.bucketPath_ne_nil filename)]

/-- So is a path into a bucket. -/
theorem checkPath_inBucket (hg : layout.Grounded files top) {name : Name} (hn : '\x00' ∉ name) :
    checkPath (layout.bucketPath filename ++ '/' :: name) =
      if pathLimit ≤ Text.byteLength (layout.bucketPath filename ++ '/' :: name) then
        .error .nameTooLong
      else .ok () := by
  have hnul := nul_notMem_bucketPath filename hg
  rw [checkPath, if_neg (by simp [hnul, hn]), if_neg (by simp)]

/-! ## Ways into the layout -/

variable (layout filename) in
theorem way_bucketPath : Path.way (layout.bucketPath filename) =
    .into (layout.bucketName filename) :: Path.way layout.directory :=
  Path.way_join layout.directory (layout.bucketName_plain filename)

variable (layout) in
theorem way_expectedPath (hp : Path.Plain filename) : Path.way (layout.expectedPath filename) =
    .into filename :: .into (layout.bucketName filename) :: Path.way layout.directory := by
  rw [← layout.way_bucketPath filename]
  exact Path.way_join (layout.bucketPath filename) hp

/-- Making a bucket goes one step beyond the way of the layout's directory. -/
theorem makeDirectories_eq_makeWay (hc : checkPath (layout.bucketPath filename) = .ok ())
    (files : FileSystem) : files.makeDirectories (layout.bucketPath filename) =
      files.makeWay (.into (layout.bucketName filename) :: Path.way layout.directory) := by
  rw [← way_bucketPath]
  exact makeDirectories_of_endsIn (layout.endsIn_bucketPath filename)
    (layout.bucketName_plain filename) hc files

theorem Grounded.reached (hg : layout.Grounded files top) :
    files.reach (Path.way layout.directory) = .ok top := by
  obtain ⟨hc, _⟩ := locate_eq_ok_iff.mp hg.located
  exact (reach_way_eq_ok_iff hc).mpr ⟨hg.located, hg.directory⟩

theorem reach_bucket (hr : files.reach (Path.way layout.directory) = .ok top)
    (hb : files.node? (layout.bucketAt filename top) = some .directory) :
    files.reach (Path.way (layout.bucketPath filename)) = .ok (layout.bucketAt filename top) := by
  rw [way_bucketPath]
  exact ((reach_into hr).2 (layout.byteLength_bucketName_le filename)).2.1 hb

section
variable (hr : files.reach (Path.way layout.directory) = .ok top)
include hr

/-- A bucket is made unless it is there, or a file is. -/
theorem makeBucket (hc : checkPath (layout.bucketPath filename) = .ok ())
    (hlink : ∀ target, files.node? (layout.bucketAt filename top) ≠ some (.link target)) :
    (files.IsFile (layout.bucketAt filename top) ∧
        files.makeDirectories (layout.bucketPath filename) = (.error .alreadyExists, files)) ∨
      (files.node? (layout.bucketAt filename top) = none ∨
          files.node? (layout.bucketAt filename top) = some .directory) ∧
        files.makeDirectories (layout.bucketPath filename) =
          (.ok (), files.supply (layout.bucketAt filename top, .directory)) := by
  have hname := layout.byteLength_bucketName_le filename
  have hstep : files.makeStep (Path.way layout.directory) (.into (layout.bucketName filename)) =
      if (files.node? (layout.bucketAt filename top)).isSome then .error .alreadyExists
      else .ok (files.insert (layout.bucketAt filename top) .directory) := by
    simp only [makeStep, hr, if_neg (Nat.not_lt.mpr hname)]
    rfl
  rw [makeDirectories_eq_makeWay hc]
  cases hn : files.node? (layout.bucketAt filename top) with
  | none =>
    rw [hn] at hstep
    refine .inr ⟨.inl rfl, ?_⟩
    rw [makeWay, hstep, supply_of_free hn]
    rfl
  | some node =>
    rw [hn] at hstep
    cases node with
    | directory =>
      have hreach := reach_bucket hr hn
      rw [way_bucketPath] at hreach
      refine .inr ⟨.inr rfl, ?_⟩
      rw [makeWay_of_reach hreach, supply_of_node hn]
    | link target => exact absurd hn (hlink target)
    | file existing bits =>
      have hreach := ((reach_into hr).2 hname).2.2 existing bits hn
      refine .inl ⟨⟨existing, bits, hn⟩, ?_⟩
      rw [makeWay, hstep, hreach]
      rfl

/-- A bucket that is there is not made. -/
theorem makeDirectories_of_bucket (hc : checkPath (layout.bucketPath filename) = .ok ())
    (hb : files.node? (layout.bucketAt filename top) = some .directory) :
    files.makeDirectories (layout.bucketPath filename) = (.ok (), files) := by
  have hreach := reach_bucket hr hb
  rw [way_bucketPath] at hreach
  rw [makeDirectories_eq_makeWay hc, makeWay_of_reach hreach]

end

/-! ## The oracle of the layout -/

variable (layout filename) in
theorem oracle_made (earlier : List Text) (files : FileSystem) :
    MadeAbove (layout.expectedPath filename) files
      (layout.oracle.ask earlier files filename).files := by
  simp only [oracle]
  split
  · exact .nothing
  · next parent hparent =>
    have hmade := makeDirectories_made files hparent
    split <;> next he =>
      rw [he] at hmade
      exact hmade

theorem oracle_answer {earlier : List Text} {files : FileSystem} {answer : Text}
    (h : (layout.oracle.ask earlier files filename).answer = .ok answer) :
    answer = layout.expectedPath filename ++ ['\n'] := by
  simp only [oracle] at h
  split at h
  · exact (Except.ok.inj h).symm
  · split at h
    · exact (Except.ok.inj h).symm
    · cases h

/-- The files with the bucket of a name. -/
def withBucket (layout : Layout) (filename : Text) (top : Location) (files : FileSystem) :
    FileSystem :=
  if files.node? (layout.bucketAt filename top) = none then
    files.insert (layout.bucketAt filename top) .directory
  else files

theorem withBucket_eq_supply : layout.withBucket filename top files =
    files.supply (layout.bucketAt filename top, .directory) := rfl

variable (layout filename files top) in
theorem le_withBucket : files ≤ layout.withBucket filename top files := by
  rw [withBucket_eq_supply]
  exact le_supply _ _

theorem node?_withBucket_of_ne {location : Location} (h : location ≠ layout.bucketAt filename top) :
    (layout.withBucket filename top files).node? location = files.node? location := by
  rw [withBucket_eq_supply]
  exact node?_supply_of_ne h

theorem node?_withBucket_bucket
    (hb : ∀ node, files.node? (layout.bucketAt filename top) = some node → node = .directory) :
    (layout.withBucket filename top files).node? (layout.bucketAt filename top) =
      some .directory := by
  rw [withBucket_eq_supply, node?_supply_self]
  cases hn : files.node? (layout.bucketAt filename top) with
  | none => rfl
  | some node =>
    rw [hb node hn]
    rfl

theorem expectedPath_oneLine (ha : Path.isAbsolute layout.directory)
    (hd : '\n' ∉ layout.directory) (hr : ¬ Path.isAbsolute filename) (hn : '\n' ∉ filename) :
    '\n' ∉ layout.expectedPath filename := by
  obtain ⟨base, hpath, hbase⟩ := layout.bucketPath_eq filename ha
  have hname : '\n' ∉ layout.bucketName filename :=
    (layout.bucketName_isLowerHex filename).notMem (by decide)
  have hbase' : '\n' ∉ base := by
    rcases hbase with he | he <;> simp_all
  rw [layout.expectedPath_of_relative hr, hpath]
  simp [hname, hbase', hn]

/-- The line that the oracle prints is read as the path that it has printed. -/
theorem readAnswer_of_closed (ha : Path.isAbsolute layout.directory)
    (hd : '\n' ∉ layout.directory) (hr : ¬ Path.isAbsolute filename) (hn : '\n' ∉ filename)
    (hc : ∀ last, filename.getLast? = some last → Text.isBlankChar last = false) :
    readAnswer filename (layout.expectedPath filename ++ ['\n']) =
      .ok (layout.expectedPath filename) := by
  have habsolute : Path.isAbsolute (layout.expectedPath filename) :=
    Path.join_isAbsolute (Path.join_isAbsolute ha)
  apply readAnswer_of_trimmed (trimmed_expectedPath (unindented_of_isAbsolute ha) hr hc)
  · simpa [Path.isAbsolute] using habsolute
  · exact expectedPath_oneLine ha hd hr hn

theorem readAnswer_expectedPath (ha : Path.isAbsolute layout.directory)
    (hd : '\n' ∉ layout.directory) (hr : ¬ Path.isAbsolute filename) (hn : '\n' ∉ filename)
    (hc : ∃ last, filename.getLast? = some last ∧ Text.isBlankChar last = false) :
    readAnswer filename (layout.expectedPath filename ++ ['\n']) =
      .ok (layout.expectedPath filename) :=
  readAnswer_of_closed ha hd hr hn (not_blank_of_getLast? hc)

end Placement.Hashed.Layout
end WorkDepot
