import WorkDepot.Proofs.Placement.Lookup
import WorkDepot.Proofs.Placement.Relative

/-! # Downloads from the hashed layout

A layout in a directory called "download" stores a file two levels below it. Seen from the marker
this place is the bucket with the name, whatever the name is and whatever directories called
"download" there are above: a bucket is written in hexadecimal, so it is not called that, and the
name is not followed by a slash. Whoever has such a path and the directory has the place.
-/
namespace WorkDepot
open FileSystem

namespace Placement
variable {root : Text}

theorem relativeTo_of_free {marker front rest : Text}
    (h : ¬ marker <:+: (marker ++ rest).tail) :
    relativeTo marker (front ++ marker ++ rest) = rest := by
  have hcuts := Text.CutsLast.of_free front h
  rw [relativeTo, Text.afterLast?_eq_some_iff.mpr ⟨front, hcuts⟩]
  rfl

theorem splitAt_download : Text.splitAt '/' "download".toList = ["download".toList] :=
  Text.splitAt_of_notMem (by decide)

/-- Where the marker occurs, a segment between the first and the last is called "download". -/
theorem defaultMarker_infix {path : Text} (h : Config.Settings.defaultMarker <:+: path) :
    ∃ before behind, before ≠ [] ∧ behind ≠ [] ∧
      Text.splitAt '/' path = before ++ "download".toList :: behind := by
  obtain ⟨front, rest, rfl⟩ := h
  have hpath : front ++ Config.Settings.defaultMarker ++ rest =
      front ++ '/' :: ("download".toList ++ '/' :: rest) := by
    rw [List.append_assoc]
    rfl
  refine ⟨Text.splitAt '/' front, Text.splitAt '/' rest, Text.splitAt_ne_nil _ _,
    Text.splitAt_ne_nil _ _, ?_⟩
  rw [hpath, Text.splitAt_append, Text.splitAt_append, splitAt_download]
  rfl

/-- Two levels below a directory called "download" the marker stands last where the path of the
directory ends, unless the level between is called the same. -/
theorem relativeTo_download {bucket filename : Text} (hroot : "/download".toList <:+ root)
    (hb : '/' ∉ bucket) (hne : bucket ≠ "download".toList) (hf : '/' ∉ filename) :
    relativeTo Config.Settings.defaultMarker (root ++ '/' :: (bucket ++ '/' :: filename)) =
      bucket ++ '/' :: filename := by
  obtain ⟨front, rfl⟩ := hroot
  have hpath : front ++ "/download".toList ++ '/' :: (bucket ++ '/' :: filename) =
      front ++ Config.Settings.defaultMarker ++ (bucket ++ '/' :: filename) := by
    rw [List.append_assoc, List.append_assoc]
    rfl
  rw [hpath]
  apply relativeTo_of_free
  intro hinfix
  -- of the three segments that the last slash of the marker and the bucket make, only the middle
  -- one has slashes on both sides
  have hsegments : Text.splitAt '/'
      (Config.Settings.defaultMarker ++ (bucket ++ '/' :: filename)).tail =
        ["download".toList, bucket, filename] := by
    have htail : (Config.Settings.defaultMarker ++ (bucket ++ '/' :: filename)).tail =
        "download".toList ++ '/' :: (bucket ++ '/' :: filename) := rfl
    rw [htail, Text.splitAt_append, Text.splitAt_append, splitAt_download,
      Text.splitAt_of_notMem hb, Text.splitAt_of_notMem hf]
    rfl
  obtain ⟨before, behind, hbefore, hbehind, hsplit⟩ := defaultMarker_infix hinfix
  rw [hsegments] at hsplit
  match before, behind, hbefore, hbehind with
  | first :: [], last :: [], _, _ =>
    simp only [List.cons_append, List.nil_append, List.cons.injEq] at hsplit
    exact hne hsplit.2.1
  | [_], _ :: _ :: _, _, _ => simp at hsplit
  | _ :: _ :: _, _ :: _, _, _ =>
    have hlength := congrArg List.length hsplit
    simp only [List.length_append, List.length_cons, List.length_nil] at hlength
    omega

end Placement

namespace Placement.Hashed.Layout
variable {layout : Layout} {filename : Text}

/-- The directory in which the path of a name ends is there, or it can be made. -/
def Opens (layout : Layout) (files : FileSystem) (filename : Text) : Prop :=
  ∀ parent, Path.parent? (layout.expectedPath filename) = some parent →
    (files.makeDirectories parent).1 = .ok ()

/-- Below a directory without a slash at its end the three parts of a path are just put together. -/
theorem expectedPath_of_unslashed (ha : Path.isAbsolute layout.directory)
    (hl : layout.directory.getLast? ≠ some '/') (hf : '/' ∉ filename) :
    layout.expectedPath filename =
      layout.directory ++ '/' :: (layout.bucketName filename ++ '/' :: filename) := by
  obtain ⟨base, hpath, hbase⟩ := layout.bucketPath_eq filename ha
  have hdirectory : layout.directory = base := by
    rcases hbase with he | he
    · exact he
    · rw [he] at hl
      simp at hl
  rw [layout.expectedPath_of_relative (Path.not_isAbsolute_of_notMem hf), hpath, hdirectory,
    List.append_assoc, List.cons_append]

theorem bucketName_ne_download (layout : Layout) (filename : Text) :
    layout.bucketName filename ≠ "download".toList := by
  intro he
  have hhex := layout.bucketName_isLowerHex filename
  -- some letters of the word are not digits
  have ho : 'o' ∈ layout.bucketName filename := by
    rw [he]
    decide
  exact hhex.notMem (by decide) ho

section
variable (ha : Path.isAbsolute layout.directory) (hroot : "/download".toList <:+ layout.directory)
variable (hf : '/' ∉ filename)
include ha hroot hf

theorem expectedPath_download : layout.expectedPath filename =
    layout.directory ++ '/' :: (layout.bucketName filename ++ '/' :: filename) := by
  apply expectedPath_of_unslashed ha _ hf
  obtain ⟨front, he⟩ := hroot
  rw [← he, List.getLast?_append_of_ne_nil _ (by decide)]
  decide

theorem relativeTo_expectedPath :
    relativeTo Config.Settings.defaultMarker (layout.expectedPath filename) =
      layout.bucketName filename ++ '/' :: filename := by
  have hhex := layout.bucketName_isLowerHex filename
  rw [expectedPath_download ha hroot hf]
  exact relativeTo_download hroot (hhex.notMem (by decide))
    (layout.bucketName_ne_download filename) hf

end

/-- The oracle prints the path of a name, or nothing at all. -/
theorem oracle_answer_eq_ok_iff {files : FileSystem} {earlier : List Text} {answer : Text} :
    (layout.oracle.ask earlier files filename).answer = .ok answer ↔
      layout.Opens files filename ∧ answer = layout.expectedPath filename ++ ['\n'] := by
  constructor
  · intro h
    refine ⟨?_, oracle_answer h⟩
    intro parent hparent
    simp only [oracle, hparent] at h
    split at h
    · next hmade => rw [hmade]
    · cases h
  · rintro ⟨hopens, rfl⟩
    simp only [oracle]
    split
    · rfl
    · next parent hparent =>
      have hmade := hopens parent hparent
      split
      · rfl
      · next he =>
        rw [he] at hmade
        cases hmade

end Placement.Hashed.Layout

namespace Depot
open Placement.Hashed
variable {depot : Depot} {layout : Layout} {filename : Text}

/-- A name that is read back as it is printed is looked up unless the directory for it cannot be
had. -/
theorem resolve_eq_ok_iff (horacle : depot.oracle = layout.oracle) {world : World} {path : Text}
    (hread : Placement.readAnswer filename (layout.expectedPath filename ++ ['\n']) =
      .ok (layout.expectedPath filename)) :
    (depot.resolve filename world).1 = .ok path ↔
      layout.Opens world.files filename ∧ path = layout.expectedPath filename := by
  rw [(depot.resolve_eq world filename).1]
  unfold ask
  rw [horacle]
  constructor
  · intro h
    obtain ⟨answer, hprinted, hanswer⟩ := bind_eq_ok.mp h
    obtain ⟨hopens, rfl⟩ := Layout.oracle_answer_eq_ok_iff.mp hprinted
    rw [hread] at hanswer
    cases hanswer
    exact ⟨hopens, rfl⟩
  · rintro ⟨hopens, rfl⟩
    exact bind_eq_ok.mpr ⟨_, Layout.oracle_answer_eq_ok_iff.mpr ⟨hopens, rfl⟩, hread⟩

theorem downloadPath_eq_ok_iff {world : World} {found : Text} :
    (depot.downloadPath filename world).1 = .ok found ↔
      ∃ path, (depot.resolve filename world).1 = .ok path ∧
        Placement.relativeTo depot.marker path = found := by
  have hmap : (depot.downloadPath filename world).1 =
      (depot.resolve filename world).1.map depot.toRelative := rfl
  rw [hmap]
  cases (depot.resolve filename world).1 with
  | error failure => exact iff_of_false nofun nofun
  | ok path => simp [Except.map, toRelative]

/-- The path of a name relative to the marker, put behind the directory of the layout, is the path
where the name is stored. Looking a name up gives both unless the directory for it cannot be had. -/
theorem downloadPath_stored (horacle : depot.oracle = layout.oracle)
    (hmarker : depot.marker = Config.Settings.defaultMarker)
    (ha : Path.isAbsolute layout.directory) (hd : '\n' ∉ layout.directory)
    (hroot : "/download".toList <:+ layout.directory) (hf : '/' ∉ filename) (hn : '\n' ∉ filename)
    (hc : ∀ last, filename.getLast? = some last → Text.isBlankChar last = false) (world : World) :
    let relative := Text.hexadecimal (layout.bucket filename) ++ '/' :: filename
    (∀ path, (depot.resolve filename world).1 = .ok path ↔
        layout.Opens world.files filename ∧ path = layout.directory ++ '/' :: relative) ∧
      ∀ found, (depot.downloadPath filename world).1 = .ok found ↔
        layout.Opens world.files filename ∧ found = relative := by
  intro relative
  have hread := Layout.readAnswer_of_closed ha hd (Path.not_isAbsolute_of_notMem hf) hn hc
  have hpath : layout.expectedPath filename = layout.directory ++ '/' :: relative :=
    Layout.expectedPath_download ha hroot hf
  have hrelative : Placement.relativeTo depot.marker (layout.expectedPath filename) = relative := by
    rw [hmarker]
    exact Layout.relativeTo_expectedPath ha hroot hf
  constructor
  · intro path
    rw [resolve_eq_ok_iff horacle hread, hpath]
  · intro found
    rw [downloadPath_eq_ok_iff]
    simp only [resolve_eq_ok_iff horacle hread]
    constructor
    · rintro ⟨_, ⟨hopens, rfl⟩, rfl⟩
      exact ⟨hopens, hrelative⟩
    · rintro ⟨hopens, rfl⟩
      exact ⟨_, ⟨hopens, rfl⟩, hrelative⟩

/-- A name like that of the directory, below two more directories of the same name. -/
theorem downloadPath_stored_download :
    let layout : Layout := ⟨"/download/download/x/download".toList, 3⟩
    let depot : Depot :=
      { oracle := layout.oracle
        fingerprinter := Digest.Algorithm.sha256.fingerprinter
        tool := .created 7 }
    let world : World := { files := FileSystem.empty }
    (depot.resolve "download".toList world).1 =
        .ok "/download/download/x/download/1/download".toList ∧
      (depot.downloadPath "download".toList world).1 = .ok "1/download".toList := by
  intro layout depot world
  have hparent : Path.parent? (layout.expectedPath "download".toList) =
      some "/download/download/x/download/1".toList := by decide +kernel
  have hmade : (FileSystem.empty.makeDirectories "/download/download/x/download/1".toList).1 =
      .ok () := by decide +kernel
  have hbucket : layout.bucket "download".toList = 1 := by decide +kernel
  have hopens : layout.Opens world.files "download".toList := by
    intro parent hp
    rw [hparent] at hp
    cases hp
    exact hmade
  have hclosed : ∀ last, "download".toList.getLast? = some last →
      Text.isBlankChar last = false := by
    intro last hlast
    cases hlast
    decide
  obtain ⟨hresolve, hdownload⟩ := @downloadPath_stored depot layout "download".toList rfl rfl
    (by decide) (by decide) (by decide) (by decide) (by decide) hclosed world
  refine ⟨(hresolve _).mpr ⟨hopens, ?_⟩, (hdownload _).mpr ⟨hopens, ?_⟩⟩
  · rw [hbucket]
    decide
  · rw [hbucket]
    decide

end Depot
end WorkDepot
