import WorkDepot.Proofs.Digest.Fingerprint
import WorkDepot.Proofs.Placement.Hashed
import WorkDepot.Proofs.Staging.Stage

/-! # Looking names up in the hashed layout

The oracle of a layout does no more than make directories, so that a bucket which can be made can
still be made after any number of lookups. What the oracle prints is read back as it is, because
a name with a fingerprint at its end does not end in a blank. All who look up a name are therefore
told its path in the layout, unless its bucket cannot be had.
-/
namespace WorkDepot
open FileSystem

namespace Placement.Hashed.Layout
variable {layout : Layout} {filename : Text} {files after : FileSystem}

/-- The bucket of a name is there, or it can be made. -/
def Holds (layout : Layout) (files : FileSystem) (filename : Text) : Prop :=
  (files.makeDirectories (layout.bucketPath filename)).1 = .ok ()

instance (layout : Layout) (files : FileSystem) (filename : Text) :
    Decidable (layout.Holds files filename) := inferInstanceAs (Decidable (_ = _))

theorem Holds.checkPath (h : layout.Holds files filename) :
    checkPath (layout.bucketPath filename) = .ok () := by
  cases hc : FileSystem.checkPath (layout.bucketPath filename) with
  | ok _ => rfl
  | error fault =>
    rw [Holds, makeDirectories_of_checkPath (layout.bucketPath_ne_nil filename) hc] at h
    cases h

theorem Holds.widened (h : layout.Holds files filename) (hw : Widened files after) :
    layout.Holds after filename := by
  have hc := h.checkPath
  rw [Holds, makeDirectories_eq_makeWay hc] at h ⊢
  obtain ⟨_, hmade, _⟩ := hw.makeWay (Prod.ext h rfl)
  rw [hmade]

/-- Where a name belongs: the first four bytes of its digest pick one of the buckets, and the path
is that of the bucket's directory with the name behind it. A directory that ends in a slash is
continued without another one. -/
structure LaidOut (layout : Layout) (filename : Text) : Prop where
  bucket_lt : layout.bucket filename < max layout.fanout 1
  bucket_eq : ∃ (a b c d : UInt8) (rest : Bytes),
    Digest.Algorithm.sha256.digest (Text.encode filename) = a :: b :: c :: d :: rest ∧
      layout.bucket filename =
        (a.toNat * 256 ^ 3 + b.toNat * 256 ^ 2 + c.toNat * 256 + d.toNat) % max layout.fanout 1
  path_eq : ∃ base, (layout.directory = base ∨ layout.directory = base ++ ['/']) ∧
    layout.expectedPath filename =
      base ++ '/' :: Text.hexadecimal (layout.bucket filename) ++ '/' :: filename

theorem laidOut (ha : Path.isAbsolute layout.directory) (hp : Path.Plain filename) :
    layout.LaidOut filename where
  bucket_lt := Nat.mod_lt _ (by omega)
  bucket_eq := by
    have hlength := Digest.Algorithm.sha256.length_digest (Text.encode filename)
    match hdigest : Digest.Algorithm.sha256.digest (Text.encode filename), hlength with
    | a :: b :: c :: d :: rest, _ =>
      have hbytes : Bytes.toNatBigEndian [a, b, c, d] =
          a.toNat * 256 ^ 3 + b.toNat * 256 ^ 2 + c.toNat * 256 + d.toNat := by
        simp only [Bytes.toNatBigEndian, List.foldl_cons, List.foldl_nil]
        omega
      have hbucket : layout.bucket filename =
          Bytes.toNatBigEndian ((Digest.Algorithm.sha256.digest (Text.encode filename)).take 4) %
            max layout.fanout 1 := rfl
      rw [hdigest] at hbucket
      exact ⟨a, b, c, d, rest, rfl, by rw [hbucket, ← hbytes]; rfl⟩
  path_eq := by
    obtain ⟨base, hpath, hbase⟩ := layout.bucketPath_eq filename ha
    refine ⟨base, hbase, ?_⟩
    rw [layout.expectedPath_eq hp, hpath]
    rfl

end Placement.Hashed.Layout

namespace Depot
open Placement.Hashed
variable {depot : Depot} {layout : Layout} {filename label : Text} {content : Bytes}
variable {world : World} {files : FileSystem}

/-- Looks up names, one after the other. -/
def lookUpAll (depot : Depot) (filenames : List Text) (world : World) : World :=
  filenames.foldl (fun world filename => (depot.resolve filename world).2) world

section
variable (horacle : depot.oracle = layout.oracle)
include horacle

theorem filesAsked_made (filename : Text) (world : World) :
    MadeAbove (layout.expectedPath filename) world.files (depot.filesAsked world filename) := by
  rw [filesAsked, ask, horacle]
  exact Layout.oracle_made layout filename _ _

theorem lookUpAll_widened (filenames : List Text) (world : World) :
    Widened world.files (depot.lookUpAll filenames world).files := by
  induction filenames generalizing world with
  | nil => exact .refl _
  | cons filename filenames ih =>
    have hmade := filesAsked_made horacle filename world
    rw [← (depot.resolve_eq world filename).2] at hmade
    exact hmade.widened.trans (ih (depot.resolve filename world).2)

/-- What the oracle's making of a bucket comes to. -/
theorem ask_of_made (hp : Path.Plain filename) {made : Except IoFault Unit}
    (h : world.files.makeDirectories (layout.bucketPath filename) = (made, files)) :
    (depot.ask filename world).1 =
        ((made.mapError (.notStarted "hashed-placement-oracle".toList)).bind fun _ =>
          Placement.readAnswer filename (layout.expectedPath filename ++ ['\n'])) ∧
      depot.filesAsked world filename = files := by
  have hparent := layout.parent?_expectedPath hp
  cases made <;>
    simp [filesAsked, ask, horacle, Layout.oracle, hparent, h, Except.bind, Except.mapError]

/-- Trimming the oracle's answer stops at the fingerprint. -/
theorem answer_of_isLowerHex (hu : layout.Unindented)
    (hhex : Text.IsLowerHex (depot.fingerprinter.fingerprint content))
    (hr : ¬ Path.isAbsolute (depot.filenameOf label content)) {answer : Text}
    (h : (depot.ask (depot.filenameOf label content) world).1 = .ok answer) :
    answer = layout.expectedPath (depot.filenameOf label content) := by
  obtain ⟨text, htext, hread⟩ := bind_eq_ok.mp h
  rw [horacle] at htext
  obtain rfl := Layout.oracle_answer htext
  obtain ⟨rfl, -, -⟩ := Placement.readAnswer_eq_ok hread
  exact Layout.trim_expectedPath hu hr (Staging.filename_closed label hhex)

theorem ask_eq_expectedPath_iff (hp : Path.Plain filename)
    (hread : Placement.readAnswer filename (layout.expectedPath filename ++ ['\n']) =
      .ok (layout.expectedPath filename)) :
    (depot.ask filename world).1 = .ok (layout.expectedPath filename) ↔
      layout.Holds world.files filename := by
  rcases hmade : world.files.makeDirectories (layout.bucketPath filename) with ⟨made, files⟩
  obtain ⟨hask, -⟩ := ask_of_made horacle hp hmade
  rw [hask, Layout.Holds, hmade]
  cases made with
  | error cause => simp [Except.bind, Except.mapError]
  | ok _ => simp [Except.bind, Except.mapError, hread]

/-- Looking up a name and locating its content both give its path in the layout, before and after
any lookups, exactly if its bucket is there or can be made; and no lookup takes that away. Whatever
is staged is reported with the same name and path. -/
theorem layout_reported (ha : Path.isAbsolute layout.directory) (hd : '\n' ∉ layout.directory)
    (hhex : Text.IsLowerHex (depot.fingerprinter.fingerprint content)) (hl : '/' ∉ label)
    (hn : '\n' ∉ label) (lookups : List Text) (world : World) :
    let fingerprint := depot.fingerprinter.fingerprint content
    let filename := depot.filenameOf label content
    let later := depot.lookUpAll lookups world
    layout.LaidOut filename ∧
      (layout.Holds world.files filename → layout.Holds later.files filename) ∧
      ((depot.resolve filename later).1 = .ok (layout.expectedPath filename) ↔
        layout.Holds later.files filename) ∧
      ((depot.locate label fingerprint later).1 = .ok (layout.expectedPath filename) ↔
        layout.Holds later.files filename) ∧
      ∀ staged, (depot.stage label content later).1 = .ok staged →
        staged.filename = filename ∧ staged.fingerprint = fingerprint ∧
          staged.path = layout.expectedPath filename := by
  intro fingerprint filename later
  have hplain : Path.Plain filename := Staging.filename_plain hl hhex
  have hrelative := Path.not_isAbsolute_of_notMem hplain.unslashed
  have hread := Layout.readAnswer_expectedPath ha hd hrelative
    (Staging.notMem_filename hn (by decide) hhex (by decide))
    (Staging.filename_closed label hhex)
  have hask : (depot.ask filename later).1 = .ok (layout.expectedPath filename) ↔
      layout.Holds later.files filename := ask_eq_expectedPath_iff horacle hplain hread
  have hresolve := (depot.resolve_eq later filename).1
  refine ⟨Layout.laidOut ha hplain, fun hholds => ?_, by rw [hresolve, hask], ?_, ?_⟩
  · exact hholds.widened (lookUpAll_widened horacle lookups world)
  · have hlocate : (depot.locate label fingerprint later).1 =
        (depot.resolve filename later).1.mapError .oracle := rfl
    rw [hlocate, mapError_eq_ok, hresolve, hask]
  · intro staged hstaged
    obtain ⟨hname, hfingerprint, hpath⟩ := depot.stage_eq_ok label content later hstaged
    have hu := Layout.unindented_of_isAbsolute ha
    exact ⟨hname, hfingerprint, answer_of_isLowerHex horacle hu hhex hrelative hpath⟩

end

/-- One bucket below a directory that is not there yet, after a lookup that fails on a file and one
that leads out of the bucket. -/
theorem layout_reported_single :
    let layout : Layout := ⟨"/d/".toList, 0⟩
    let depot : Depot :=
      { oracle := layout.oracle
        fingerprinter := Digest.Algorithm.sha256.fingerprinter
        tool := .created 7 }
    let files : FileSystem := FileSystem.empty.insert ["f".toList] (.file [] 0o644)
    let later := depot.lookUpAll ["/f/x".toList, "../y/z".toList] { files }
    let path := "/d/0/in_e3b0c44298fc1c149afbf4c8996fb92427ae41e4649b934ca495991b7852b855".toList
    (depot.locate "in".toList (depot.fingerprinter.fingerprint []) later).1 = .ok path ∧
      ∃ staged, (depot.stage "in".toList [] later).1 = .ok staged ∧ staged.path = path := by
  intro layout depot files later path
  have hholds : layout.Holds files (depot.filenameOf "in".toList []) := by decide +kernel
  have hpath : layout.expectedPath (depot.filenameOf "in".toList []) = path := by decide +kernel
  obtain ⟨-, hkept, -, hlocate, hstage⟩ := @layout_reported depot layout "in".toList [] rfl
    (by decide) (by decide) (Bytes.toHex_isLowerHex _) (by decide) (by decide)
    ["/f/x".toList, "../y/z".toList] { files }
  rw [← hpath]
  refine ⟨hlocate.mpr (hkept hholds), ?_⟩
  have hok : ((depot.stage "in".toList [] later).1.toOption).isSome := by decide +kernel
  cases hstaged : (depot.stage "in".toList [] later).1 with
  | error cause =>
    rw [hstaged] at hok
    cases hok
  | ok staged => exact ⟨staged, rfl, (hstage staged hstaged).2.2⟩

end Depot
end WorkDepot
