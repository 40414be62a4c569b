import WorkDepot.Digest.Sha2
import WorkDepot.Placement.Oracle

/-!
# The hashed layout

Files are spread over numbered buckets below a directory. The bucket of a name is the beginning of
its SHA-256 digest, as a number, modulo the number of buckets; its directory is made when it is
needed.
-/
namespace WorkDepot.Placement.Hashed

structure Layout where
  directory : Text
  /-- How many buckets there are; zero counts as one. -/
  fanout : Nat := 1024

namespace Layout

def bucket (layout : Layout) (filename : Text) : Nat :=
  let digest := (Digest.Sha2.sha256.digest (Text.encode filename)).toList
  Bytes.toNatBigEndian (digest.take 4) % max layout.fanout 1

def expectedPath (layout : Layout) (filename : Text) : Text :=
  Path.join (Path.join layout.directory (Text.hexadecimal (layout.bucket filename))) filename

/-- Answers with the place in the layout, once its directory is there. -/
def oracle (layout : Layout) : Oracle where
  ask _ files filename :=
    let path := layout.expectedPath filename
    match Path.parent? path with
    | none => { answer := .ok (path ++ ['\n']), files }
    | some parent =>
      match files.makeDirectories parent with
      | (.ok (), files) => { answer := .ok (path ++ ['\n']), files }
      | (.error cause, files) =>
        { answer := .error (.notStarted "hashed-placement-oracle".toList cause), files }

end Layout
end WorkDepot.Placement.Hashed
