import WorkDepot.Depot

/-!
# Staging

Content is staged under a name made of a label and its fingerprint, at the path where the oracle
says that the name belongs. Staging the same content again finds the file in its place; other
content at the path is a conflict.
-/
namespace WorkDepot

namespace Staging

def filename (label fingerprint : Text) : Text := label ++ '_' :: fingerprint

inductive Outcome where
  | created
  | alreadyPresent
  deriving DecidableEq

structure Staged where
  filename : Text
  fingerprint : Text
  path : Text
  outcome : Outcome
  deriving DecidableEq

inductive Error where
  | oracle (cause : Placement.Failure)
  | conflict (filename path : Text)
  | storage (fault : StorageFault)
  deriving DecidableEq

def Error.message : Error → Text
  | .oracle _ => "placement lookup failed".toList
  | .conflict .. => "staged content conflicts with existing file".toList
  | .storage _ => "staging io failure".toList

def counted : Except Error Staged → Metrics.Outcome
  | .ok staged =>
    match staged.outcome with
    | .created => .fileCreated
    | .alreadyPresent => .fileReused
  | .error _ => .stagingFailed

end Staging

namespace Depot

open Staging

def filenameOf (depot : Depot) (label : Text) (content : Bytes) : Text :=
  filename label (depot.fingerprinter.fingerprint content)

/-- Places content at the path of its name and reports what has become of it. -/
def store (depot : Depot) (staged : Staged) (content : Bytes) (world : World) :
    Except Error Staged × World :=
  let (placed, files) := placeContent depot.disk world.files staged.path content depot.fileMode
  let world := { world with files }
  match placed with
  | .error fault => (.error (.storage fault), world)
  | .ok .written =>
    (.ok { staged with outcome := .created },
     world.emit (.fileStaged staged.filename staged.path depot.fingerprinter.name content.length))
  | .ok .identical =>
    (.ok { staged with outcome := .alreadyPresent },
     world.emit (.fileReused staged.filename staged.path))
  | .ok .conflict =>
    (.error (.conflict staged.filename staged.path),
     world.emit (.fileDiffers staged.filename staged.path))

/-- Finds the path of content and stores it there. -/
def resolveAndStore (depot : Depot) (label : Text) (content : Bytes) (world : World) :
    Except Error Staged × World :=
  let fingerprint := depot.fingerprinter.fingerprint content
  let filename := filename label fingerprint
  match depot.resolve filename world with
  | (.error failure, world) => (.error (.oracle failure), world)
  | (.ok path, world) => depot.store ⟨filename, fingerprint, path, .created⟩ content world

/-- Stages content under a label, and counts the outcome. -/
def stage (depot : Depot) (label : Text) (content : Bytes) (world : World) :
    Except Error Staged × World :=
  let (result, world) := depot.resolveAndStore label content world
  (result, depot.record (counted result) world)

/-- The path of content that is known by its label and fingerprint. Nothing is looked at there. -/
def locate (depot : Depot) (label fingerprint : Text) (world : World) : Except Error Text × World :=
  let (result, world) := depot.resolve (filename label fingerprint) world
  (result.mapError .oracle, world)

/-- Stages the same content so many times, one call after the other. -/
def stageRepeatedly (depot : Depot) (label : Text) (content : Bytes) :
    (count : Nat) → World → List (Except Error Staged) × World
  | 0, world => ([], world)
  | count + 1, world =>
    let (result, world) := depot.stage label content world
    let (results, world) := stageRepeatedly depot label content count world
    (result :: results, world)

end Depot
end WorkDepot
