import WorkDepot.Config.Settings
import WorkDepot.Metrics.Counters
import WorkDepot.Placement.Oracle
import WorkDepot.Staging.Place
import WorkDepot.Submission.Tool

/-!
# Depots

A depot is what staging and submission work with: an oracle that places files, a fingerprinter that
names them, a tool that registers work, and a disk. The world is what they change: files, the
questions put to the oracle and the calls of the tool so far, the counters and the events.
-/
namespace WorkDepot

structure World where
  files : FileSystem
  lookups : List Text := []
  invocations : List Submission.Invocation := []
  counters : Metrics.Counters := {}
  events : List Event := []

def World.emit (world : World) (event : Event) : World :=
  { world with events := world.events ++ [event] }

structure Depot where
  oracle : Placement.Oracle
  fingerprinter : Fingerprinter
  tool : Submission.Tool
  marker : Text := Config.Settings.defaultMarker
  fileMode : Mode := Config.Settings.defaultMode
  disk : Staging.Disk := .sound
  metered : Bool := true

namespace Depot

/-- The depot that settings describe, with programs for oracle and tool. -/
def ofSettings (settings : Config.Settings) (machine : Helper.Machine) : Depot where
  oracle := .command machine settings.oracleProgramPath settings.projectDir settings.timeoutMillis
  fingerprinter := settings.digest.fingerprinter
  tool := .command machine settings.createWorkProgramPath settings.projectDir settings.timeoutMillis
  marker := settings.downloadMarker
  fileMode := settings.fileMode

def record (depot : Depot) (outcome : Metrics.Outcome) (world : World) : World :=
  if depot.metered then { world with counters := world.counters.record outcome } else world

def ask (depot : Depot) (filename : Text) (world : World) : Except Placement.Failure Text × World :=
  let lookup := depot.oracle.ask world.lookups world.files filename
  (lookup.answer.bind (Placement.readAnswer filename),
   { world with
     files := lookup.files
     lookups := world.lookups ++ [filename]
     events := world.events ++ lookup.events })

def resolve (depot : Depot) (filename : Text) (world : World) :
    Except Placement.Failure Text × World :=
  match depot.ask filename world with
  | (.ok path, world) =>
    (.ok path, depot.record .lookupSucceeded (world.emit (.lookupDone filename path)))
  | (.error failure, world) =>
    (.error failure, depot.record .lookupFailed (world.emit (.lookupFailed filename)))

def toRelative (depot : Depot) (path : Text) : Text := Placement.relativeTo depot.marker path

/-- The relative path, when the path has the marker. -/
def toRelative? (depot : Depot) (path : Text) : Option Text := Text.afterLast? depot.marker path

/-- Where a file belongs, as seen by those who download it. -/
def downloadPath (depot : Depot) (filename : Text) (world : World) :
    Except Placement.Failure Text × World :=
  let (result, world) := depot.resolve filename world
  (result.map depot.toRelative, world)

end Depot
end WorkDepot
