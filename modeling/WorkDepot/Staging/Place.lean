import WorkDepot.FileSystem.Operations
import WorkDepot.Text.Number

/-!
# Placing content

Content comes to a path in steps: a look whether something is there; directories above it; a private
temporary file beside it, which is filled and given its mode; and publication under the path,
which must be free. Where there is something, at the first look or at publication, it is read and
compared, and never changed. A temporary file that is not published is removed.

The disk may fail at any of the steps.
-/
namespace WorkDepot.Staging
open FileSystem (checkPath)

/-- The steps at which placing content can fail. -/
inductive Operation where
  | stat
  | parent
  | createDir
  | createTemp
  | write
  | sync
  | chmod
  | persist
  | read
  | basename
  deriving DecidableEq

def Operation.name : Operation → Text
  | .stat => "stat".toList
  | .parent => "parent".toList
  | .createDir => "create_dir".toList
  | .createTemp => "create_temp".toList
  | .write => "write".toList
  | .sync => "sync".toList
  | .chmod => "chmod".toList
  | .persist => "persist".toList
  | .read => "read".toList
  | .basename => "basename".toList

/-- The fault with which a disk answers an operation that the state of the files would allow. -/
abbrev Disk := Operation → Option IoFault

def Disk.sound : Disk := fun _ => none

structure StorageFault where
  operation : Operation
  path : Text
  cause : IoFault
  deriving DecidableEq

inductive Placed where
  | written
  | identical
  | conflict
  deriving DecidableEq

/-- The result of an operation on a path, unless the disk fails. -/
def Disk.try (disk : Disk) (operation : Operation) (path : Text) {α : Type}
    (result : Except IoFault α) : Except StorageFault α :=
  match disk operation with
  | some cause => .error ⟨operation, path, cause⟩
  | none => result.mapError (⟨operation, path, ·⟩)

def compareExisting (disk : Disk) (fs : FileSystem) (path : Text) (content : Bytes) :
    Except StorageFault Placed := do
  let existing ← disk.try .read path (fs.read path)
  return if existing = content then .identical else .conflict

/-- The name of a temporary file ends in six digits. -/
def tempName (number : Nat) : Name :=
  ".gridstage-".toList ++ (Text.decimal number).leftpad 6 '0'

/-- The directory for a temporary file. As long as six digits are enough for the names of such
files, they have one length, and any of them tells whether the path of the next one is too long. -/
def tempDirectory (fs : FileSystem) (parent : Text) : Except IoFault Location := do
  checkPath (Path.join parent (tempName 0))
  fs.locateDirectory parent

/-- Fills a temporary file and gives it its mode. -/
def fillTemp (disk : Disk) (fs : FileSystem) (temp : Location) (tempPath : Text) (content : Bytes)
    (mode : Mode) : Except StorageFault FileSystem := do
  disk.try .write tempPath (.ok ())
  let fs := fs.setContent temp content
  disk.try .sync tempPath (.ok ())
  disk.try .chmod tempPath (.ok ())
  return fs.setMode temp mode

/-- Publishes a temporary file or, if something else is there by now, compares that. -/
def publishTemp (disk : Disk) (fs : FileSystem) (temp : Location) (path : Text) (content : Bytes) :
    Except StorageFault Placed × FileSystem :=
  match disk.try .persist path (fs.publish temp path) with
  | .ok published => (.ok .written, published)
  | .error fault =>
    let fs := fs.erase temp
    if fault.cause = .alreadyExists then (compareExisting disk fs path content, fs)
    else (.error fault, fs)

/-- Writes content to a new file in a directory and publishes it under a path. -/
def placeNew (disk : Disk) (fs : FileSystem) (parent path : Text) (content : Bytes) (mode : Mode) :
    Except StorageFault Placed × FileSystem :=
  match disk.try .createTemp parent (tempDirectory fs parent) with
  | .error fault => (.error fault, fs)
  | .ok directory =>
    let name := fs.freshName directory tempName
    let temp := name :: directory
    let fs := fs.createTemp temp
    match fillTemp disk fs temp (Path.join parent name) content mode with
    | .error fault => (.error fault, fs.erase temp)
    | .ok filled => publishTemp disk filled temp path content

/-- Places content at a path, unless there is something already. -/
def placeContent (disk : Disk) (fs : FileSystem) (path : Text) (content : Bytes) (mode : Mode) :
    Except StorageFault Placed × FileSystem :=
  match disk.try .stat path (fs.exists? path) with
  | .error fault => (.error fault, fs)
  | .ok true => (compareExisting disk fs path content, fs)
  | .ok false =>
    match Path.parent? path with
    | none => (.error ⟨.parent, path, .other "path has no parent directory".toList⟩, fs)
    | some parent =>
      match disk.try .createDir parent (.ok ()) with
      | .error fault => (.error fault, fs)
      | .ok () =>
        match fs.makeDirectories parent with
        | (.error cause, fs) => (.error ⟨.createDir, parent, cause⟩, fs)
        | (.ok (), fs) => placeNew disk fs parent path content mode

end WorkDepot.Staging
