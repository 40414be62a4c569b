import WorkDepot.FileSystem.Basic

/-!
# File operations

The operations that programs ask of a file system: looking, reading, making directories with all
that is missing above them, private temporary files and their publication under a name that must be
free, and, for those who prepare a file system, writing, linking and removing.
-/
namespace WorkDepot.FileSystem

/-- Whether a path leads to anything. A missing entry on the way, or at the end of a link, is an
answer; every other fault is not. -/
def exists? (fs : FileSystem) (path : Text) : Except IoFault Bool :=
  match fs.locate path with
  | .ok _ => .ok true
  | .error .notFound => .ok false
  | .error fault => .error fault

def isDirectory (fs : FileSystem) (path : Text) : Bool :=
  match fs.locate path with
  | .ok location => fs.node? location = some .directory
  | .error _ => false

def read (fs : FileSystem) (path : Text) : Except IoFault Bytes := do
  match fs.node? (← fs.locate path) with
  | some (.file content _) => return content
  | some .directory => throw .isDirectory
  | _ => throw .notFound

/-- The text of a file, which must be valid UTF-8. -/
def readText (fs : FileSystem) (path : Text) : Except IoFault Text := do
  match Text.decode? (← fs.read path) with
  | some text => return text
  | none => throw .invalidUtf8

/-- Makes one directory, in a directory that is there. -/
def makeDirectory (fs : FileSystem) (path : Text) : Except IoFault FileSystem := do
  match ← fs.slot path with
  | none => throw .alreadyExists
  | some slot =>
    if (fs.node? slot.location).isSome then throw .alreadyExists
    return fs.insert slot.location .directory

/-- Makes the first of the paths a directory, after those that follow if it needs them. A path is
good as it is when it leads to a directory. What has been made stays when a later step fails. -/
def makeLineage (fs : FileSystem) : List Text → Except IoFault Unit × FileSystem
  | [] => (.error (.other "failed to create whole tree".toList), fs)
  | path :: above =>
    if path = [] then (.ok (), fs)
    else
      match fs.makeDirectory path with
      | .ok made => (.ok (), made)
      | .error .notFound =>
        match fs.makeLineage above with
        | (.error fault, fs) => (.error fault, fs)
        | (.ok (), fs) =>
          match fs.makeDirectory path with
          | .ok made => (.ok (), made)
          | .error fault => if fs.isDirectory path then (.ok (), fs) else (.error fault, fs)
      | .error fault => if fs.isDirectory path then (.ok (), fs) else (.error fault, fs)

def makeDirectories (fs : FileSystem) (path : Text) : Except IoFault Unit × FileSystem :=
  fs.makeLineage (Path.lineage path)

/-- The mode of a file that only its owner may read and write. -/
def privateMode : Mode := 0o600

/-- The permission bits proper, without the bits that tell kinds of files apart. -/
def permissionBits (mode : Mode) : Mode := mode % 0o10000

def locateDirectory (fs : FileSystem) (path : Text) : Except IoFault Location := do
  let location ← fs.locate path
  if fs.node? location = some .directory then return location else throw .notDirectory

/-- The first name of a series that is free in a directory. One among one name more than the file
system has nodes is free. -/
def freshName (fs : FileSystem) (directory : Location) (series : Nat → Name) : Name :=
  let isFree := fun i => (fs.node? (series i :: directory)).isNone
  series (((List.range (fs.nodes.size + 1)).find? isFree).getD 0)

def createTemp (fs : FileSystem) (location : Location) : FileSystem :=
  fs.insert location (.file [] privateMode)

def setContent (fs : FileSystem) (location : Location) (content : Bytes) : FileSystem :=
  match fs.node? location with
  | some (.file _ mode) => fs.insert location (.file content mode)
  | _ => fs

def setMode (fs : FileSystem) (location : Location) (mode : Mode) : FileSystem :=
  match fs.node? location with
  | some (.file content _) => fs.insert location (.file content (permissionBits mode))
  | _ => fs

/-- Moves a file to a path in one step, unless there is an entry already. -/
def publish (fs : FileSystem) (source : Location) (path : Text) : Except IoFault FileSystem := do
  match ← fs.slot path with
  | none => throw .alreadyExists
  | some slot =>
    if (fs.node? slot.location).isSome then throw .alreadyExists
    if slot.slashed then throw .notDirectory
    match fs.node? source with
    | some node => return (fs.erase source).insert slot.location node
    | none => throw .notFound

/-- The place that a file is written to: links at the end are followed, also to where nothing is. -/
def writeSlot (fs : FileSystem) : (links : Nat) → Text → Except IoFault Location
  | 0, _ => .error .tooManyLinks
  | links + 1, path => do
    match ← fs.slot path with
    | none => throw .isDirectory
    | some slot =>
      if slot.slashed then throw .isDirectory
      match fs.node? slot.location with
      | some (.link target) =>
        if Path.isAbsolute target then fs.writeSlot links target
        else fs.writeSlot links ('/' :: ['/'].intercalate (target :: slot.directory).reverse)
      | some .directory => throw .isDirectory
      | _ => return slot.location

/-- Writes a file anew or in place, and sets its mode. -/
def write (fs : FileSystem) (path : Text) (content : Bytes) (mode : Mode) :
    Except IoFault FileSystem := do
  let location ← fs.writeSlot (linkLimit + 1) path
  return fs.insert location (.file content (permissionBits mode))

def makeLink (fs : FileSystem) (path target : Text) : Except IoFault FileSystem := do
  if '\x00' ∈ target then throw .nulInPath
  if target = [] then throw .notFound
  match ← fs.slot path with
  | none => throw .alreadyExists
  | some slot =>
    if (fs.node? slot.location).isSome then throw .alreadyExists
    if slot.slashed then throw .notFound
    return fs.insert slot.location (.link target)

/-- Removes the entry that a path names, with everything below it. -/
def remove (fs : FileSystem) (path : Text) : Except IoFault FileSystem := do
  match ← fs.slot path with
  | none => throw .accessDenied
  | some slot =>
    let some node := fs.node? slot.location | throw .notFound
    if slot.slashed && node ≠ .directory then throw .notDirectory
    return ⟨fs.nodes.filter fun location _ => !slot.location.isSuffixOf location⟩

def below (fs : FileSystem) (top : Location) : List (Text × Node) :=
  let isBelow := fun (place : Location) => top.length < place.length && top.isSuffixOf place
  (fs.entries.filter fun entry => isBelow entry.1).map fun entry =>
    (['/'].intercalate (entry.1.take (entry.1.length - top.length)).reverse, entry.2)

end WorkDepot.FileSystem
