import Std.Data.ExtTreeMap
import WorkDepot.Path
import WorkDepot.Text.Utf8
import WorkDepot.FileSystem.Fault

/-!
# The file system

A file system is a finite map from locations to directories, files and symbolic links; the root is
always a directory. A location is the list of names from the innermost one to the root, so that the
directory of an entry is its tail. Two file systems with the same nodes are equal.

Walking a path follows symbolic links, at most forty of them. What stands at a location must be a
directory before a step can be taken from it.
-/
namespace WorkDepot

/-- The names on the way to a node, the innermost one first. -/
abbrev Location := List Name

abbrev Mode := Nat

inductive Node where
  | directory
  | file (content : Bytes) (mode : Mode)
  | link (target : Text)
  deriving DecidableEq

structure FileSystem where
  nodes : Std.ExtTreeMap Location Node

namespace FileSystem

def empty : FileSystem := ⟨∅⟩

def node? (fs : FileSystem) : Location → Option Node
  | [] => some .directory
  | location => fs.nodes[location]?

def insert (fs : FileSystem) (location : Location) (node : Node) : FileSystem :=
  ⟨fs.nodes.insert location node⟩

def erase (fs : FileSystem) (location : Location) : FileSystem := ⟨fs.nodes.erase location⟩

def entries (fs : FileSystem) : List (Location × Node) := fs.nodes.toList

/-- The longest name that a directory can hold, in bytes. -/
def nameLimit : Nat := 255

/-- A path has fewer bytes than this. -/
def pathLimit : Nat := 4096

/-- The number of symbolic links that one walk may follow. -/
def linkLimit : Nat := 40

/-- Where the walk of a link's target starts. -/
def linkBase (directory : Location) (target : Text) : Location :=
  if Path.isAbsolute target then [] else directory

/-- Walks the steps from a location. At a symbolic link, `follow` goes on with the directory of the
link, its target and the steps that are left. -/
def walkWith (fs : FileSystem) {α : Type} (arrive : Location → α)
    (follow : Location → Text → List Path.Step → Except IoFault α) :
    Location → List Path.Step → Except IoFault α
  | location, [] => .ok (arrive location)
  | location, step :: steps =>
    match fs.node? location with
    | some .directory =>
      match step with
      | .stay => walkWith fs arrive follow location steps
      | .up => walkWith fs arrive follow location.tail steps
      | .into name =>
        if nameLimit < Text.byteLength name then .error .nameTooLong
        else
          match fs.node? (name :: location) with
          | none => .error .notFound
          | some (.link target) => follow location target steps
          | some _ => walkWith fs arrive follow (name :: location) steps
    | _ => .error .notDirectory

/-- Walks the steps from a location, following so many symbolic links. The answer is the location
and the number of links that may still be followed. -/
def walk (fs : FileSystem) : (links : Nat) → Location → List Path.Step →
    Except IoFault (Location × Nat)
  | 0 => fs.walkWith (·, 0) fun _ _ _ => .error .tooManyLinks
  | links + 1 => fs.walkWith (·, links + 1) fun directory target steps =>
      fs.walk links (linkBase directory target) (Path.steps target ++ steps)

/-- A path must be free of NUL characters, must not be empty and must not be too long. -/
def checkPath (path : Text) : Except IoFault Unit :=
  if '\x00' ∈ path then .error .nulInPath
  else if path = [] then .error .notFound
  else if pathLimit ≤ Text.byteLength path then .error .nameTooLong
  else .ok ()

def locate (fs : FileSystem) (path : Text) : Except IoFault Location := do
  checkPath path
  return (← fs.walk linkLimit [] (Path.steps path)).1

/-- A place in a directory for an entry. -/
structure Slot where
  directory : Location
  name : Name
  slashed : Bool

def Slot.location (slot : Slot) : Location := slot.name :: slot.directory

/-- The place that a path names, whether or not there is an entry in it and without following a link
that is; `none` for the root and for paths that end in dots. -/
def slot (fs : FileSystem) (path : Text) : Except IoFault (Option Slot) := do
  checkPath path
  let ending := Path.ending path
  let (directory, _) ← fs.walk linkLimit [] ending.before
  if fs.node? directory ≠ some .directory then throw .notDirectory
  match ending.name? with
  | none => return none
  | some name =>
    if nameLimit < Text.byteLength name then throw .nameTooLong
    return some ⟨directory, name, ending.slashed⟩

end FileSystem
end WorkDepot
