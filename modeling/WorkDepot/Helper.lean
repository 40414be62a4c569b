import WorkDepot.FileSystem.Operations

/-!
# Helper programs

A helper program is run in a project's directory with arguments. It writes to two streams, may
change files, and ends in one of three ways. Programs are looked up by location, among executable
files; a script is a program that is a list of actions.
-/
namespace WorkDepot.Helper

inductive Stream where
  | out
  | err
  deriving DecidableEq

inductive Ending where
  | exited (code : Nat)
  | killed
  | hung
  deriving DecidableEq

/-- What a program wrote, in order, and how it ended. -/
structure Run where
  writes : List (Stream × Bytes)
  ending : Ending

namespace Run

def written (run : Run) (stream : Stream) : Bytes :=
  (run.writes.filter fun write => write.1 = stream).flatMap (·.2)

def combined (run : Run) : Bytes := run.writes.flatMap (·.2)

end Run

/-- What a program does in a directory, given arguments and files. -/
abbrev Program := (directory : Location) → (arguments : List Text) → FileSystem → Run × FileSystem

/-- The programs that executable files hold. -/
abbrev Machine := Location → Option Program

/-- The one action that a script does at a time. -/
inductive Action where
  | write (stream : Stream) (content : Bytes)
  | writeArguments
  | writeDirectory
  /-- Makes a directory below another one and writes where the first argument belongs in it. -/
  | place (base name : Text)
  | exit (code : Nat)
  | kill
  | hang

def pathOf (location : Location) : Text :=
  if location.isEmpty then ['/'] else location.reverse.flatMap ('/' :: ·)

/-- Does the actions up to the first one that ends the script; after the last one it exits with
zero. -/
def runScript (directory : Location) (arguments : List Text) :
    List Action → FileSystem → Run × FileSystem
  | [], files => (⟨[], .exited 0⟩, files)
  | .exit code :: _, files => (⟨[], .exited (code % 256)⟩, files)
  | .kill :: _, files => (⟨[], .killed⟩, files)
  | .hang :: _, files => (⟨[], .hung⟩, files)
  | .write stream content :: rest, files =>
    wrote stream content (runScript directory arguments rest files)
  | .writeArguments :: rest, files =>
    wrote .out (Text.encode (arguments.flatMap (· ++ ['\n'])))
      (runScript directory arguments rest files)
  | .writeDirectory :: rest, files =>
    wrote .out (Text.encode (pathOf directory ++ ['\n'])) (runScript directory arguments rest files)
  | .place base name :: rest, files =>
    let bucket := base ++ '/' :: name
    wrote .out (Text.encode (bucket ++ '/' :: arguments.headD [] ++ ['\n']))
      (runScript directory arguments rest (files.makeDirectories bucket).2)
where
  /-- Puts a write before those of a run. -/
  wrote (stream : Stream) (content : Bytes) (result : Run × FileSystem) : Run × FileSystem :=
    ({ result.1 with writes := (stream, content) :: result.1.writes }, result.2)

def ofScript (script : List Action) : Program := fun directory arguments files =>
  runScript directory arguments script files

def isExecutable (mode : Mode) : Bool := mode % 2 = 1 || mode / 8 % 2 = 1 || mode / 64 % 2 = 1

def find (machine : Machine) (files : FileSystem) (path : Text) : Except IoFault Program := do
  let location ← files.locate path
  match files.node? location with
  | some (.file _ mode) =>
    if !isExecutable mode then throw .accessDenied
    match machine location with
    | some program => return program
    | none => throw .notExecutable
  | _ => throw .accessDenied

/-- An argument has fewer bytes than this. -/
def argumentLimit : Nat := 131072

/-- Runs the program of a path in a directory. -/
def start (machine : Machine) (files : FileSystem) (path directory : Text) (arguments : List Text) :
    Except IoFault (Run × FileSystem) := do
  if (path :: directory :: arguments).any fun text => '\x00' ∈ text then throw .nulInArgument
  let location ← files.locateDirectory directory
  let program ← find machine files path
  if arguments.any fun argument => argumentLimit ≤ Text.byteLength argument then
    throw .argumentTooLong
  return program location arguments files

end WorkDepot.Helper
