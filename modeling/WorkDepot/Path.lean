import WorkDepot.Text.Basic

/-!
# Paths

A path is a text of segments with slashes between them. Empty segments and single dots say to stay,
a double dot says to go up, and every other segment is a name to go into. Joining, the parent and
the file name look at the text alone; what a path leads to is the file system's affair.
-/
namespace WorkDepot

abbrev Name := Text

namespace Path

def isAbsolute (path : Text) : Bool := path.head? = some '/'

/-- The relative path behind the base, with one slash between them unless there is one already. An
absolute path takes the place of the base. -/
def join (base path : Text) : Text :=
  if isAbsolute path || base.isEmpty then path
  else if base.getLast? = some '/' then base ++ path
  else base ++ '/' :: path

inductive Step where
  | stay
  | up
  | into (name : Name)
  deriving DecidableEq

def Step.ofSegment (segment : Text) : Step :=
  if segment = [] || segment = ['.'] then .stay
  else if segment = ['.', '.'] then .up
  else .into segment

/-- The steps from the root, or from wherever the path is said to start. -/
def steps (path : Text) : List Step := (Text.splitAt '/' path).map Step.ofSegment

/-- The end of a path as an entry of a directory: the steps to the directory, the name in it if
the end is one, and whether a slash follows the name. -/
structure End where
  before : List Step
  name? : Option Name
  slashed : Bool

def End.ofReversed : List Text → (slashed : Bool) → End
  | [], slashed => ⟨[], none, slashed⟩
  | [] :: earlier, _ => ofReversed earlier true
  | segment :: earlier, slashed =>
    { before := (earlier.map Step.ofSegment).reverse
      name? := match Step.ofSegment segment with
        | .into name => some name
        | _ => none
      slashed }

def ending (path : Text) : End := End.ofReversed (Text.splitAt '/' path).reverse false

/-- The segments of a path, last one first, without those at the end that say to stay. -/
def dropStays (reversed : List Text) : List Text :=
  reversed.dropWhile fun segment => Step.ofSegment segment = .stay

def body (path : Text) : Text := if isAbsolute path then path.tail else path

/-- The path of such segments, last one first, under the same root. -/
def ofReversed (path : Text) (reversed : List Text) : Text :=
  (if isAbsolute path then ['/'] else []) ++ ['/'].intercalate reversed.reverse

/-- The path without its last segment other than those that say to stay; the root has none. -/
def parent? (path : Text) : Option Text :=
  match dropStays (Text.splitAt '/' (body path)).reverse with
  | [] => none
  | _ :: earlier => some (ofReversed path (dropStays earlier))

/-- The last segment other than those that say to stay, if it is a name. -/
def fileName? (path : Text) : Option Name :=
  match dropStays (Text.splitAt '/' (body path)).reverse with
  | [] => none
  | segment :: _ =>
    match Step.ofSegment segment with
    | .into name => some name
    | _ => none

/-- A path, its parent, the parent of that, at most so many of them. -/
def ancestors : (count : Nat) → Text → List Text
  | 0, _ => []
  | count + 1, path => path :: ((parent? path).map (ancestors count)).getD []

/-- A path and all paths above it, the lowest first. A path has no more of them than characters, and
one more for itself. -/
def lineage (path : Text) : List Text := ancestors (path.length + 1) path

end Path
end WorkDepot
