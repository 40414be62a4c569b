import WorkDepot.Config.Load
import WorkDepot.Text.Alphanumeric

/-!
# Log filters

A filter is a list of directives between commas; empty ones are skipped. A directive is a level, a
target, or a target and a span with an equals sign and a level behind them. A span stands in square
brackets and may have fields in braces.
-/
namespace WorkDepot.Log

inductive Format where
  | json
  | pretty
  | compact
  deriving DecidableEq

namespace Format

def all : List Format := [json, pretty, compact]

def name : Format → Text
  | json => "json".toList
  | pretty => "pretty".toList
  | compact => "compact".toList

def ofName? (name : Text) : Option Format := all.find? fun format => format.name = name

/-- The format of a name in either case of letter, with blanks around it. The fault shows the name
that was read. -/
def ofText (text : Text) : Except Text Format :=
  let name := Text.toLowerAscii (Text.trim text)
  match ofName? name with
  | some format => .ok format
  | none => .error ("unknown log format \x60".toList ++ name ++ ['\x60'])

end Format

def defaultLevel : Text := "info".toList

def levelNames : List Text :=
  ["error".toList, "warn".toList, "info".toList, "debug".toList, "trace".toList, "off".toList]

/-- A level is a number of at most five, a name in either case of letter, or empty. -/
def isLevel (text : Text) : Bool :=
  (Text.readUnsigned 10 64 text).any (· ≤ 5) || text.isEmpty ||
    levelNames.contains (Text.toLowerAscii text)

/-- Where in a directive the reading stands. -/
inductive Place where
  | start
  | target
  | span
  | field (empty : Bool)
  | afterFields
  | afterSpan
  | level

def beginsTarget (c : Char) : Bool := Text.isAlphanumeric c || c = '-' || c = ':' || c = '_'

/-- The place after one more character, if it may stand there. -/
def Place.step? : Place → Char → Option Place
  | start, '[' => some span
  | start, c => if beginsTarget c then some target else none
  | target, '=' => some level
  | target, '[' => some span
  | target, _ => some target
  | span, ']' => some afterSpan
  | span, '\x7b' => some (field true)
  | span, _ => some span
  | field empty, '\x7d' => if empty then none else some afterFields
  | field _, _ => some (field false)
  | afterFields, ']' => some afterSpan
  | afterFields, _ => none
  | afterSpan, '=' => some level
  | afterSpan, '[' => some span
  | afterSpan, _ => some afterSpan
  | level, _ => some level

/-- Whether a directive can be read. What stands behind the first equals sign that ends a target or
a span must be a level, and then there may be no blanks around the directive. -/
def isDirective (directive : Text) : Bool :=
  let trimmed := Text.trim directive
  go (trimmed = directive) .start trimmed
where
  go (bare : Bool) : Place → Text → Bool
    | .target, [] | .afterSpan, [] => true
    | _, [] => false
    | place, c :: rest =>
      match place.step? c with
      | none => false
      | some .level => bare && isLevel rest
      | some next => go bare next rest

def isFilter (filter : Text) : Bool :=
  (Text.splitAt ',' filter).all fun directive => directive.isEmpty || isDirective directive

def filterVariable : Text := "RUST_LOG".toList

/-- The filter to use: the environment's unless it is blank. -/
def filterOf (environment : Config.Environment) (level : Text) : Text :=
  ((environment filterVariable).filter fun value => !Text.isBlank value).getD level

inductive Error where
  | invalidFilter (directive : Text)
  | alreadyInstalled
  deriving DecidableEq

def Error.message : Error → Text
  | .invalidFilter _ => "invalid log filter directive".toList
  | .alreadyInstalled => "tracing subscriber already installed".toList

/-- Starts to log with a filter, which only the first one who does it can. -/
def install (environment : Config.Environment) (level : Text) (installed : Bool) :
    Except Error Unit :=
  let filter := filterOf environment level
  if !isFilter filter then .error (.invalidFilter filter)
  else if installed then .error .alreadyInstalled
  else .ok ()

end WorkDepot.Log
