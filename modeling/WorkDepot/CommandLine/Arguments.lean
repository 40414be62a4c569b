import WorkDepot.Text.Basic

/-!
# Arguments

The arguments of one command: flags, options with one value each, and words in fixed places. An
option's value is what follows it or stands behind an equals sign; whatever begins with a hyphen is
no value, unless the option takes such values. Two hyphens alone end the options. Nothing may be
given twice.

An option is settled when the next one comes, so that among several faults the first counts, and a
request for help counts when nothing before it is at fault.
-/
namespace WorkDepot.CommandLine

inductive Stop where
  | usage
  | help
  deriving DecidableEq

/-- Which values an option or a word may have. -/
structure ValueRule where
  accepts : Text → Bool := fun _ => true
  hyphens : Bool := false

/-- What a command takes. -/
structure Grammar where
  flags : List Text := []
  options : List (Text × ValueRule) := []
  words : List ValueRule := []
  subcommands : List Text := []

structure Given where
  flags : List Text := []
  options : List (Text × Text) := []
  words : List Text := []

/-- What has been read last and is not settled yet. -/
inductive Pending where
  | nothing
  | awaiting (option : Text) (rule : ValueRule)
  | option (name value : Text) (rule : ValueRule)
  | word (value : Text) (rule : ValueRule)

namespace Given

def option? (given : Given) (name : Text) : Option Text := given.options.lookup name

def addOption (given : Given) (name value : Text) (rule : ValueRule) : Except Stop Given :=
  if (given.option? name).isSome || !rule.accepts value then .error .usage
  else .ok { given with options := given.options ++ [(name, value)] }

def addFlag (given : Given) (name : Text) : Except Stop Given :=
  if given.flags.contains name then .error .usage
  else .ok { given with flags := given.flags ++ [name] }

def settle (given : Given) : Pending → Except Stop Given
  | .nothing => .ok given
  | .awaiting .. => .error .usage
  | .option name value rule => given.addOption name value rule
  | .word value rule =>
    if rule.accepts value then .ok { given with words := given.words ++ [value] } else .error .usage

end Given

/-- What the arguments of a command come to: what was given, what is not settled, and the
subcommand with its arguments. -/
structure Reading where
  given : Given
  pending : Pending
  subcommand? : Option (Text × List Text) := none

/-- The name and, behind an equals sign, the value of a long argument. -/
def splitLong (text : Text) : Text × Option Text :=
  let name := text.takeWhile (· ≠ '=')
  (name, (text.drop name.length).tail?)

namespace Grammar

def helpName : Text := "help".toList

/-- Puts a word in the next place for one. -/
def readWord (grammar : Grammar) (given : Given) (pending : Pending) (value : Text) :
    Except Stop (Given × Pending) := do
  let given ← given.settle pending
  match grammar.words[given.words.length]? with
  | some rule => return (given, .word value rule)
  | none => throw .usage

/-- Reads a long argument, without its two hyphens. -/
def readLong (grammar : Grammar) (given : Given) (pending : Pending) (text : Text) :
    Except Stop (Given × Pending) := do
  let (name, value?) := splitLong text
  match grammar.options.lookup name with
  | some rule =>
    let given ← given.settle pending
    match value? with
    | some value => return (← given.addOption name value rule, .nothing)
    | none => return (given, .awaiting name rule)
  | none =>
    if value?.isSome || !(name = helpName || grammar.flags.contains name) then throw .usage
    let given ← given.settle pending
    if name = helpName then throw .help
    return (← given.addFlag name, .nothing)

def readWords (grammar : Grammar) (given : Given) (pending : Pending) :
    List Text → Except Stop Reading
  | [] => .ok ⟨given, pending, none⟩
  | word :: rest => do
    let (given, pending) ← grammar.readWord given pending word
    readWords grammar given pending rest

/-- Reads arguments up to a subcommand. -/
def read (grammar : Grammar) (given : Given) (pending : Pending) : List Text → Except Stop Reading
  | [] => .ok ⟨given, pending, none⟩
  | argument :: rest =>
    match pending with
    | .awaiting name rule =>
      if rule.hyphens then read grammar given (.option name argument rule) rest
      else
        match argument with
        | '-' :: '-' :: [] => grammar.readWords given pending rest
        | '-' :: '-' :: _ :: _ | '-' :: _ :: _ => .error .usage
        | value => read grammar given (.option name value rule) rest
    | _ =>
      if grammar.subcommands.contains argument then .ok ⟨given, pending, some (argument, rest)⟩
      else
        match argument with
        | '-' :: '-' :: [] => grammar.readWords given pending rest
        | '-' :: '-' :: long => do
          let (given, pending) ← grammar.readLong given pending long
          read grammar given pending rest
        | '-' :: 'h' :: _ => do
          let _ ← given.settle pending
          throw .help
        | '-' :: _ :: _ => .error .usage
        | word => do
          let (given, pending) ← grammar.readWord given pending word
          read grammar given pending rest

end Grammar
end WorkDepot.CommandLine
