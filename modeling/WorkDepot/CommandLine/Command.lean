import WorkDepot.CommandLine.Arguments
import WorkDepot.Log.Filter

/-!
# Commands

Five commands, each with arguments of its own, and options that may stand before or behind the
command's name. An option behind the name wins over the same one before it.
-/
namespace WorkDepot.CommandLine

inductive OutputFormat where
  | text
  | json
  deriving DecidableEq

namespace OutputFormat

def name : OutputFormat → Text
  | text => "text".toList
  | json => "json".toList

def ofName? (name : Text) : Option OutputFormat :=
  [text, json].find? fun format => format.name = name

end OutputFormat

inductive Command where
  | resolve (filename : Text)
  | downloadPath (filename : Text)
  | stage (label source : Text)
  | locate (label hash : Text)
  | submit (appName cmdline : Text) (seedFile seedPath : Option Text)
  deriving DecidableEq

structure Call where
  config : Option Text
  projectDir : Option Text
  logFormat : Option Log.Format
  logLevel : Text
  output : OutputFormat
  printMetrics : Bool
  command : Command
  deriving DecidableEq

inductive CommandName where
  | resolve
  | downloadPath
  | stage
  | locate
  | submit
  deriving DecidableEq

namespace CommandName

def all : List CommandName := [resolve, downloadPath, stage, locate, submit]

def name : CommandName → Text
  | resolve => "resolve".toList
  | downloadPath => "download-path".toList
  | stage => "stage".toList
  | locate => "locate".toList
  | submit => "submit".toList

def ofName? (name : Text) : Option CommandName := all.find? fun command => command.name = name

end CommandName

def pathRule : ValueRule := { accepts := fun value => !value.isEmpty }

def commonOptions : List (Text × ValueRule) :=
  [("config".toList, pathRule), ("project-dir".toList, pathRule),
   ("log-format".toList, { accepts := fun value => (Log.Format.ofName? value).isSome }),
   ("log-level".toList, {}),
   ("output".toList, { accepts := fun value => (OutputFormat.ofName? value).isSome })]

def metricsFlag : Text := "print-metrics".toList

/-- What stands before the name of a command. -/
def outerGrammar : Grammar where
  flags := [metricsFlag]
  options := commonOptions
  subcommands := Grammar.helpName :: CommandName.all.map CommandName.name

def CommandName.options : CommandName → List (Text × ValueRule)
  | resolve | downloadPath => []
  | stage => [("prefix".toList, {})]
  | locate => [("prefix".toList, {}), ("hash".toList, {})]
  | submit =>
    [("app".toList, {}), ("cmdline".toList, { hyphens := true }),
     ("seed-file".toList, pathRule), ("seed-path".toList, pathRule)]

def CommandName.words : CommandName → List ValueRule
  | resolve | downloadPath => [{}]
  | stage => [pathRule]
  | locate | submit => []

def CommandName.grammar (command : CommandName) : Grammar where
  flags := [metricsFlag]
  options := commonOptions ++ command.options
  words := command.words

/-- The command that arguments amount to, when nothing that it needs is missing. -/
def CommandName.command? (command : CommandName) (given : Given) : Option Command :=
  match command with
  | resolve => do return .resolve (← given.words.head?)
  | downloadPath => do return .downloadPath (← given.words.head?)
  | stage => do return .stage (← given.option? "prefix".toList) (← given.words.head?)
  | locate => do
    return .locate (← given.option? "prefix".toList) (← given.option? "hash".toList)
  | submit => do
    return .submit (← given.option? "app".toList) (← given.option? "cmdline".toList)
      (given.option? "seed-file".toList) (given.option? "seed-path".toList)

/-- The call that the arguments before and behind a command's name amount to. -/
def callOf (outer inner : Given) (command : Command) : Call :=
  let option? := fun (name : String) =>
    (inner.option? name.toList).or (outer.option? name.toList)
  { config := option? "config"
    projectDir := option? "project-dir"
    logFormat := (option? "log-format").bind Log.Format.ofName?
    logLevel := (option? "log-level").getD Log.defaultLevel
    output := ((option? "output").bind OutputFormat.ofName?).getD .text
    printMetrics := inner.flags.contains metricsFlag || outer.flags.contains metricsFlag
    command }

/-- Help may be asked for about one command, or about help. -/
def readHelp (topics : List Text) : Stop :=
  match topics with
  | [] => .help
  | [topic] => if outerGrammar.subcommands.contains topic then .help else .usage
  | _ => .usage

/-- The call that arguments amount to. -/
def Call.ofArguments (arguments : List Text) : Except Stop Call := do
  let outer ← outerGrammar.read {} .nothing arguments
  match outer.subcommand? with
  | none => throw .usage
  | some (name, rest) =>
    match CommandName.ofName? name with
    | none => throw (readHelp rest)
    | some commandName =>
      let inner ← commandName.grammar.read {} .nothing rest
      let innerGiven ← inner.given.settle inner.pending
      match commandName.command? innerGiven with
      | none => throw .usage
      | some command =>
        let outerGiven ← outer.given.settle outer.pending
        return callOf outerGiven innerGiven command

end WorkDepot.CommandLine
