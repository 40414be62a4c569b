import WorkDepot.Text.Basic

/-!
# Steps and kinds of failure of a submission

A submission goes through five steps and fails, if it does, at one of them. Its failure is of one of
six kinds, which are also the labels under which failures are counted.
-/
namespace WorkDepot.Submission

inductive Step where
  | validateRequest
  | stageSeed
  | stageCmdline
  | invokeTool
  | parseOutput
  deriving DecidableEq

def Step.name : Step → Text
  | .validateRequest => "validate_request".toList
  | .stageSeed => "stage_seed".toList
  | .stageCmdline => "stage_cmdline".toList
  | .invokeTool => "invoke_tool".toList
  | .parseOutput => "parse_output".toList

inductive Kind where
  | configuration
  | consistency
  | oracle
  | storage
  | toolInvocation
  | toolProtocol
  deriving DecidableEq

namespace Kind

def all : List Kind :=
  [configuration, consistency, oracle, storage, toolInvocation, toolProtocol]

def label : Kind → Text
  | configuration => "configuration".toList
  | consistency => "consistency".toList
  | oracle => "oracle".toList
  | storage => "storage".toList
  | toolInvocation => "tool_invocation".toList
  | toolProtocol => "tool_protocol".toList

/-- Whether the one who made the request is at fault. -/
def isCallers (kind : Kind) : Bool := kind = configuration

end Kind
end WorkDepot.Submission
