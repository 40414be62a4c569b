import Std.Data.ExtTreeMap
import WorkDepot.Submission.Kind
import WorkDepot.Text.Number

/-!
# Counters

Three families of counters, each with a count for every label that has been used. A label that has
been looked at is there too, with the count zero. Labels are listed in the order of their code
points, which is the order of their bytes.
-/
namespace WorkDepot.Metrics

/-- The counts of the labels of one family. -/
abbrev Family := Std.ExtTreeMap Text Nat

namespace Family

def count (family : Family) (label : Text) : Nat := family.getD label 0

def increment (family : Family) (label : Text) : Family :=
  family.insert label (family.count label + 1)

def touch (family : Family) (label : Text) : Family := family.insertIfNew label 0

def touchAll (family : Family) (labels : List Text) : Family := labels.foldl touch family

end Family

structure Counters where
  lookups : Family := ∅
  staged : Family := ∅
  submissions : Family := ∅

inductive Subject where
  | lookups
  | staged
  | submissions
  deriving DecidableEq

/-- The labels of what can happen in each family. -/
inductive Outcome where
  | lookupSucceeded
  | lookupFailed
  | fileCreated
  | fileReused
  | stagingFailed
  | submissionSucceeded
  | submissionFailed (kind : Submission.Kind)
  deriving DecidableEq

namespace Outcome

def subject : Outcome → Subject
  | lookupSucceeded | lookupFailed => .lookups
  | fileCreated | fileReused | stagingFailed => .staged
  | submissionSucceeded | submissionFailed _ => .submissions

def label : Outcome → Text
  | lookupSucceeded | submissionSucceeded => "success".toList
  | lookupFailed | stagingFailed => "failed".toList
  | fileCreated => "created".toList
  | fileReused => "reused".toList
  | submissionFailed kind => kind.label

end Outcome

/-- The sums that tell how a depot is doing. -/
structure Snapshot where
  stagedCreated : Nat
  stagedReused : Nat
  submissionsSucceeded : Nat
  submissionsFailed : Nat
  deriving DecidableEq

namespace Counters

def family (counters : Counters) : Subject → Family
  | .lookups => counters.lookups
  | .staged => counters.staged
  | .submissions => counters.submissions

def increment (counters : Counters) (subject : Subject) (label : Text) : Counters :=
  match subject with
  | .lookups => { counters with lookups := counters.lookups.increment label }
  | .staged => { counters with staged := counters.staged.increment label }
  | .submissions => { counters with submissions := counters.submissions.increment label }

def record (counters : Counters) (outcome : Outcome) : Counters :=
  counters.increment outcome.subject outcome.label

def count (counters : Counters) (outcome : Outcome) : Nat :=
  (counters.family outcome.subject).count outcome.label

def watched : List Outcome :=
  [.fileCreated, .fileReused, .submissionSucceeded] ++ Submission.Kind.all.map .submissionFailed

/-- The counters once a snapshot has looked at them. -/
def watch (counters : Counters) : Counters :=
  let labels := fun subject =>
    (watched.filter fun outcome => outcome.subject = subject).map Outcome.label
  { lookups := counters.lookups.touchAll (labels .lookups)
    staged := counters.staged.touchAll (labels .staged)
    submissions := counters.submissions.touchAll (labels .submissions) }

def snapshot (counters : Counters) : Snapshot where
  stagedCreated := counters.count .fileCreated
  stagedReused := counters.count .fileReused
  submissionsSucceeded := counters.count .submissionSucceeded
  submissionsFailed :=
    Submission.Kind.all.foldl (fun sum kind => sum + counters.count (.submissionFailed kind)) 0

end Counters

namespace Subject

def name : Subject → Text
  | lookups => "oracle_calls_total".toList
  | staged => "staged_files_total".toList
  | submissions => "workunit_submissions_total".toList

def help : Subject → Text
  | lookups => "Placement oracle lookups by outcome".toList
  | staged => "Content staging calls by outcome".toList
  | submissions => "Work-unit submissions by outcome".toList

/-- All families in the order of their names. -/
def all : List Subject := [lookups, staged, submissions]

end Subject

/-- A label's character between quotes. -/
def escapeLabelChar (c : Char) : Text :=
  if c = '\\' then ['\\', '\\']
  else if c = '\n' then ['\\', 'n']
  else if c = '"' then ['\\', '"']
  else [c]

def renderCount (subject : Subject) (label : Text) (count : Nat) : Text :=
  subject.name ++ "\x7boutcome=\"".toList ++ label.flatMap escapeLabelChar ++ "\"\x7d ".toList ++
    Text.decimal count ++ ['\n']

/-- The lines of a family; one without labels has none. -/
def renderFamily (subject : Subject) (family : Family) : Text :=
  if family.isEmpty then []
  else
    "# HELP ".toList ++ subject.name ++ ' ' :: subject.help ++ '\n' ::
    "# TYPE ".toList ++ subject.name ++ " counter\n".toList ++
    family.toList.flatMap fun entry => renderCount subject entry.1 entry.2

/-- All counts as text, in the exposition format of scrapers. -/
def Counters.render (counters : Counters) : Text :=
  Subject.all.flatMap fun subject => renderFamily subject (counters.family subject)

end WorkDepot.Metrics
